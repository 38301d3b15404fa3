import RouteWorks.Proofs.Text.Literal
import RouteWorks.Route.Chain

/-!
# What a registration chain registers

A written chain is a program for a router builder.  It is read here for what it means: the lines are
calls, a call adds a service to the router or opens and closes a nested one, and a layer wraps all that
the router has got so far.  At the end every service stands at its full path, with its layers from
the outermost to the innermost (`readChain`).
-/

namespace RouteWorks

open Text

/-! ## Services -/

/-- What stands around a service. -/
inductive Layer where
  /-- The function at a path runs first. -/
  | middleware (path : String)
  /-- The header at a path is set in the response. -/
  | header (name value : String)
  deriving DecidableEq, Repr

/-- What answers a request. -/
inductive Callee where
  /-- The function at a path. -/
  | function (path : String)
  /-- The record at a path, bound by the runtime crate. -/
  | record (path : String)
  deriving DecidableEq, Repr

/-- What answers one method of a route; any method when there is none. -/
structure Answer where
  method : Option Method
  callee : Callee
  layers : List Layer
  deriving DecidableEq, Repr

/-- A directory that is served. -/
structure Served where
  root : String
  /-- Compressed variants are looked for. -/
  precompressed : Bool
  layers : List Layer
  deriving DecidableEq, Repr

/-- What a router has got at a path. -/
inductive Service where
  | route (path : String) (answers : List Answer)
  | mount (path : String) (isFallback : Bool) (served : Served)
  deriving DecidableEq, Repr

/-- An answer with layers around it. -/
def Answer.wrap (layers : List Layer) (a : Answer) : Answer :=
  { a with layers := layers ++ a.layers }

/-- A directory with layers around it. -/
def Served.wrap (layers : List Layer) (s : Served) : Served :=
  { s with layers := layers ++ s.layers }

namespace Service

/-- A service with layers around it. -/
def wrap (layers : List Layer) : Service → Service
  | route path answers => route path (answers.map (Answer.wrap layers))
  | mount path isFallback served => mount path isFallback (served.wrap layers)

/-- A service of a router that is nested at a path. -/
def below (above : String) : Service → Service
  | route path answers => route (above ++ path) answers
  | mount path isFallback served => mount (above ++ path) isFallback served

end Service

/-! ## Calls -/

namespace Chain

/-- A line of a chain. -/
inductive Call where
  | comment
  | route (path : String) (answers : List Answer)
  | mount (path : String) (served : Served)
  | fallback (served : Served)
  /-- Opens a nested router. -/
  | nest (path : String)
  /-- Creates the router that has been opened. -/
  | create
  | layer (layers : List Layer)
  /-- Closes a nested router. -/
  | close
  deriving DecidableEq, Repr

/-- Reads one layer. -/
def readLayer : Reader Layer := fun cs =>
  match expect "axum::middleware::from_fn(" cs with
  | some rest => (readUntil ')' rest).map fun (path, rest) => (.middleware path, rest)
  | none => do
      let rest ← expect "tower_http::set_header::SetResponseHeaderLayer::overriding(" cs
      let (name, rest) ← readUntil ',' rest
      let rest ← expect " axum::http::HeaderValue::from_static(" rest
      let (value, rest) ← readLiteral rest
      return (.header name value, ← expect "))" rest)

/-- Reads a layer that is added to a service builder. -/
def readAdded : Reader Layer := fun cs => do
  let rest ← expect ".layer(" cs
  let (layer, rest) ← readLayer rest
  return (layer, ← expect ")" rest)

/-- Reads a service builder: what is added first is outermost. -/
def readBuilder : Reader (List Layer) := fun cs => do
  let rest ← expect "tower::ServiceBuilder::new()" cs
  return readMany readAdded rest

/-- Reads what answers a request, and the bracket behind it. -/
def readCallee (runtime : String) : Reader Callee := fun cs =>
  match expect (runtime ++ "::serve::<") cs with
  | some rest => do
      let (path, rest) ← readUntil '>' rest
      return (.record path, ← expect ")" rest)
  | none => (readUntil ')' cs).map fun (path, rest) => (.function path, rest)

/-- The method with a registration function. -/
def routed? (name : String) : Option Method := Method.all.find? (·.routing == name)

/-- What a registration function answers: one method, or any. -/
def answered? (name : String) : Option (Option Method) :=
  if name = "any" then some none else (routed? name).map some

/-- What is added to the router of one route. -/
inductive Added where
  /-- Another method is answered. -/
  | answer (method : Method) (callee : Callee)
  /-- Layers around all answers so far. -/
  | layers (layers : List Layer)
  deriving DecidableEq, Repr

/-- Reads what is added to the router of one route. -/
def readMore (runtime : String) : Reader Added := fun cs => do
  let rest ← expect "." cs
  let (name, rest) ← readUntil '(' rest
  if name = "layer" then
    let (layers, rest) ← readBuilder rest
    return (.layers layers, ← expect ")" rest)
  else
    let method ← routed? name
    let (callee, rest) ← readCallee runtime rest
    return (.answer method callee, rest)

/-- The answers of a route with something added. -/
def addTo (answers : List Answer) : Added → List Answer
  | .answer method callee => answers ++ [⟨some method, callee, []⟩]
  | .layers layers => answers.map (Answer.wrap layers)

/-- Reads the router of one route. -/
def readAnswers (runtime : String) : Reader (List Answer) := fun cs => do
  let rest ← expect "axum::routing::" cs
  let (name, rest) ← readUntil '(' rest
  let method ← answered? name
  let (callee, rest) ← readCallee runtime rest
  let (more, rest) := readMany (readMore runtime) rest
  return (more.foldl addTo [⟨method, callee, []⟩], rest)

/-- Reads a directory. -/
def readFiles (layers : List Layer) : Reader Served := fun cs => do
  let rest ← expect "tower_http::services::ServeDir::new(" cs
  let (root, rest) ← readLiteral rest
  let rest ← expect ")" rest
  match expect ".precompressed_gzip().precompressed_br()" rest with
  | some rest => return (⟨root, true, layers⟩, rest)
  | none => return (⟨root, false, layers⟩, rest)

/-- Reads a directory and the layers around it. -/
def readServed : Reader Served := fun cs =>
  match readBuilder cs with
  | some (layers, rest) => do
      let rest ← expect ".service(" rest
      let (served, rest) ← readFiles layers rest
      return (served, ← expect ")" rest)
  | none => readFiles [] cs

/-- What is read, when nothing but the closing bracket follows. -/
def closed {α : Type} : α × List Char → Option α
  | (a, [')']) => some a
  | _ => none

/-- Reads what a call is given, by the name of the call. -/
def readArguments (runtime name : String) (cs : List Char) : Option Call :=
  if name = ".route" then do
    let (path, rest) ← readLiteral cs
    return .route path (← closed (← readAnswers runtime (← expect ", " rest)))
  else if name = ".nest_service" then do
    let (path, rest) ← readLiteral cs
    return .mount path (← closed (← readServed (← expect ", " rest)))
  else if name = ".fallback_service" then do
    return .fallback (← closed (← readServed cs))
  else if name = ".nest" then do
    let (path, rest) ← readLiteral cs
    if rest = [','] then some (.nest path) else none
  else if name = "axum::Router::new" then
    if cs = [')'] then some .create else none
  else if name = ".layer" then do
    return .layer (← closed (← readBuilder cs))
  else none

/-- Reads a line behind its indentation.  A comment ends where the line ends. -/
def readText (runtime : String) (cs : List Char) : Option Call :=
  if (expect "//" cs).isSome then some .comment
  else if cs = [')'] then some .close
  else do
    let (name, rest) ← readUntil '(' cs
    readArguments runtime name rest

/-- Reads a line. -/
def readCall (runtime line : String) : Option Call :=
  readText runtime (line.toList.dropWhile (· == ' '))

/-! ## Running a chain -/

/-- The routers that are open while a chain is read. -/
structure Building where
  /-- The routers around the current one, the nearest first: where the one below is nested in each
  of them, and what each has got so far. -/
  outer : List (String × List Service)
  /-- What the current router has got so far; none before it is created. -/
  current : Option (List Service)
  deriving DecidableEq, Repr

namespace Building

/-- Runs one call. -/
def step (b : Building) (call : Call) : Option Building :=
  match call, b.current, b.outer with
  | .comment, _, _ => some b
  | .create, none, _ => some { b with current := some [] }
  | .route path answers, some ss, _ => some { b with current := some (ss ++ [.route path answers]) }
  | .mount path served, some ss, _ =>
      some { b with current := some (ss ++ [.mount path false served]) }
  | .fallback served, some ss, _ =>
      some { b with current := some (ss ++ [.mount "/" true served]) }
  | .layer layers, some ss, _ => some { b with current := some (ss.map (Service.wrap layers)) }
  | .nest path, some ss, outer => some ⟨(path, ss) :: outer, none⟩
  | .close, some ss, (path, above) :: outer =>
      some ⟨outer, some (above ++ ss.map (Service.below path))⟩
  | _, _, _ => none

/-- Runs one line. -/
def readLine (runtime : String) (b : Building) (line : String) : Option Building :=
  (readCall runtime line).bind b.step

/-- Runs lines one after another. -/
def run (runtime : String) (b : Building) (lines : List String) : Option Building :=
  lines.foldlM (readLine runtime) b

/-- What has been built, when no nested router is left open. -/
def result? : Building → Option (List Service)
  | ⟨[], current⟩ => current
  | _ => none

end Building

/-- The services that the lines of a chain register on a new router; none when a line cannot be read
or the nested routers are not balanced. -/
def readChain (runtime : String) (lines : List String) : Option (List Service) :=
  (Building.run runtime ⟨[], some []⟩ lines).bind Building.result?

end Chain

end RouteWorks
