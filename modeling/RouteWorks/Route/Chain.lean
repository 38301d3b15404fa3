import RouteWorks.Route.Tree
import RouteWorks.Source.Reference
import RouteWorks.Text.Ordered

/-!
# Registration chains

The route tree is written as a chain of builder calls: a handler is a route, a mount is a service
under its key, and a node with children is a nested router. Middleware becomes layers around the
leaf and around the nest. Elements are the calls of the chain; their text comes last.
-/

namespace RouteWorks

/-- An item that the chain names, seen from the module of the router. -/
structure Target where
  reference : ModuleReference
  item : String
  deriving DecidableEq, Repr, Inhabited

/-- The item with its qualifier. -/
def Target.text (t : Target) : String := t.reference.qualifier ++ t.item

/-- A call of the chain. Layers are middleware from the outermost to the innermost. -/
inductive Element where
  /-- A handler under its pattern. -/
  | route (handler : Handler) (pattern : String) (target : Target) (layers : List Target)
  /-- A directory under its key. -/
  | mount (mount : Mount) (key : String) (layers : List Target)
  /-- The routes below a key. -/
  | nest (key : String) (elements : List Element) (layers : List Target)
  deriving Repr, Inhabited

/-- What a chain is written for. -/
structure ChainContext where
  /-- The directory of the router. -/
  owner : Location
  /-- The entry module, once it is known. -/
  entry : Option Location
  /-- The crate that binds requests. -/
  runtime : String
  deriving DecidableEq, Repr, Inhabited

namespace ChainContext

/-- An item declared at a location. -/
def target (ctx : ChainContext) (location : Location) (item : String) : Except Fault Target := do
  return { reference := ← ModuleReference.resolve location ctx.owner ctx.entry, item }

/-- The layers of middleware. -/
def layers (ctx : ChainContext) (ms : List Middleware) : Except Fault (List Target) :=
  ms.mapM fun m => ctx.target m.location m.name.snake

/-- The call for the leaf of a node. -/
def leaf (ctx : ChainContext) (key pattern : String) (layers : List Target) :
    Leaf → Except Fault Element
  | .handler h => do
    let item := if h.fields.isSome then h.name.canonical else h.name.snake
    return .route h pattern (← ctx.target h.location item) layers
  | .mount m => .ok (.mount m key layers)

mutual

/-- The calls for a node: first its leaf, then the nest of its children. Children of the root stand
beside its leaf. Middleware with nothing to wrap is left out. -/
def elements (ctx : ChainContext) : RouteNode → Except Fault (List Element)
  | ⟨key, pattern, leaf, middleware, children⟩ => do
    if leaf.isNone && children.isEmpty && !middleware.isEmpty then return []
    let layers ← ctx.layers middleware
    let own ← match leaf with
      | none => pure []
      | some l => do pure [← ctx.leaf key pattern layers l]
    if children.isEmpty then return own
    let below ← elementsAll ctx children
    return own ++ if key = "" then below else [.nest key below layers]

/-- The calls for a forest. -/
def elementsAll (ctx : ChainContext) : List RouteNode → Except Fault (List Element)
  | [] => .ok []
  | n :: ns => do
    let first ← elements ctx n
    let rest ← elementsAll ctx ns
    return first ++ rest

end

end ChainContext

namespace Element

mutual

/-- The items that a call names. -/
def targets : Element → List Target
  | route _ _ target layers => layers ++ [target]
  | mount _ _ layers => layers
  | nest _ elements layers => layers ++ targetsAll elements

/-- The items that calls name. -/
def targetsAll : List Element → List Target
  | [] => []
  | e :: es => targets e ++ targetsAll es

end

/-- A layer of middleware. -/
def layerText (t : Target) : String := "axum::middleware::from_fn(" ++ t.text ++ ")"

/-- A service builder with layers; `none` without any. -/
def service? (layers : List String) : Option String :=
  if layers.isEmpty then none
  else some ("tower::ServiceBuilder::new()"
    ++ String.join (layers.map fun l => ".layer(" ++ l ++ ")"))

/-- A call that puts layers around what is in front, if there are any. -/
def layerCall (layers : List Target) : String :=
  match service? (layers.map layerText) with
  | none => ""
  | some service => ".layer(" ++ service ++ ")"

/-- A handler under the methods it answers. -/
def methodRouter (methods : List Method) (target : String) : String :=
  match methods with
  | [] => "axum::routing::any(" ++ target ++ ")"
  | m :: ms =>
    "axum::routing::" ++ m.routing ++ "(" ++ target ++ ")"
      ++ String.join (ms.map fun m => "." ++ m.routing ++ "(" ++ target ++ ")")

/-- What a route calls: the function of a handler, or the binding of a record handler. -/
def callee (runtime : String) (h : Handler) (target : Target) : String :=
  if h.fields.isSome then runtime ++ "::serve::<" ++ target.text ++ ">" else target.text

/-- The layer that tells clients not to cache. -/
def noCacheLayer : String :=
  "tower_http::set_header::SetResponseHeaderLayer::overriding("
    ++ "axum::http::header::CACHE_CONTROL, axum::http::HeaderValue::from_static(\"no-cache\"))"

/-- The service of a mount with its layers. -/
def mountService (m : Mount) (layers : List Target) : String :=
  let files := "tower_http::services::ServeDir::new(" ++ Text.quote m.root ++ ")"
    ++ if m.noCompress then "" else ".precompressed_gzip().precompressed_br()"
  let layers := layers.map layerText ++ if m.noCache then [noCacheLayer] else []
  match service? layers with
  | none => files
  | some service => service ++ ".service(" ++ files ++ ")"

/-- A line at a depth. -/
def line (depth : Nat) (text : String) : String := Text.replicate (4 * depth) " " ++ text

mutual

/-- The lines of a call: a comment, and the call itself. -/
def lines (runtime : String) (depth : Nat) : Element → List String
  | route h pattern target layers =>
    [line depth ("// " ++ h.routeName),
     line depth (".route(" ++ Text.quote ("/" ++ pattern) ++ ", "
      ++ methodRouter h.methods (callee runtime h target) ++ layerCall layers ++ ")")]
  | mount m key layers =>
    [line depth ("// " ++ m.name),
     line depth (if key = "" then ".fallback_service(" ++ mountService m layers ++ ")"
      else ".nest_service(" ++ Text.quote ("/" ++ key) ++ ", " ++ mountService m layers ++ ")")]
  | nest key elements layers =>
    [line depth ("// /" ++ key), line depth (".nest(" ++ Text.quote ("/" ++ key) ++ ","),
     line (depth + 1) "axum::Router::new()"]
      ++ linesAll runtime (depth + 2) elements
      ++ (if layers.isEmpty then [] else [line (depth + 2) (layerCall layers)])
      ++ [line depth ")"]

/-- The lines of calls. -/
def linesAll (runtime : String) (depth : Nat) : List Element → List String
  | [] => []
  | e :: es => lines runtime depth e ++ linesAll runtime depth es

end

end Element

/-- The written chain of a router. -/
structure Chain where
  /-- The paths to import, in ascending order. -/
  imports : List String
  lines : List String
  deriving DecidableEq, Repr, Inhabited

namespace Chain

/-- The chain of a route tree. -/
def ofForest (ctx : ChainContext) (forest : List RouteNode) : Except Fault Chain := do
  let elements ← ctx.elementsAll forest
  return {
    imports := Ordered.ofList ((Element.targetsAll elements).filterMap (·.reference.import?))
    lines := Element.linesAll ctx.runtime 1 elements }

/-- The chain as one text. -/
def text (c : Chain) : String := Text.join "\n" c.lines

end Chain

end RouteWorks
