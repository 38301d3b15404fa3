import RouteWorks.Project

/-!
# Registration in place

A program declares routers, registers specs with them and attaches them to one project, one request
after the other. Everything is changed in place: a request that is refused stops with a fault, and
the program goes on with whatever it has then.
-/

namespace RouteWorks

/-- Changes of a state in place. When one stops with a fault, what it has done so far stays. -/
abbrev Change (σ : Type) : Type → Type := EStateM Fault σ

namespace Change

variable {α σ τ : Type}

/-- Stops the change when a check fails. -/
def require (check : Except Fault α) : Change σ Unit :=
  match check with
  | .ok _ => pure ()
  | .error fault => throw fault

/-- A change of one part of a state. -/
def onPart (part : σ → τ) (put : τ → σ → σ) (change : Change τ Unit) : Change σ Unit := fun s =>
  match change (part s) with
  | .ok _ t => .ok () (put t s)
  | .error fault t => .error fault (put t s)

/-- What a change leaves behind, whether it has stopped or not. -/
def leave (change : Change σ Unit) (s : σ) : σ :=
  match change s with
  | .ok _ s => s
  | .error _ s => s

end Change

/-- What a router is asked to register. -/
inductive Registration where
  | handler (h : Handler)
  | middleware (m : Middleware)
  | middlewares (ms : List Middleware)
  | mount (m : Mount)
  deriving DecidableEq, Repr, Inhabited

namespace Registration

/-- What is registered when nothing is refused. -/
def specs : Registration → List Spec
  | handler h => [.handler h]
  | middleware m => [.middleware m]
  | middlewares ms => ms.map .middleware
  | mount m => [.mount m]

/-- Puts a spec at the end of a router. -/
def push (s : Spec) : Change Router Unit :=
  modify fun r => { r with specs := r.specs ++ [s] }

/-- Registers several middleware one after the other, once all of them have been checked. -/
def pushAll (ms : List Middleware) : Change Router Unit := do
  ms.forM fun m => do
    Change.require (checkPath m.path m.name.canonical)
    Change.require (Identifier.ofName m.name.canonical)
  ms.forM fun m => push (.middleware m)

/-- Registers in place. The names are those of identifiers, and are read once more. -/
def perform : Registration → Change Router Unit
  | handler h => do
    Change.require (checkPath h.path h.name.canonical)
    Change.require (Identifier.ofName h.name.canonical)
    match h.fields with
    | none => pure ()
    | some fields => Change.require (Field.checkAll h.name.canonical fields)
    push (.handler h)
  | middleware m => pushAll [m]
  | middlewares ms => pushAll ms
  | mount m => do
    Change.require (checkPath m.path m.name)
    push (.mount m)

end Registration

/-- Attaches a router to a project in place. -/
def Project.attach (router : Router) (name version : String) : Change Project Unit := do
  let name := Text.trim name
  if name = "" then
    throw .emptyFrameName
  modify fun p => { p with frames := p.frames ++ [{ name, version := Text.trim version, router }] }

/-- What a program has made so far. -/
structure Registry where
  routers : List Router := []
  project : Project
  deriving DecidableEq, Repr, Inhabited

namespace Registry

/-- What a program does next. Routers are numbered in the order they were declared in. -/
inductive Request where
  | declare (name : String) (location : Location)
  | register (router : Nat) (x : Registration)
  | attach (router : Nat) (name version : String)
  deriving DecidableEq, Repr, Inhabited

/-- A change of the router with a number. -/
def onRouter (i : Nat) (change : Change Router Unit) : Change Registry Unit := fun reg =>
  match reg.routers[i]? with
  | none => .error (.absent .router) reg
  | some r =>
    Change.onPart (fun _ => r) (fun r reg => { reg with routers := reg.routers.set i r }) change reg

/-- A change of the project by the router with a number. -/
def onProject (i : Nat) (change : Router → Change Project Unit) : Change Registry Unit := fun reg =>
  match reg.routers[i]? with
  | none => .error (.absent .router) reg
  | some r => Change.onPart Registry.project (fun p reg => { reg with project := p }) (change r) reg

/-- Keeps a router that has been declared, under the next number. -/
def keep (declared : Except Fault Router) : Change Registry Unit :=
  match declared with
  | .ok r => modify fun reg => { reg with routers := reg.routers ++ [r] }
  | .error fault => throw fault

/-- Does what is requested. -/
def perform : Request → Change Registry Unit
  | .declare name location => keep (Router.declare name location)
  | .register i x => onRouter i x.perform
  | .attach i name version => onProject i fun r => Project.attach r name version

/-- What there is after a sequence of requests, whether they were refused or not. -/
def after (entry : Location) (requests : List Request) : Registry :=
  requests.foldl (fun reg request => (perform request).leave reg) { project := { entry } }

end Registry

end RouteWorks
