import RouteWorks.Route.Chain

/-!
# Routers

A router is a list of specs in the order of their registration. What is registered is checked first
and never changed afterwards; the route tree and the chain are made from the list on demand.
-/

namespace RouteWorks

/-- A router. -/
structure Router where
  name : Identifier
  /-- The directory its file is generated in. -/
  location : Location
  specs : List Spec := []
  deriving DecidableEq, Repr, Inhabited

namespace Router

/-- A router without specs. -/
def declare (name : String) (location : Location) : Except Fault Router := do
  return { name := ← Identifier.ofName name, location }

/-- The name of the generated function. -/
def functionName (r : Router) : String := r.name.snake

/-- Registers a handler. -/
def addHandler (r : Router) (h : Handler) : Except Fault Router := do
  checkPath h.path h.name.canonical
  match h.fields with
  | none => pure ()
  | some fields => Field.checkAll h.name.canonical fields
  return { r with specs := r.specs ++ [.handler h] }

/-- Registers several middleware, or none of them when one is refused. -/
def addMiddlewares (r : Router) (ms : List Middleware) : Except Fault Router := do
  ms.forM fun m => checkPath m.path m.name.canonical
  return { r with specs := r.specs ++ ms.map .middleware }

/-- Registers a middleware. -/
def addMiddleware (r : Router) (m : Middleware) : Except Fault Router := r.addMiddlewares [m]

/-- Registers a mount. -/
def addMount (r : Router) (m : Mount) : Except Fault Router := do
  checkPath m.path m.name
  return { r with specs := r.specs ++ [.mount m] }

/-- The route tree. -/
def tree (r : Router) : Except Fault (List RouteNode) := RouteNode.build r.specs

/-- The chain of a list of specs in a context. -/
def chainOf (specs : List Spec) (ctx : ChainContext) : Except Fault Chain := do
  Chain.ofForest ctx (← RouteNode.build specs)

/-- The chain of a router. -/
def chain (r : Router) (entry : Option Location) (runtime : String) : Except Fault Chain :=
  chainOf r.specs { owner := r.location, entry, runtime }

end Router

end RouteWorks
