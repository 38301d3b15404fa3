import RouteWorks.Field.Rules
import RouteWorks.Source.Location
import RouteWorks.Spec.Method

/-!
# What a router registers

Handlers answer requests, middleware wraps the routes at and below its path, and mounts serve the
files of a directory.
-/

namespace RouteWorks

/-- Refuses a path without any character that is not blank. -/
def checkPath (path name : String) : Except Fault Unit :=
  if Text.isBlankText path then .error (.emptyPath name) else .ok ()

/-- A body of generated code, unless it is blank. -/
def nonBlankBody (body : String) : Option String :=
  if Text.isBlankText body then none else some body

/-- An endpoint: a function, or a structure whose fields are bound from the request. -/
structure Handler where
  path : String
  /-- The methods it answers; every method when there are none. -/
  methods : List Method
  name : Identifier
  /-- Documentation; its first line names the route. -/
  note : String := ""
  /-- An example of what it answers. -/
  returns : String := ""
  /-- The body of the generated function. -/
  body : Option String := none
  /-- The directory it is declared in. -/
  location : Location
  /-- The fields of a record handler. -/
  fields : Option (List Field) := none
  deriving DecidableEq, Repr, Inhabited

namespace Handler

/-- A handler that is a plain function. -/
def function (name path : String) (methods : List Method) (location : Location) :
    Except Fault Handler := do
  let name ← Identifier.ofName name
  checkPath path name.canonical
  return { path := Text.trim path, methods, name, location }

/-- A handler with fields. -/
def record (name path : String) (methods : List Method) (location : Location)
    (fields : List Field) : Except Fault Handler := do
  let h ← function name path methods location
  Field.checkAll h.name.canonical fields
  return { h with fields := some fields }

/-- Sets the documentation. -/
def withNote (h : Handler) (note : String) : Handler := { h with note := Text.trim note }

/-- Sets the example. -/
def withReturns (h : Handler) (returns : String) : Handler := { h with returns }

/-- Sets the body; a blank one counts as none. -/
def withBody (h : Handler) (body : String) : Handler := { h with body := nonBlankBody body }

/-- The name of the route: the first line of the documentation, or the name of the handler when
that line is blank. -/
def routeName (h : Handler) : String :=
  (((Text.lines h.note).head?).filter fun l => !Text.isBlankText l).getD h.name.canonical

end Handler

/-- Code that runs before the routes it wraps. -/
structure Middleware where
  path : String
  name : Identifier
  location : Location
  body : Option String := none
  deriving DecidableEq, Repr, Inhabited

namespace Middleware

/-- A middleware for the routes at and below a path. -/
def declare (name path : String) (location : Location) : Except Fault Middleware := do
  let name ← Identifier.ofName name
  checkPath path name.canonical
  return { path := Text.trim path, name, location }

/-- Sets the body; a blank one counts as none. -/
def withBody (m : Middleware) (body : String) : Middleware := { m with body := nonBlankBody body }

end Middleware

/-- A directory served under a path. -/
structure Mount where
  path : String
  name : String
  /-- The directory, as the generated code writes it. -/
  root : String
  /-- Compressed variants are not looked for. -/
  noCompress : Bool := false
  /-- Clients are told not to cache. -/
  noCache : Bool := false
  deriving DecidableEq, Repr, Inhabited

/-- A mount of a directory. -/
def Mount.declare (name path root : String) : Except Fault Mount := do
  checkPath path name
  return { path := Text.trim path, name := Text.trim name, root }

/-- Anything that a router registers. -/
inductive Spec where
  | handler (h : Handler)
  | middleware (m : Middleware)
  | mount (m : Mount)
  deriving DecidableEq, Repr, Inhabited

/-- The path of a spec. -/
def Spec.path : Spec → String
  | handler h => h.path
  | middleware m => m.path
  | mount m => m.path

end RouteWorks
