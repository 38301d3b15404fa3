import RouteWorks.Text.Quoted

/-!
# What can be wrong with a declaration

Every fault is a deterministic property of what was declared. A fault names its cause; its wording
is `Fault.message`.
-/

namespace RouteWorks

/-- The two kinds of range that a field can declare. -/
inductive RangeRule where
  | length
  | number
  deriving DecidableEq, Repr, Inhabited

/-- The word a range is declared under. -/
def RangeRule.word : RangeRule → String
  | length => "len"
  | number => "range"

/-- Why the fields of a record handler are refused. -/
inductive FieldFault where
  /-- An uploaded file that is not taken from the form. -/
  | uploadOutsideForm (field : String)
  /-- A range that is not written as one, or whose ends are in the wrong order. -/
  | malformed (rule : RangeRule) (field value : String)
  /-- A pattern that is not a regular expression. -/
  | badPattern (field : String)
  /-- Several fields that take the whole body. -/
  | manyBodies
  /-- A form field beside one that takes the whole body. -/
  | formWithBody
  deriving DecidableEq, Repr, Inhabited

/-- The rule that the fields break. -/
def FieldFault.reason : FieldFault → String
  | uploadOutsideForm field => "uploaded file field " ++ Text.quote field ++ " must bind from form"
  | malformed rule field value =>
    rule.word ++ " of " ++ Text.quote field ++ " is malformed: " ++ Text.quote value
  | badPattern field => "regex of " ++ Text.quote field ++ " does not compile"
  | manyBodies => "more than one field binds the body"
  | formWithBody => "form and body fields can not be used together"

/-- What a declaration can lack altogether. -/
inductive Absent where
  | route
  | router
  deriving DecidableEq, Repr, Inhabited

/-- The word for what is lacking. -/
def Absent.word : Absent → String
  | route => "route"
  | router => "router"

/-- Why a declaration is refused. -/
inductive Fault where
  /-- A name that is no identifier in any spelling. -/
  | invalidName (name : String)
  /-- A directory that is no module of the crate. -/
  | unresolvableModule (location : String)
  /-- A second handler or mount on one node of the route tree. -/
  | routeConflict (path : String)
  /-- A route or router that is not there. -/
  | absent (what : Absent)
  /-- A route entry that declares several things at once. -/
  | ambiguousRoute
  /-- A path of blank characters only. -/
  | emptyPath (name : String)
  /-- An app without a name. -/
  | emptyFrameName
  /-- A request method that no router registers. -/
  | invalidMethod (method : String)
  /-- Fields of a record handler that break a rule. -/
  | invalidFields (handler : String) (fault : FieldFault)
  deriving DecidableEq, Repr, Inhabited

/-- The wording of a fault. -/
def Fault.message : Fault → String
  | invalidName name => "the type (or function) name " ++ Text.quote name ++ " is incorrect"
  | unresolvableModule location =>
    "cannot derive a module path for " ++ Text.quote location
      ++ ": generated code must live under a \x60src\x60 directory whose subdirectories are Rust "
      ++ "identifiers"
  | routeConflict path => "url path conflicts: " ++ path
  | absent what => "the " ++ what.word ++ " param can not be nil"
  | ambiguousRoute => "a route entry must declare exactly one of handler, middleware or static"
  | emptyPath name => "the url path of " ++ Text.quote name ++ " is empty"
  | emptyFrameName => "the frame name must be set"
  | invalidMethod method => "unsupported http method " ++ Text.quote method
  | invalidFields handler fault => "invalid field binding on " ++ handler ++ ": " ++ fault.reason

end RouteWorks
