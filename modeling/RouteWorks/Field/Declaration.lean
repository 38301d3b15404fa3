import RouteWorks.Field.Basic
import RouteWorks.Name
import RouteWorks.Text.Ordered

/-!
# Fields of generated structures

A field becomes a declaration in the generated structure, with an attribute that says how its value
is bound. A field for uploaded files gets a companion right after it that holds where the files were
stored.
-/

namespace RouteWorks

/-- A rule or note about a bound field, as the attribute writes it. -/
inductive Constraint where
  | required
  | nonzero
  | len (range : String)
  | range (range : String)
  | regex (pattern : String)
  | maxmb (megabytes : Nat)
  | err (message : String)
  | desc (text : String)
  deriving DecidableEq, Repr, Inhabited

/-- The text of a constraint. -/
def Constraint.text : Constraint → String
  | required => "required"
  | nonzero => "nonzero"
  | len v => "len = " ++ Text.quote v
  | range v => "range = " ++ Text.quote v
  | regex v => "regex = " ++ Text.quote v
  | maxmb n => "maxmb = " ++ toString n
  | err v => "err = " ++ Text.quote v
  | desc v => "desc = " ++ Text.quote v

/-- How the value of a field is bound. -/
structure Binding where
  position : Position
  /-- The name of the value in the request, when it is not that of the field. -/
  key : Option String
  constraints : List Constraint
  deriving DecidableEq, Repr, Inhabited

/-- The attribute of a bound field. -/
def Binding.attribute (b : Binding) : String :=
  let parts := ("in = " ++ Text.quote b.position.word)
    :: ((b.key.map fun k => "name = " ++ Text.quote k).toList ++ b.constraints.map Constraint.text)
  "param(" ++ Text.join ", " parts ++ ")"

/-- The field that holds where uploaded files were stored. -/
structure Companion where
  canonical : String
  ident : String
  type : String
  kind : UploadKind
  deriving DecidableEq, Repr, Inhabited

/-- A field of a generated structure. -/
structure Declaration where
  canonical : String
  ident : String
  type : String
  binding : Option Binding
  attributes : List String
  companion : Option Companion
  deriving DecidableEq, Repr, Inhabited

namespace Field

/-- A text without the blanks around it, if anything is left. -/
def nonBlank? (s : Option String) : Option String :=
  (s.map Text.trim).filter (· ≠ "")

/-- The constraints of a field in the order they are written. -/
def constraints (f : Field) : List Constraint :=
  (if f.required then [.required] else [])
    ++ (if f.nonzero then [.nonzero] else [])
    ++ ((nonBlank? f.len).map .len).toList
    ++ ((nonBlank? f.range).map .range).toList
    ++ ((nonBlank? f.pattern).map .regex).toList
    ++ ((f.maxMegabytes.filter (0 < ·)).map .maxmb).toList
    ++ ((nonBlank? f.error).map .err).toList
    ++ ((nonBlank? f.desc).map .desc).toList

/-- The companion of an upload field. -/
def companion (canonical : String) : UploadKind → Companion
  | .single =>
    { canonical := canonical ++ "Url", ident := Name.escape (Name.snake (canonical ++ "Url"))
      type := "String", kind := .single }
  | .multi =>
    { canonical := canonical ++ "Urls", ident := Name.escape (Name.snake (canonical ++ "Urls"))
      type := "Vec<String>", kind := .multi }

/-- The declaration of a field. A field whose identifier had to be given an underscore keeps its
name in the request. -/
def declare (f : Field) : Except Fault Declaration := do
  let name ← Identifier.ofName f.name
  let key := match f.key with
    | some key => some key
    | none => if Name.unescapable.contains name.snake then some name.snake else none
  return {
    canonical := name.canonical
    ident := Name.escape name.snake
    type := Text.trim f.type
    binding := f.position.map fun position => { position, key, constraints := f.constraints }
    attributes := f.attributes
    companion := f.upload?.map (companion name.canonical) }

/-- The declarations of all fields. -/
def declareAll (fields : List Field) : Except Fault (List Declaration) :=
  fields.mapM declare

/-- The types that the declarations need besides the basic ones. -/
def imports (fields : List Field) : List String :=
  Ordered.ofList (fields.flatMap fun f =>
    (if (UploadKind.ofType? f.type).isSome then ["UploadedFile"] else [])
      ++ (if Text.occursIn "Cookie".toList f.type.toList then ["Cookie"] else []))

end Field

/-- The declarations with a companion, each with it. -/
def Declaration.uploads (ds : List Declaration) : List (Declaration × Companion) :=
  ds.filterMap fun d => d.companion.map (d, ·)

end RouteWorks
