import RouteWorks.Format.Record
import RouteWorks.Text.Blank
import RouteWorks.Text.Split

/-!
# Fields of record handlers

A record handler is a structure whose fields take their values from the request. A field names its
type, where its value is found, and the rules that the value has to obey.
-/

namespace RouteWorks

/-- Where in a request a value is found. -/
inductive Position where
  | path | query | form | body | header | cookie
  deriving DecidableEq, Repr, Inhabited

namespace Position

/-- The word for a position. -/
def word : Position → String
  | path => "path"
  | query => "query"
  | form => "form"
  | body => "body"
  | header => "header"
  | cookie => "cookie"

/-- Reads a position; the form has two more words. -/
def ofWord? : String → Option Position
  | "path" => some path
  | "query" => some query
  | "form" | "formData" | "formdata" => some form
  | "body" => some body
  | "header" => some header
  | "cookie" => some cookie
  | _ => none

end Position

/-- How many files an upload field holds. -/
inductive UploadKind where
  | single | multi
  deriving DecidableEq, Repr, Inhabited

/-- The kind of upload that a type stands for, blanks aside. -/
def UploadKind.ofType? (type : String) : Option UploadKind :=
  let compact := type.toList.filter fun c => !Text.isBlank c
  let compact := (Text.stripStart? "routeforge_runtime::".toList compact).getD compact
  match String.ofList compact with
  | "UploadedFile" | "Option<UploadedFile>" => some single
  | "Vec<UploadedFile>" => some multi
  | _ => none

/-- A field as it is declared. -/
structure Field where
  name : String
  type : String
  /-- Where the value is found; a field without a position is plain data. -/
  position : Option Position := none
  /-- The name of the value in the request, when it is not that of the field. -/
  key : Option String := none
  required : Bool := false
  nonzero : Bool := false
  len : Option String := none
  range : Option String := none
  pattern : Option String := none
  maxMegabytes : Option Nat := none
  /-- What to answer when the value breaks a rule. -/
  error : Option String := none
  desc : Option String := none
  /-- Attributes that are copied into the generated structure. -/
  attributes : List String := []
  deriving DecidableEq, Repr, Inhabited

namespace Field

/-- The kind of upload that a field with a position is. -/
def upload? (f : Field) : Option UploadKind :=
  if f.position.isSome then UploadKind.ofType? f.type else none

/-- The names of the members of a declared field, in order. -/
def members : List String :=
  ["name", "type", "in", "param", "required", "nonzero", "len", "range", "regex", "maxmb", "err",
   "desc", "attrs"]

/-- Reads a field from a document. -/
def read {ν : Type} (s : Source ν) (n : ν) : Option Field := do
  match ← s.slots members n with
  | [name, type, position, key, required, nonzero, len, range, pattern, maxmb, err, desc, attrs] =>
    return {
      name := ← Source.required s.text? name
      type := ← Source.required s.text? type
      position := ← s.nullable (fun n => (s.word? n).bind Position.ofWord?) position
      key := ← s.nullable s.text? key
      required := ← Source.withDefault false s.flag? required
      nonzero := ← Source.withDefault false s.flag? nonzero
      len := ← s.nullable s.text? len
      range := ← s.nullable s.text? range
      pattern := ← s.nullable s.text? pattern
      maxMegabytes := ← s.nullable s.natural32? maxmb
      error := ← s.nullable s.text? err
      desc := ← s.nullable s.text? desc
      attributes := ← Source.withDefault [] (s.list s.text?) attrs }
  | _ => none

end Field

end RouteWorks
