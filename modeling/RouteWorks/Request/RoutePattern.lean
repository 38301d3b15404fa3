import RouteWorks.Request.Pairs

/-!
# Matching paths

A pattern is a path whose segments can end in a parameter, such as `/users/:id`, and whose last
segment can stand for any number of segments, such as `/files/*rest`. A parameter is never empty.
-/

namespace RouteWorks

/-- A segment of a pattern. -/
inductive PatternSegment where
  | literal (text : List Char)
  /-- A text and then the value of a parameter. -/
  | parameter (start name : List Char)
  /-- All segments from here on. -/
  | rest (name : List Char)
  deriving DecidableEq, Repr, Inhabited

namespace PatternSegment

/-- Reads a segment. -/
def ofText (cs : List Char) : PatternSegment :=
  match Text.cutAt? (· == ':') cs, cs with
  | some (start, name), _ => parameter start name
  | none, '*' :: name => rest name
  | none, cs => literal cs

/-- The values of the parameters when the segments match. -/
def matchAll : List PatternSegment → List (List Char) → Option (List (List Char × List Char))
  | [], [] => some []
  | literal text :: ps, s :: ss => if text = s then matchAll ps ss else none
  | parameter start name :: ps, s :: ss =>
    match Text.stripStart? start s with
    | none | some [] => none
    | some value => (matchAll ps ss).map ((name, value) :: ·)
  | rest name :: _, s :: ss =>
    let value := ['/'].intercalate (s :: ss)
    if value.isEmpty then none else some [(name, value)]
  | _, _ => none

end PatternSegment

/-- The parameters of a path that a pattern matches, as they are written in the path. -/
def matchPath? (pattern path : String) : Option (List (String × String)) :=
  let parts (s : String) := Text.splitWhen (· == '/') s.toList
  (PatternSegment.matchAll ((parts pattern).map .ofText) (parts path)).map fun found =>
    found.map fun (name, value) => (String.ofList name, String.ofList value)

/-- The parameters of a path with percent signs decoded; none at all when one of them is no text
then. -/
def decodeParameters (parameters : List (String × String)) : List (String × String) :=
  let decode (p : String × String) : Option (String × String) :=
    (Text.ofUtf8? (percentDecode (Text.utf8 p.2))).map fun value => (p.1, value)
  (parameters.mapM decode).getD []

end RouteWorks
