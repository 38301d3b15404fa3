import RouteWorks.Text.Case
import RouteWorks.Text.Octets
import RouteWorks.Text.Split

/-!
# Requests

A request is a method, a target, a list of header fields and a body. Names of header fields do not
depend on case; their values are octets, which are a text only when all of them are visible.
-/

namespace RouteWorks

/-- A header field. -/
structure HeaderField where
  name : String
  value : List UInt8
  deriving DecidableEq, Repr, Inhabited

namespace HeaderField

/-- Whether an octet of a header value can be shown: a visible character, a space or a tab. -/
def isVisible (b : UInt8) : Bool := b == 0x09 || (0x20 ≤ b && b ≤ 0x7E)

/-- The text of a header value, if it is one. -/
def textOf? (value : List UInt8) : Option String :=
  if value.all isVisible then some (String.ofList (value.map fun b => Char.ofNat b.toNat))
  else none

/-- The values of all fields with a name. -/
def values (fields : List HeaderField) (name : String) : List (List UInt8) :=
  (fields.filter fun f => Text.asciiLower f.name = Text.asciiLower name).map (·.value)

/-- The values of all fields with a name that are texts. -/
def texts (fields : List HeaderField) (name : String) : List String :=
  (values fields name).filterMap textOf?

/-- The text of the first field with a name; empty when there is none or it is no text. -/
def firstText (fields : List HeaderField) (name : String) : String :=
  ((values fields name).head?.bind textOf?).getD ""

end HeaderField

/-- What a request asks for. -/
structure RequestTarget where
  /-- Scheme and authority, when the target names them. -/
  origin : String
  path : String
  query : Option String
  deriving DecidableEq, Repr, Inhabited

namespace RequestTarget

/-- Cuts scheme and authority off a target that has them. -/
def splitOrigin (cs : List Char) : List Char × List Char :=
  match Text.cutAt? (· == ':') cs with
  | some (scheme, '/' :: '/' :: rest) =>
    let authority := rest.takeWhile (· ≠ '/')
    let path := rest.dropWhile (· ≠ '/')
    (scheme ++ ':' :: '/' :: '/' :: authority, if path.isEmpty then ['/'] else path)
  | _ => ([], cs)

/-- Reads a target. A fragment does not belong to it. -/
def ofText (s : String) : RequestTarget :=
  let cs := s.toList.takeWhile (· ≠ '#')
  let (before, query) := match Text.cutAt? (· == '?') cs with
    | some (before, query) => (before, some query)
    | none => (cs, none)
  let (origin, path) := if before.head? = some '/' then ([], before) else splitOrigin before
  { origin := String.ofList origin, path := String.ofList path, query := query.map String.ofList }

/-- The text of a target. -/
def text (t : RequestTarget) : String :=
  t.origin ++ t.path ++ (t.query.map ("?" ++ ·)).getD ""

end RequestTarget

/-- A request. -/
structure Request where
  method : String
  target : RequestTarget
  headers : List HeaderField
  body : ByteArray
  deriving Inhabited

/-- The value of the last pair with a name. -/
def lastValue? (pairs : List (String × String)) (name : String) : Option String :=
  pairs.reverse.lookup name

/-- The values of all pairs with a name. -/
def valuesOf (pairs : List (String × String)) (name : String) : List String :=
  (pairs.filter (·.1 = name)).map (·.2)

end RouteWorks
