import RouteWorks.Number.Shortest
import RouteWorks.Text.Quoted
import RouteWorks.Text.Split

/-!
# JSON values

The values of JSON and their compact text. Objects keep their members in order. A value that can be
skipped but not used, such as a text with half a surrogate pair, is `malformed`.
-/

namespace RouteWorks

/-- A number of JSON: an integer of 64 bits, or else a double precision number. -/
inductive Numeral where
  | integer (n : Int)
  | real (x : Number.Binary)
  deriving DecidableEq, Repr, Inhabited

/-- A JSON value. -/
inductive Json where
  | null
  | bool (b : Bool)
  | number (n : Numeral)
  | string (s : String)
  | array (items : List Json)
  | object (members : List (String × Json))
  /-- A value that has no meaning, though its end can be found. -/
  | malformed
  deriving Repr, Inhabited

namespace Json

/-- A natural number. -/
def nat (n : Nat) : Json := number (.integer n)

/-- A text, or null. -/
def optional (f : α → Json) : Option α → Json
  | none => null
  | some a => f a

/-- A list of texts. -/
def strings (xs : List String) : Json := array (xs.map string)

/-- The value of a member; the last one of several with that name. -/
def member? (name : String) : Json → Option Json
  | object ms => (ms.reverse.find? fun m => m.1 = name).map (·.2)
  | _ => none

/-- Whether a value has a meaning throughout and nests fewer than `limit` containers. -/
def isSound : Nat → Json → Bool
  | 0, _ => false
  | limit + 1, array items => limit ≠ 0 && items.all (isSound limit)
  | limit + 1, object ms => limit ≠ 0 && ms.all fun m => isSound limit m.2
  | _ + 1, malformed => false
  | _ + 1, _ => true

/-- The number of containers that a usable value may nest, and one. -/
def depthLimit : Nat := 128

/-- A character inside a string. -/
def escapeChar (c : Char) : List Char :=
  if c = '"' then ['\\', '"']
  else if c = '\\' then ['\\', '\\']
  else if c = '\n' then ['\\', 'n']
  else if c = '\r' then ['\\', 'r']
  else if c = '\t' then ['\\', 't']
  else if c = '\x08' then ['\\', 'b']
  else if c = '\x0c' then ['\\', 'f']
  else if c.toNat < 32 then '\\' :: 'u' :: (Text.hexPadded 4 c.toNat).toList
  else [c]

/-- The text of a string. -/
def renderString (s : String) : String :=
  String.ofList ('"' :: (s.toList.flatMap escapeChar ++ ['"']))

/-- The text of a finite number that is no integer: positional between `1e-5` and `1e16`, with at
least one digit after the point, and with an exponent elsewhere. -/
def renderReal (negative : Bool) (d : Number.Decimal) : String :=
  let ds := Nat.toDigits 10 d.digits
  let point : Int := ds.length + d.exponent
  let body :=
    if d.digits = 0 then "0.0"
    else if 0 ≤ d.exponent ∧ point ≤ 16 then d.positional ++ ".0"
    else if -5 < point ∧ point ≤ 16 then d.positional
    else
      let fraction := ds.drop 1
      String.ofList (ds.take 1 ++ if fraction.isEmpty then [] else '.' :: fraction)
        ++ "e" ++ toString (point - 1)
  (if negative then "-" else "") ++ body

/-- The text of a number. -/
def renderNumber : Numeral → String
  | .integer n => toString n
  | .real (.finite negative m e) => renderReal negative (Number.shortest Number.double m e)
  | .real _ => "null"

mutual

/-- The compact text of a value. -/
def render : Json → String
  | null | malformed => "null"
  | bool b => if b then "true" else "false"
  | number n => renderNumber n
  | string s => renderString s
  | array items => "[" ++ Text.join "," (renderItems items) ++ "]"
  | object ms => "\x7b" ++ Text.join "," (renderMembers ms) ++ "\x7d"

/-- The texts of the items of an array. -/
def renderItems : List Json → List String
  | [] => []
  | v :: vs => render v :: renderItems vs

/-- The texts of the members of an object. -/
def renderMembers : List (String × Json) → List String
  | [] => []
  | (k, v) :: ms => (renderString k ++ ":" ++ render v) :: renderMembers ms

end

end Json

end RouteWorks
