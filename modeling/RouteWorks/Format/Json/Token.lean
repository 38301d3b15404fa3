import RouteWorks.Format.Json.Basic
import RouteWorks.Number.Literal
import RouteWorks.Text.Hex

/-!
# Tokens of JSON

A text of JSON is cut into punctuation, words, numbers and strings. The text is given as a list of
characters in which `none` stands for octets that are no character; those may stand inside strings
only, and make the string malformed.
-/

namespace RouteWorks.Json

/-- A character, or octets that are none. -/
abbrev Sign := Option Char

/-- A token. -/
inductive Token where
  | openArray | closeArray | openObject | closeObject | colon | comma
  /-- A string; malformed when a part of it is no character. -/
  | string (v : Json)
  /-- A number or a word. -/
  | scalar (v : Json)
  deriving Repr, Inhabited

/-- The number that four hexadecimal digits write. -/
def hexQuad? (a b c d : Sign) : Option Nat := do
  let digit (s : Sign) : Option Nat := s.bind Text.hexDigit?
  return ((← digit a) * 16 + (← digit b)) * 256 + ((← digit c) * 16 + (← digit d))

/-- The character behind a one-letter escape. -/
def shortEscape? : Char → Option Char
  | '"' => some '"'
  | '\\' => some '\\'
  | '/' => some '/'
  | 'b' => some '\x08'
  | 'f' => some '\x0c'
  | 'n' => some '\n'
  | 'r' => some '\r'
  | 't' => some '\t'
  | _ => none

/-- A part of a string: a character, octets that are none, or a code unit that is half of a
surrogate pair. -/
inductive Piece where
  | sign (s : Sign)
  | half (n : Nat)
  deriving DecidableEq, Repr, Inhabited

/-- The part that an escaped code unit stands for. -/
def Piece.ofUnit (n : Nat) : Piece :=
  if 0xD800 ≤ n ∧ n ≤ 0xDFFF then half n else sign (some (Char.ofNat n))

/-- The parts of a string up to its closing quote, and what follows it. -/
def readString (acc : List Piece) (s : List Sign) : Option (List Piece × List Sign) :=
  match s with
  | some '"' :: rest => some (acc.reverse, rest)
  | some '\\' :: some 'u' :: a :: b :: c :: d :: rest =>
    match hexQuad? a b c d with
    | some n => readString (.ofUnit n :: acc) rest
    | none => none
  | some '\\' :: some c :: rest =>
    match shortEscape? c with
    | some e => readString (.sign (some e) :: acc) rest
    | none => none
  | some c :: rest =>
    if c == '\\' || c.toNat < 32 then none else readString (.sign (some c) :: acc) rest
  | none :: rest => readString (.sign none :: acc) rest
  | [] => none
termination_by s.length
decreasing_by all_goals (simp only [List.length_cons]; omega)

/-- The characters of a string. A high half and the low half right after it are one character;
`none` stands for any other half and for octets that are no character. -/
def joinHalves : List Piece → List Sign
  | [] => []
  | .sign s :: rest => s :: joinHalves rest
  | .half n :: .half m :: rest =>
    if n < 0xDC00 ∧ 0xDC00 ≤ m then
      some (Char.ofNat (0x10000 + (n - 0xD800) * 1024 + (m - 0xDC00))) :: joinHalves rest
    else none :: joinHalves (.half m :: rest)
  | .half _ :: rest => none :: joinHalves rest

/-- The text of a string, unless a part of it is no character. -/
def stringValue (content : List Piece) : Json :=
  let signs := joinHalves content
  if signs.all Option.isSome then .string (String.ofList (signs.filterMap id)) else .malformed

/-- The digits of a significand that fit into 64 bits. The second component counts the digits left
out. -/
def takeSignificand (n dropped : Nat) : List Char → Nat × Nat
  | [] => (n, dropped)
  | d :: ds =>
    let m := 10 * n + (d.toNat - 48)
    if dropped ≠ 0 ∨ Nat.pow 2 64 ≤ m then takeSignificand n (dropped + 1) ds
    else takeSignificand m 0 ds

/-- A number scaled by a power of ten that is itself rounded. Powers below the least one that is
needed are taken in several steps; the fuel bounds them. `none` when the number is too large. -/
def scaleByTen : Nat → Number.Binary → Int → Option Number.Binary
  | 0, x, _ => some x
  | fuel + 1, x, e =>
    let pow (k : Nat) := Number.Binary.ofRatio Number.double false (Nat.pow 10 k) 1
    if 0 ≤ e then
      if e ≤ 308 then
        let y := x.mul Number.double (pow e.toNat)
        if y.isInfinite then none else some y
      else if x.isZero then some x else none
    else if -308 ≤ e then some (x.div Number.double (pow e.natAbs))
    else if x.isZero then some x
    else scaleByTen fuel (x.div Number.double (pow 308)) (e + 308)

/-- The number that a literal writes. Integers of 64 bits are exact. Any other number is as many
digits as fit into 64 bits, rounded, and then scaled. -/
def numberValue (integral : Bool) (l : Number.Literal) : Json :=
  let n := Text.decimal l.whole
  if integral && !l.negative && n < Nat.pow 2 64 then number (.integer n)
  else if integral && l.negative && n ≠ 0 && n ≤ Nat.pow 2 63 then number (.integer (-n))
  else
    let (whole, surplus) := takeSignificand 0 0 l.whole
    let (sig, left) := takeSignificand whole 0 l.fraction
    let e : Int := surplus - (l.fraction.length - left : Nat) + l.exponent
    match scaleByTen 8 (Number.Binary.ofRatio Number.double false sig 1) e with
    | some x => number (.real (if l.negative then x.neg else x))
    | none => malformed

/-- The decimal digits in front. -/
def takeDigits : List Sign → List Char × List Sign
  | some c :: rest =>
    if c.isDigit then
      let (ds, rest) := takeDigits rest
      (c :: ds, rest)
    else ([], some c :: rest)
  | rest => ([], rest)

/-- Whether digits are an integer without superfluous zeros in front. -/
def isWhole (ds : List Char) : Bool :=
  match ds with
  | [] => false
  | ['0'] => true
  | '0' :: _ => false
  | _ => true

/-- The digits after a point, when there is one. `none` for a point without digits. -/
def readFraction (s : List Sign) : Option (Option (List Char) × List Sign) :=
  match s with
  | some '.' :: rest =>
    let (ds, rest) := takeDigits rest
    if ds.isEmpty then none else some (some ds, rest)
  | _ => some (none, s)

/-- The exponent, when there is one. `none` for the mark of an exponent without digits. -/
def readExponent (s : List Sign) : Option (Option Int × List Sign) :=
  match s with
  | some c :: rest =>
    if c == 'e' || c == 'E' then
      let (negative, rest) : Bool × List Sign := match rest with
        | some '+' :: rest => (false, rest)
        | some '-' :: rest => (true, rest)
        | _ => (false, rest)
      let (ds, rest) := takeDigits rest
      let n : Int := Text.decimal ds
      if ds.isEmpty then none else some (some (if negative then -n else n), rest)
    else some (none, s)
  | [] | none :: _ => some (none, s)

/-- A number and what follows it. -/
def readNumber (s : List Sign) : Option (Json × List Sign) := do
  let (negative, s) : Bool × List Sign := match s with
    | some '-' :: rest => (true, rest)
    | _ => (false, s)
  let (whole, s) := takeDigits s
  if !isWhole whole then none
  let (fraction, s) ← readFraction s
  let (exponent, s) ← readExponent s
  let literal : Number.Literal :=
    { negative, whole, fraction := fraction.getD [], exponent := exponent.getD 0 }
  return (numberValue (fraction.isNone && exponent.isNone) literal, s)

/-- Whether a character may stand between tokens. -/
def isGap (c : Char) : Bool := c == ' ' || c == '\t' || c == '\n' || c == '\r'

/-- What follows a word. -/
def stripWord? (word : List Char) (s : List Sign) : Option (List Sign) :=
  Text.stripStart? (word.map some) s

/-- The token in front and what follows it. -/
def readToken (c : Char) (rest : List Sign) : Option (Token × List Sign) :=
  match c with
  | '[' => some (.openArray, rest)
  | ']' => some (.closeArray, rest)
  | '\x7b' => some (.openObject, rest)
  | '\x7d' => some (.closeObject, rest)
  | ':' => some (.colon, rest)
  | ',' => some (.comma, rest)
  | '"' => (readString [] rest).map fun (content, rest) => (.string (stringValue content), rest)
  | 'n' => (stripWord? ['u', 'l', 'l'] rest).map fun rest => (.scalar null, rest)
  | 't' => (stripWord? ['r', 'u', 'e'] rest).map fun rest => (.scalar (bool true), rest)
  | 'f' => (stripWord? ['a', 'l', 's', 'e'] rest).map fun rest => (.scalar (bool false), rest)
  | c =>
    if c.isDigit || c == '-' then
      (readNumber (some c :: rest)).map fun (v, rest) => (.scalar v, rest)
    else none

/-- The tokens of a text; the fuel bounds their number. -/
def tokensInto (acc : List Token) : Nat → List Sign → Option (List Token)
  | 0, _ => none
  | _ + 1, [] => some acc.reverse
  | fuel + 1, s :: rest =>
    match s with
    | none => none
    | some c =>
      if isGap c then tokensInto acc fuel rest
      else match readToken c rest with
        | none => none
        | some (t, rest) => tokensInto (t :: acc) fuel rest

/-- The tokens of a text. Every token takes at least one character. -/
def tokens (s : List Sign) : Option (List Token) :=
  tokensInto [] (s.length + 1) s

end RouteWorks.Json
