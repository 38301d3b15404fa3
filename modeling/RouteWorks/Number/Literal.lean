import RouteWorks.Number.Binary
import RouteWorks.Text.Runs
import RouteWorks.Text.Case

/-!
# Reading numbers from text

Integers are an optional sign and decimal digits. Decimals may have a point, an exponent, or be one
of the words for infinity and "not a number". Blanks are not skipped.
-/

namespace RouteWorks.Number

/-- Why a text is no integer of a type. -/
inductive IntegerFault where
  | empty
  | invalidDigit
  | tooLarge
  | tooSmall
  deriving DecidableEq, Repr, Inhabited

/-- The wording of the fault. -/
def IntegerFault.message : IntegerFault → String
  | empty => "cannot parse integer from empty string"
  | invalidDigit => "invalid digit found in string"
  | tooLarge => "number too large to fit in target type"
  | tooSmall => "number too small to fit in target type"

/-- Why a text is no decimal. -/
inductive DecimalFault where
  | empty
  | invalid
  deriving DecidableEq, Repr, Inhabited

/-- The wording of the fault. -/
def DecimalFault.message : DecimalFault → String
  | empty => "cannot parse float from empty string"
  | invalid => "invalid float literal"

/-- The integers of a width, with or without a sign. -/
structure IntegerType where
  signed : Bool
  width : Nat
  deriving DecidableEq, Repr, Inhabited

namespace IntegerType

/-- The least value. -/
def least (t : IntegerType) : Int := if t.signed then -(Nat.pow 2 (t.width - 1) : Nat) else 0

/-- The greatest value. -/
def greatest (t : IntegerType) : Int :=
  if t.signed then (Nat.pow 2 (t.width - 1) : Nat) - 1 else (Nat.pow 2 t.width : Nat) - 1

/-- The digits of a number with its sign, if the text is not empty. A minus sign counts as a sign
only where negative numbers exist. -/
def signOf (t : IntegerType) : List Char → Bool × List Char
  | '+' :: ds => (false, ds)
  | '-' :: ds => if t.signed then (true, ds) else (false, '-' :: ds)
  | ds => (false, ds)

/-- Adds one digit after another to a number of the given sign, and stops at the first digit that
is none or that leads out of the type. -/
def readDigits (t : IntegerType) (negative : Bool) (n : Int) : List Char → Except IntegerFault Int
  | [] => .ok n
  | c :: cs =>
    if !c.isDigit then .error .invalidDigit
    else
      let d : Int := (c.toNat - 48 : Nat)
      let n := if negative then 10 * n - d else 10 * n + d
      if t.greatest < n then .error .tooLarge
      else if n < t.least then .error .tooSmall
      else readDigits t negative n cs

/-- Reads an integer of a type. -/
def read (t : IntegerType) (s : List Char) : Except IntegerFault Int :=
  if s.isEmpty then .error .empty
  else
    let (negative, ds) := t.signOf s
    if ds.isEmpty then .error .invalidDigit else readDigits t negative 0 ds

end IntegerType

/-- A decimal as it is written: sign, digits before and after the point, and exponent. -/
structure Literal where
  negative : Bool
  whole : List Char
  fraction : List Char
  exponent : Int
  deriving DecidableEq, Repr, Inhabited

namespace Literal

/-- The exponent of a decimal: nothing, or a letter, an optional sign and digits. -/
def readExponent? : List Char → Option Int
  | [] => some 0
  | c :: cs =>
    if c == 'e' || c == 'E' then
      let (negative, ds) : Bool × List Char := match cs with
        | '+' :: ds => (false, ds)
        | '-' :: ds => (true, ds)
        | ds => (false, ds)
      if ds.isEmpty || !ds.all Char.isDigit then none
      else
        let n : Int := Text.decimal ds
        some (if negative then -n else n)
    else none

/-- Reads an unsigned decimal: digits, an optional point with more digits, and an optional
exponent. At least one digit has to be there. -/
def readUnsigned? (negative : Bool) (cs : List Char) : Option Literal := do
  let whole := cs.takeWhile Char.isDigit
  let (fraction, rest) := match cs.dropWhile Char.isDigit with
    | '.' :: rest => (rest.takeWhile Char.isDigit, rest.dropWhile Char.isDigit)
    | rest => ([], rest)
  if whole.isEmpty && fraction.isEmpty then none
  else
    let exponent ← readExponent? rest
    some { negative, whole, fraction, exponent }

/-- The digits as one number, and the exponent of ten that goes with them. -/
def value (l : Literal) : Nat × Int :=
  (Text.decimal (l.whole ++ l.fraction), l.exponent - l.fraction.length)

/-- The floating point number nearest to the decimal. -/
def toBinary (f : Format) (l : Literal) : Binary :=
  let (digits, e) := l.value
  Binary.ofDecimal f l.negative digits e

end Literal

/-- Reads a floating point number. -/
def readBinary (f : Format) (s : List Char) : Except DecimalFault Binary :=
  if s.isEmpty then .error .empty
  else
    let (negative, body) : Bool × List Char := match s with
      | '+' :: cs => (false, cs)
      | '-' :: cs => (true, cs)
      | cs => (false, cs)
    let word := String.ofList (body.map Char.toLower)
    if word = "inf" ∨ word = "infinity" then .ok (.infinite negative)
    else if word = "nan" then .ok .nan
    else match Literal.readUnsigned? negative body with
      | some l => .ok (l.toBinary f)
      | none => .error .invalid

end RouteWorks.Number
