import RouteWorks.Number.Binary
import RouteWorks.Text.Runs

/-!
# The shortest decimal of a floating point number

Among the decimals that round to a number, the ones with the fewest digits are the shortest, and of
those the one nearest to the number is its text. Texts are positional: no exponent is written.
-/

namespace RouteWorks.Number

/-- A decimal `digits · 10 ^ exponent`. -/
structure Decimal where
  digits : Nat
  exponent : Int
  deriving DecidableEq, Repr

namespace Decimal

/-- The same decimal without zeros at the end of its digits; the fuel bounds their number. -/
def strip : Nat → Decimal → Decimal
  | 0, d => d
  | fuel + 1, d =>
    if d.digits ≠ 0 ∧ d.digits % 10 = 0 then strip fuel ⟨d.digits / 10, d.exponent + 1⟩ else d

/-- Positional text: the digits, the zeros that the exponent asks for, and a point where one is
needed. -/
def positional (d : Decimal) : String :=
  let ds := Nat.toDigits 10 d.digits
  match d.exponent with
  | .ofNat k => String.ofList (ds ++ if d.digits = 0 then [] else List.replicate k '0')
  | .negSucc k =>
    let places := k + 1
    let ds := List.replicate (places + 1 - ds.length) '0' ++ ds
    let whole := ds.length - places
    String.ofList (ds.take whole ++ '.' :: ds.drop whole)

end Decimal

/-- The interval of reals that round to a number, as integers at one scale: `num / den` is the
number, and `low / den` and `high / den` are the ends, which belong to it when `closed`. -/
structure Rounding where
  num : Nat
  den : Nat
  low : Nat
  high : Nat
  closed : Bool
  deriving Repr

/-- The reals that round to `m · 2 ^ e`. Below the least significand of full length the spacing of
numbers is half as wide. -/
def roundingOf (f : Format) (m : Nat) (e : Int) : Rounding :=
  let (num, den, unit) := match e - 2 with
    | .ofNat k => (4 * m * Nat.pow 2 k, 1, Nat.pow 2 k)
    | .negSucc k => (4 * m, Nat.pow 2 (k + 1), 1)
  let narrow := m = Nat.pow 2 (f.precision - 1) ∧ f.least < e
  { num, den
    low := num - (if narrow then unit else 2 * unit)
    high := num + 2 * unit
    closed := m % 2 == 0 }

/-- Whether the decimal `d · 10 ^ k` rounds to the number. -/
def Rounding.holds (r : Rounding) (d : Nat) (k : Int) : Bool :=
  let (a, b) := match k with
    | .ofNat j => (d * Nat.pow 10 j * r.den, 1)
    | .negSucc j => (d * r.den, Nat.pow 10 (j + 1))
  if r.closed then r.low * b ≤ a && a ≤ r.high * b else r.low * b < a && a < r.high * b

/-- The exponent of ten of the first digit of a positive quotient. -/
def leadingExponent (num den : Nat) : Int :=
  (Nat.toDigits 10 (num * Nat.pow 10 400 / den)).length - 401

/-- The neighbours of the number on the grid of multiples of `10 ^ k` that round to it, the nearer
one first. -/
def Rounding.onGrid? (r : Rounding) (k : Int) : Option Decimal :=
  let (n, d) := match k with
    | .ofNat j => (r.num, r.den * Nat.pow 10 j)
    | .negSucc j => (r.num * Nat.pow 10 (j + 1), r.den)
  let below := n / d
  let twice := 2 * (n % d)
  let up := d < twice || (twice == d && below % 2 == 1)
  let order := if up then [below + 1, below] else [below, below + 1]
  (order.find? fun x => r.holds x k).map fun x => ⟨x, k⟩

/-- The first hit on the grids of one digit, two digits and so on; the fuel is the number of grids
left. -/
def Rounding.search (r : Rounding) (lead : Int) : Nat → Nat → Option Decimal
  | 0, _ => none
  | fuel + 1, count =>
    match r.onGrid? (lead - count + 1) with
    | some d => some d
    | none => search r lead fuel (count + 1)

/-- The shortest decimal of `m · 2 ^ e`. -/
def shortest (f : Format) (m : Nat) (e : Int) : Decimal :=
  if m = 0 then ⟨0, 0⟩
  else
    let r := roundingOf f m e
    match r.search (leadingExponent r.num r.den) 20 1 with
    | some d => d.strip 400
    | none => ⟨0, 0⟩

/-- The text of a number. -/
def Binary.text (f : Format) : Binary → String
  | .nan => "NaN"
  | .infinite negative => if negative then "-inf" else "inf"
  | .finite negative m e =>
    (if negative then "-" else "") ++ (shortest f m e).positional

end RouteWorks.Number
