/-!
# Binary floating point numbers

Numbers of the form `m · 2^e` with a bounded significand and a bounded exponent, together with the
two infinities and "not a number". A quotient is rounded to the nearest such number, and a tie goes
to the even significand. Everything is exact integer arithmetic.
-/

namespace RouteWorks.Number

/-- A format of floating point numbers. -/
structure Format where
  /-- The number of bits of a significand. -/
  precision : Nat
  /-- The least exponent of two. -/
  least : Int
  /-- The greatest exponent of two. -/
  greatest : Int
  /-- The number of bits of an encoded number. -/
  width : Nat
  deriving DecidableEq, Repr

/-- Double precision. -/
def double : Format := ⟨53, -1074, 971, 64⟩

/-- Single precision. -/
def single : Format := ⟨24, -149, 104, 32⟩

/-- A floating point number. -/
inductive Binary where
  | nan
  | infinite (negative : Bool)
  /-- The number `± significand · 2 ^ exponent`. -/
  | finite (negative : Bool) (significand : Nat) (exponent : Int)
  deriving DecidableEq, Repr, Inhabited

namespace Binary

/-- The quotient of two numbers rounded to the nearest integer, with a tie going to the even one. -/
def roundDiv (num den : Nat) : Nat :=
  let q := num / den
  let twice := 2 * (num % den)
  if twice < den then q
  else if den < twice then q + 1
  else q + q % 2

/-- A quotient with its numerator or denominator multiplied so that its value is divided by
`2 ^ e`. -/
def unscale (e : Int) (num den : Nat) : Nat × Nat :=
  match e with
  | .ofNat k => (num, den * Nat.pow 2 k)
  | .negSucc k => (num * Nat.pow 2 (k + 1), den)

/-- The exponent at which the quotient of two positive numbers has a significand of full length, or
the least one when the quotient is too small for that. -/
def scale (f : Format) (num den : Nat) : Int :=
  let guess : Int := max f.least ((num.log2 : Int) - den.log2 - f.precision)
  let (n, d) := unscale guess num den
  if n / d < Nat.pow 2 f.precision then guess else guess + 1

/-- A finite number, or an infinity when the exponent is too large. A significand that rounding
has carried one bit too far is halved. -/
def pack (f : Format) (negative : Bool) (significand : Nat) (e : Int) : Binary :=
  let (m, e) :=
    if significand = Nat.pow 2 f.precision then (significand / 2, e + 1) else (significand, e)
  if f.greatest < e then infinite negative else finite negative m e

/-- Zero of either sign. -/
def zero (f : Format) (negative : Bool) : Binary := finite negative 0 f.least

/-- The number nearest to a quotient. -/
def ofRatio (f : Format) (negative : Bool) (num den : Nat) : Binary :=
  if num = 0 then zero f negative
  else
    let e := scale f num den
    let (n, d) := unscale e num den
    pack f negative (roundDiv n d) e

/-- The number nearest to an integer. -/
def ofInt (f : Format) (i : Int) : Binary :=
  ofRatio f (i < 0) i.natAbs 1

/-- The number nearest to `digits · 10 ^ e`. Beyond the magnitudes that any format reaches, the
power is not computed. -/
def ofDecimal (f : Format) (negative : Bool) (digits : Nat) (e : Int) : Binary :=
  if digits = 0 then zero f negative
  else
    let size : Int := (Nat.toDigits 10 digits).length + e
    if 400 < size then infinite negative
    else if size < -400 then zero f negative
    else match e with
      | .ofNat k => ofRatio f negative (digits * Nat.pow 10 k) 1
      | .negSucc k => ofRatio f negative digits (Nat.pow 10 (k + 1))

/-- The number of a format nearest to a number of another. -/
def convert (f : Format) : Binary → Binary
  | finite negative m e =>
    let (num, den) := unscale (-e) m 1
    ofRatio f negative num den
  | x => x

/-- Whether the sign is negative. -/
def isNegative : Binary → Bool
  | nan => false
  | infinite n => n
  | finite n _ _ => n

/-- The number with the other sign. -/
def neg : Binary → Binary
  | nan => nan
  | infinite n => infinite (!n)
  | finite n m e => finite (!n) m e

/-- Whether the number is a zero. -/
def isZero : Binary → Bool
  | finite _ m _ => m == 0
  | _ => false

/-- Whether the number is an infinity. -/
def isInfinite : Binary → Bool
  | infinite _ => true
  | _ => false

/-- A finite number as an integer at the scale `2 ^ e`, for an `e` no greater than its exponent. -/
def atScale (e : Int) (negative : Bool) (m : Nat) (exponent : Int) : Int :=
  let n : Int := (m * Nat.pow 2 (exponent - e).toNat : Nat)
  if negative then -n else n

/-- The order of numbers. Nothing compares with what is not a number, and the two zeros are
equal. -/
def le : Binary → Binary → Bool
  | nan, _ => false
  | _, nan => false
  | infinite true, _ => true
  | _, infinite false => true
  | infinite false, _ => false
  | _, infinite true => false
  | finite s m e, finite t n f =>
    let low := min e f
    atScale low s m e ≤ atScale low t n f

/-- The strict order of numbers. -/
def lt (x y : Binary) : Bool := le x y && !le y x

/-- The product of two finite numbers, rounded. Products of other numbers are not needed. -/
def mul (f : Format) : Binary → Binary → Binary
  | finite s m e, finite t n g =>
    let (num, den) := unscale (-(e + g)) (m * n) 1
    ofRatio f (s != t) num den
  | infinite s, y => infinite (s != y.isNegative)
  | x, infinite t => infinite (x.isNegative != t)
  | _, _ => nan

/-- The quotient of two finite numbers, rounded. -/
def div (f : Format) : Binary → Binary → Binary
  | finite s m e, finite t n g =>
    if n = 0 then nan
    else
      let (num, den) := unscale (g - e) m n
      ofRatio f (s != t) num den
  | _, _ => nan

/-- The encoding of a number: sign, biased exponent and significand without its leading bit. What
is not a number has the encoding with the highest bit of the significand. -/
def bits (f : Format) (x : Binary) : Nat :=
  let field := f.precision - 1
  let top := Nat.pow 2 (f.width - 1)
  let full := (Nat.pow 2 (f.width - f.precision) - 1) * Nat.pow 2 field
  match x with
  | nan => full + Nat.pow 2 (field - 1)
  | infinite n => (if n then top else 0) + full
  | finite n m e =>
    (if n then top else 0)
      + (if m < Nat.pow 2 field then m
        else (e - f.least + 1).toNat * Nat.pow 2 field + (m - Nat.pow 2 field))

end Binary

end RouteWorks.Number
