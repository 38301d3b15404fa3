import Mathlib.Algebra.Order.Field.Rat
import Mathlib.Algebra.Order.Field.Power
import Mathlib.Tactic.Ring
import RouteWorks.Proofs.Number.Rounding

/-!
# Integers as doubles

An integer becomes a double by rounding it to 53 significant bits (`rounded_ofRatio`), and so does an
integer that is read as a decimal (`rounded_ofDecimal`).  The order of such doubles is that of the rounded
integers (`Rounded.le_iff`).
-/

namespace RouteWorks.Number.Binary

open IntegerType (withSign)

variable {s t : Bool} {m n : Nat} {e f low : Int} {x y : Binary}

/-! ## The order of finite numbers -/

/-- The value of a finite number. -/
def value (negative : Bool) (m : Nat) (e : Int) : ℚ := (withSign negative m : ℚ) * 2 ^ e

theorem atScale_mul (h : low ≤ e) : (atScale low s m e : ℚ) * 2 ^ low = value s m e := by
  have hexp : (2 : ℚ) ^ (e - low).toNat * 2 ^ low = 2 ^ e := by
    rw [← zpow_natCast, Int.toNat_of_nonneg (Int.sub_nonneg.mpr h), ← zpow_add₀ two_ne_zero,
      Int.sub_add_cancel]
  have hscale : (atScale low s m e : ℚ) = (withSign s m : ℚ) * 2 ^ (e - low).toNat := by
    unfold atScale withSign
    split <;> push_cast <;> simp
  rw [hscale, mul_assoc, hexp, value]

theorem le_finite_iff :
    (finite s m e).le (finite t n f) = true ↔ value s m e ≤ value t n f := by
  have hpos : (0 : ℚ) < 2 ^ min e f := zpow_pos two_pos _
  rw [← atScale_mul (Int.min_le_left e f), ← atScale_mul (Int.min_le_right e f),
    mul_le_mul_iff_left₀ hpos, Int.cast_le]
  simp [le]

/-! ## Rounded numbers -/

/-- The number of bits of the greatest finite double. -/
def widest : Nat := 1024

/-- The number behind the greatest finite double. -/
def overflow : Nat := 2 ^ widest

/-- A double is the number `n` with a sign, rounded to 53 significant bits.  Beyond the greatest finite
double it is an infinity. -/
inductive Rounded (s : Bool) (n : Nat) : Binary → Prop
  | finite {m : Nat} {e : Int} (hvalue : (m : ℚ) * 2 ^ e = roundBits 53 n)
      (hlt : roundBits 53 n < overflow) : Rounded s n (finite s m e)
  | infinite (hle : overflow ≤ roundBits 53 n) : Rounded s n (infinite s)

theorem value_eq (h : (m : ℚ) * 2 ^ e = n) : value s m e = (withSign s n : Int) := by
  unfold value withSign
  split
  · push_cast
    rw [neg_mul, h]
  · push_cast
    exact h

theorem two_pow_lt_overflow {k : Nat} (h : k < widest) : 2 ^ k < overflow :=
  Nat.pow_lt_pow_right (by decide) h

theorem two_pow_le_overflow {k : Nat} (h : k ≤ widest) : 2 ^ k ≤ overflow :=
  Nat.pow_le_pow_right (by decide) h

theorem overflow_le_two_pow {k : Nat} (h : widest ≤ k) : overflow ≤ 2 ^ k :=
  Nat.pow_le_pow_right (by decide) h

/-- A number that is rounded past the greatest finite double is not below it. -/
theorem overflow_le_roundBits (h : overflow ≤ n) : overflow ≤ roundBits 53 n := by
  have hfits : Fits 53 overflow := fits_two_pow (by decide) widest
  rw [← roundBits_eq_self (by decide) hfits]
  exact roundBits_mono (by decide) h

theorem withSign_mem (s : Bool) (n : Nat) : -(n : Int) ≤ withSign s n ∧ withSign s n ≤ n := by
  unfold withSign
  split <;> omega

/-- Rounded numbers are in the order of the rounded integers, if one of them is finite. -/
theorem Rounded.le_iff (hx : Rounded s m x) (hy : Rounded t n y)
    (hfinite : roundBits 53 m < overflow ∨ roundBits 53 n < overflow) :
    x.le y = true ↔ withSign s (roundBits 53 m) ≤ withSign t (roundBits 53 n) := by
  have hm := withSign_mem s (roundBits 53 m)
  have hn := withSign_mem t (roundBits 53 n)
  generalize hr : roundBits 53 m = r at *
  generalize hq : roundBits 53 n = q at *
  cases hx with
  | finite hvalue hlt =>
      cases hy with
      | finite hvalue' hlt' =>
          rw [le_finite_iff, value_eq hvalue, value_eq hvalue', Int.cast_le, hr, hq]
      | infinite hle =>
          cases t with
          | false =>
              simp only [le, true_iff]
              change withSign s r ≤ (q : Int)
              omega
          | true =>
              simp only [le, Bool.false_eq_true, false_iff]
              change ¬withSign s r ≤ -(q : Int)
              omega
  | infinite hle =>
      cases hy with
      | finite hvalue' hlt' =>
          cases s with
          | false =>
              simp only [le, Bool.false_eq_true, false_iff]
              change ¬(r : Int) ≤ withSign t q
              omega
          | true =>
              simp only [le, true_iff]
              change -(r : Int) ≤ withSign t q
              omega
      | infinite hle' =>
          rcases hfinite with h | h <;> omega

/-! ## Rounding an integer -/

theorem unscale_neg (k num den : Nat) : unscale (-(k : Int)) num den = (num * 2 ^ k, den) := by
  cases k with
  | zero =>
      change (num, den * 1) = _
      simp
  | succ k => rfl

/-- An integer is rounded at the exponent that gives its significand 53 bits. -/
theorem scale_double (hn : n ≠ 0) : scale double n 1 = (n.log2 : Int) + 1 - 53 := by
  have hpow := Nat.log2_self_le hn
  have hguess : max double.least ((n.log2 : Int) - Nat.log2 1 - double.precision) =
      (n.log2 : Int) - 53 := by
    have hone : Nat.log2 1 = 0 := by decide
    rw [hone]
    simp only [double]
    omega
  -- at the exponent below it, the significand is one bit too long
  have hlong : ¬ (unscale ((n.log2 : Int) - 53) n 1).1 / (unscale ((n.log2 : Int) - 53) n 1).2 <
      2 ^ 53 := by
    rw [Nat.not_lt]
    rcases Nat.le_total 53 n.log2 with hle | hle
    · obtain ⟨k, hk⟩ := Nat.exists_eq_add_of_le hle
      have hexp : ((n.log2 : Int) - 53) = (k : Int) := by omega
      rw [hexp]
      change 2 ^ 53 ≤ n / (1 * 2 ^ k)
      rw [Nat.one_mul, Nat.le_div_iff_mul_le (Nat.two_pow_pos k), ← Nat.pow_add, ← hk]
      exact hpow
    · obtain ⟨k, hk⟩ := Nat.exists_eq_add_of_le hle
      have hexp : ((n.log2 : Int) - 53) = -(k : Int) := by omega
      rw [hexp, unscale_neg, Nat.div_one, hk, Nat.pow_add]
      exact Nat.mul_le_mul_right _ hpow
  unfold scale
  simp only [hguess]
  rw [if_neg]
  · omega
  · exact hlong

theorem greatest_double : double.greatest + 53 = widest := rfl

/-- A significand of 53 bits, or one that rounding has carried beyond them, is packed as it is. -/
theorem rounded_pack {r k : Nat} (hn : roundBits 53 n = r * 2 ^ k) (hlow : 2 ^ 52 ≤ r)
    (hhigh : r ≤ 2 ^ 53) : Rounded s n (pack double s r k) := by
  have hgreatest := greatest_double
  unfold pack
  by_cases hcarry : r = 2 ^ 53
  · have hvalue : roundBits 53 n = 2 ^ (53 + k) := by rw [hn, hcarry, Nat.pow_add]
    have hhalf : r / 2 = 2 ^ 52 := by omega
    rw [if_pos (show r = Nat.pow 2 double.precision from hcarry)]
    dsimp only
    split
    · rename_i hlarge
      refine .infinite ?_
      rw [hvalue]
      exact overflow_le_two_pow (by omega)
    · rename_i hsmall
      refine .finite ?_ ?_
      · rw [hvalue, hhalf]
        push_cast
        rw [zpow_add₀ two_ne_zero, zpow_natCast, zpow_one, pow_add]
        ring
      · rw [hvalue]
        exact two_pow_lt_overflow (by omega)
  · have hlt : r < 2 ^ 53 := Nat.lt_of_le_of_ne hhigh hcarry
    rw [if_neg (show ¬r = Nat.pow 2 double.precision from hcarry)]
    dsimp only
    split
    · rename_i hlarge
      have hpow : overflow ≤ 2 ^ (52 + k) := overflow_le_two_pow (by omega)
      refine .infinite (hpow.trans ?_)
      rw [hn, Nat.pow_add]
      exact Nat.mul_le_mul_right _ hlow
    · rename_i hsmall
      refine .finite ?_ ?_
      · rw [hn]
        push_cast
        rw [zpow_natCast]
      · have hpow : r * 2 ^ k < 2 ^ (53 + k) := by
          rw [Nat.pow_add]
          exact Nat.mul_lt_mul_of_pos_right hlt (Nat.two_pow_pos k)
        rw [hn]
        exact hpow.trans_le (two_pow_le_overflow (by omega))

/-- A number of at most 53 bits is packed as it is. -/
theorem rounded_pack_of_lt {k : Nat} (hn : n * 2 ^ k < 2 ^ 53) :
    Rounded s n (pack double s (n * 2 ^ k) (-(k : Int))) := by
  have hlt : n < 2 ^ 53 := Nat.lt_of_le_of_lt (Nat.le_mul_of_pos_right n (Nat.two_pow_pos k)) hn
  have hround : roundBits 53 n = n := roundBits_of_lt (by decide) hlt
  unfold pack
  rw [if_neg (show ¬n * 2 ^ k = Nat.pow 2 double.precision from hn.ne)]
  dsimp only
  rw [if_neg (show ¬ double.greatest < -(k : Int) by simp only [double]; omega)]
  refine .finite ?_ ?_
  · rw [hround]
    push_cast
    rw [mul_assoc, zpow_neg, zpow_natCast, mul_inv_cancel₀ (pow_ne_zero k two_ne_zero), mul_one]
  · rw [hround]
    exact hlt.trans (two_pow_lt_overflow (by decide))

/-- An integer becomes the double that it is rounded to. -/
theorem rounded_ofRatio (s : Bool) (n : Nat) : Rounded s n (ofRatio double s n 1) := by
  rw [ofRatio]
  split
  · rename_i hn
    rw [hn]
    refine .finite ?_ ?_
    · rw [roundBits_zero (by decide)]
      simp
    · rw [roundBits_zero (by decide)]
      exact Nat.two_pow_pos widest
  rename_i hn
  simp only [scale_double hn]
  rcases Nat.lt_or_ge n (2 ^ 53) with hsmall | hlarge
  · -- the exponent is negative or zero, and all bits are kept
    have hlog : n.log2 < 53 := (Nat.log2_lt hn).mpr hsmall
    obtain ⟨k, hk⟩ := Nat.exists_eq_add_of_lt hlog
    have hexp : (n.log2 : Int) + 1 - 53 = -(k : Int) := by omega
    have hbits : n * 2 ^ k < 2 ^ (n.log2 + 1) * 2 ^ k :=
      Nat.mul_lt_mul_of_pos_right Nat.lt_log2_self (Nat.two_pow_pos k)
    have hwidth : n.log2 + 1 + k = 53 := by omega
    rw [← Nat.pow_add, hwidth] at hbits
    simp only [hexp, unscale_neg, roundDiv_one]
    exact rounded_pack_of_lt hbits
  · -- the integer is divided by the spacing
    have hlog : 53 ≤ n.log2 := (Nat.le_log2 hn).mpr hlarge
    obtain ⟨k, hk⟩ := Nat.exists_eq_add_of_le hlog
    have hexp : (n.log2 : Int) + 1 - 53 = ((k + 1 : Nat) : Int) := by omega
    have hspacing : spacing 53 n = 2 ^ (k + 1) := by
      rw [spacing]
      congr 1
      omega
    have hquot := roundDiv_eq_or n (spacing 53 n)
    have hlow := le_div_spacing (by decide) hlarge
    have hhigh := div_spacing_lt 53 n
    simp only [hexp]
    change Rounded s n (pack double s (roundDiv n (1 * 2 ^ (k + 1))) ((k + 1 : Nat) : Int))
    rw [Nat.one_mul, ← hspacing]
    exact rounded_pack (by rw [roundBits, hspacing]) (by omega) (by omega)

theorem two_pow_le_ten_pow (k : Nat) : 2 ^ (3 * k) ≤ 10 ^ k := by
  rw [Nat.pow_mul]
  exact Nat.pow_le_pow_left (by decide) k

/-- An integer that is read as a decimal becomes the double that it is rounded to. -/
theorem rounded_ofDecimal (s : Bool) (n : Nat) : Rounded s n (ofDecimal double s n 0) := by
  unfold ofDecimal
  split
  · rename_i hn
    have hzero := rounded_ofRatio s 0
    rw [ofRatio, if_pos rfl] at hzero
    rw [hn]
    exact hzero
  dsimp only
  split
  · -- beyond four hundred digits nothing is computed
    rename_i hsize
    have hlarge : 10 ^ 400 ≤ n := by
      rw [← Nat.not_lt, ← Nat.length_toDigits_le_iff (by decide) (by decide)]
      omega
    have hwide : overflow ≤ 2 ^ (3 * 400) := overflow_le_two_pow (by decide)
    have hpow := two_pow_le_ten_pow 400
    exact .infinite (overflow_le_roundBits (hwide.trans (hpow.trans hlarge)))
  · rw [if_neg (by omega)]
    change Rounded s n (ofRatio double s (n * 10 ^ 0) 1)
    rw [Nat.pow_zero, Nat.mul_one]
    exact rounded_ofRatio s n

/-! ## Signed integers -/

variable {i j : Int}

/-- A double is an integer, rounded. -/
def IsRounded (i : Int) (x : Binary) : Prop := ∃ s n, i = withSign s n ∧ Rounded s n x

theorem isRounded_ofInt (i : Int) : IsRounded i (ofInt double i) := by
  refine ⟨decide (i < 0), i.natAbs, ?_, rounded_ofRatio _ _⟩
  unfold withSign
  by_cases hi : i < 0
  · simp only [hi, decide_true, if_true]
    omega
  · simp only [hi, decide_false, Bool.false_eq_true, if_false]
    omega

/-- The order of integers that are rounded, one of them to a finite double. -/
theorem IsRounded.le_iff (hx : IsRounded i x) (hy : IsRounded j y)
    (hfinite : (nearest 53 i).natAbs < overflow ∨ (nearest 53 j).natAbs < overflow) :
    x.le y = true ↔ i ≤ j ∨ nearest 53 i = nearest 53 j := by
  obtain ⟨s, m, rfl, hx⟩ := hx
  obtain ⟨t, n, rfl, hy⟩ := hy
  have habs : ∀ s k, (withSign s k).natAbs = k := by
    intro s k
    unfold withSign
    split <;> omega
  rw [natAbs_nearest, natAbs_nearest, habs, habs] at hfinite
  rw [hx.le_iff hy hfinite, ← nearest_withSign (by decide), ← nearest_withSign (by decide),
    nearest_le_nearest_iff (by decide)]

/-- Integers of 64 bits are far from the greatest double. -/
theorem natAbs_nearest_lt_overflow (h : i.natAbs ≤ 2 ^ 64) : (nearest 53 i).natAbs < overflow := by
  rw [natAbs_nearest]
  calc roundBits 53 i.natAbs ≤ roundBits 53 (2 ^ 64) := roundBits_mono (by decide) h
    _ = 2 ^ 64 := roundBits_eq_self (by decide) (fits_two_pow (by decide) 64)
    _ < overflow := two_pow_lt_overflow (by decide)

end RouteWorks.Number.Binary
