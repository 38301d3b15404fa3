import Mathlib.Data.Nat.Dist
import RouteWorks.Number.Binary
import RouteWorks.Proofs.Number.Integer

/-!
# Integers rounded to significant bits

Among the integers with a significand of at most `p` bits, `roundBits p n` is one nearest to `n`
(`dist_roundBits_le`), and of two that are equally near it is the even one (`roundBits_tie`).  That it is a
nearest one is enough for rounding to keep the order (`roundBits_mono`).
-/

namespace RouteWorks.Number

open Binary (roundDiv)
open IntegerType (withSign)

variable {p n k d g : Nat}

/-! ## Quotients -/

theorem roundDiv_eq_or (n d : Nat) : roundDiv n d = n / d ∨ roundDiv n d = n / d + 1 := by
  unfold roundDiv
  dsimp only
  split
  · exact Or.inl rfl
  split
  · exact Or.inr rfl
  · omega

theorem roundDiv_one (n : Nat) : roundDiv n 1 = n := by
  simp [roundDiv, Nat.mod_one]

/-- No multiple of the divisor is nearer than the rounded one. -/
theorem dist_roundDiv_le (hd : 0 < d) (n k : Nat) :
    Nat.dist (roundDiv n d * d) n ≤ Nat.dist (k * d) n := by
  have hn : n / d * d + n % d = n := Nat.div_add_mod' n d
  have hlt : n % d < d := Nat.mod_lt n hd
  have hup : (n / d + 1) * d = n / d * d + d := Nat.succ_mul _ _
  -- a multiple is not between the two neighbours of the quotient
  have hk : k * d ≤ n / d * d ∨ n / d * d + d ≤ k * d := by
    rcases Nat.lt_or_ge (n / d) k with hlt | hle
    · exact Or.inr (hup ▸ Nat.mul_le_mul_right d hlt)
    · exact Or.inl (Nat.mul_le_mul_right d hle)
  unfold roundDiv
  dsimp only
  split
  · simp only [Nat.dist]
    omega
  split
  · rw [hup]
    simp only [Nat.dist]
    omega
  · rcases Nat.mod_two_eq_zero_or_one (n / d) with heven | hodd
    · rw [heven, Nat.add_zero]
      simp only [Nat.dist]
      omega
    · rw [hodd, hup]
      simp only [Nat.dist]
      omega

/-- Half-way between two multiples, the even one is taken. -/
theorem roundDiv_tie (h : 2 * (n % d) = d) : roundDiv n d % 2 = 0 := by
  unfold roundDiv
  dsimp only
  rw [if_neg (by omega), if_neg (by omega)]
  omega

/-! ## Significant bits -/

/-- A number with a significand of at most `p` bits. -/
def Fits (p n : Nat) : Prop := ∃ m q, m < 2 ^ p ∧ n = m * 2 ^ q

/-- The distance of the numbers with `p` significant bits at the magnitude of a number. -/
def spacing (p n : Nat) : Nat := 2 ^ (n.log2 + 1 - p)

/-- A number rounded to `p` significant bits. -/
def roundBits (p n : Nat) : Nat := roundDiv n (spacing p n) * spacing p n

theorem spacing_pos (p n : Nat) : 0 < spacing p n := Nat.two_pow_pos _

theorem fits_two_pow (hp : 0 < p) (k : Nat) : Fits p (2 ^ k) :=
  ⟨1, k, Nat.one_lt_two_pow hp.ne', (Nat.one_mul _).symm⟩

theorem spacing_of_lt (hp : 0 < p) (h : n < 2 ^ p) : spacing p n = 1 := by
  have hlog : n.log2 < p := by
    rcases Nat.eq_zero_or_pos n with rfl | hn
    · exact hp
    · exact (Nat.log2_lt hn.ne').mpr h
  rw [spacing, Nat.sub_eq_zero_of_le hlog, Nat.pow_zero]

theorem roundBits_of_lt (hp : 0 < p) (h : n < 2 ^ p) : roundBits p n = n := by
  rw [roundBits, spacing_of_lt hp h, roundDiv_one, Nat.mul_one]

/-- The quotient by the spacing has `p` bits. -/
theorem div_spacing_lt (p n : Nat) : n / spacing p n < 2 ^ p := by
  rw [Nat.div_lt_iff_lt_mul (spacing_pos p n), spacing, ← Nat.pow_add]
  refine Nat.lt_of_lt_of_le Nat.lt_log2_self ?_
  exact Nat.pow_le_pow_right (by decide) (by omega)

/-- The quotient by the spacing has its highest bit set, unless the number is small. -/
theorem le_div_spacing (hp : 0 < p) (h : 2 ^ p ≤ n) : 2 ^ (p - 1) ≤ n / spacing p n := by
  have hn : n ≠ 0 := by
    rintro rfl
    exact absurd h (Nat.not_le.mpr (Nat.two_pow_pos p))
  have hlog : p ≤ n.log2 := (Nat.le_log2 hn).mpr h
  rw [Nat.le_div_iff_mul_le (spacing_pos p n), spacing, ← Nat.pow_add]
  have hexp : p - 1 + (n.log2 + 1 - p) = n.log2 := by omega
  rw [hexp]
  exact Nat.log2_self_le hn

theorem fits_roundBits (hp : 0 < p) (n : Nat) : Fits p (roundBits p n) := by
  have hquot := div_spacing_lt p n
  have hcarry : roundDiv n (spacing p n) < 2 ^ p ∨ roundDiv n (spacing p n) = 2 ^ p := by
    rcases roundDiv_eq_or n (spacing p n) with h | h <;> omega
  rcases hcarry with hlt | heq
  · exact ⟨_, _, hlt, rfl⟩
  · rw [roundBits, heq, spacing, ← Nat.pow_add]
    exact fits_two_pow hp _

/-- Above a power of two, numbers with few bits are multiples of the spacing. -/
theorem dvd_of_fits {l : Nat} (hg : Fits p g) (hle : 2 ^ l ≤ g) : 2 ^ (l + 1 - p) ∣ g := by
  obtain ⟨m, q, hm, rfl⟩ := hg
  have hq : l < p + q := by
    have hlt : m * 2 ^ q < 2 ^ (p + q) := by
      rw [Nat.pow_add]
      exact Nat.mul_lt_mul_of_pos_right hm (Nat.two_pow_pos q)
    exact (Nat.pow_lt_pow_iff_right (by decide)).mp (Nat.lt_of_le_of_lt hle hlt)
  exact Dvd.dvd.mul_left (Nat.pow_dvd_pow 2 (by omega)) m

/-- No number with `p` significant bits is nearer than the rounded one. -/
theorem dist_roundBits_le (hp : 0 < p) (hg : Fits p g) :
    Nat.dist (roundBits p n) n ≤ Nat.dist g n := by
  rcases Nat.lt_or_ge n (2 ^ p) with hsmall | hlarge
  · rw [roundBits_of_lt hp hsmall, Nat.dist_self]
    exact Nat.zero_le _
  have hn : n ≠ 0 := by
    rintro rfl
    exact absurd hlarge (Nat.not_le.mpr (Nat.two_pow_pos p))
  have hlog : p ≤ n.log2 := (Nat.le_log2 hn).mpr hlarge
  have hmultiple : ∀ g, spacing p n ∣ g → Nat.dist (roundBits p n) n ≤ Nat.dist g n := by
    rintro _ ⟨k, rfl⟩
    rw [Nat.mul_comm]
    exact dist_roundDiv_le (spacing_pos p n) n k
  rcases Nat.lt_or_ge g (2 ^ n.log2) with hbelow | habove
  · -- the power of two between them is a multiple of the spacing
    refine Nat.le_trans (hmultiple (2 ^ n.log2) (Nat.pow_dvd_pow 2 (by omega))) ?_
    have hpow := Nat.log2_self_le hn
    simp only [Nat.dist]
    omega
  · exact hmultiple g (dvd_of_fits hg habove)

/-- Of two equally near numbers the one with the even significand is taken. -/
theorem roundBits_tie (h : 2 * (n % spacing p n) = spacing p n) :
    roundBits p n / spacing p n % 2 = 0 := by
  rw [roundBits, Nat.mul_div_cancel _ (spacing_pos p n)]
  exact roundDiv_tie h

/-- Rounding keeps the order. -/
theorem roundBits_mono (hp : 0 < p) {a b : Nat} (h : a ≤ b) : roundBits p a ≤ roundBits p b := by
  have ha := dist_roundBits_le (n := a) hp (fits_roundBits hp b)
  have hb := dist_roundBits_le (n := b) hp (fits_roundBits hp a)
  -- if the rounded numbers were swapped, both would lie on the far side of the middle
  by_contra hlt
  rcases Nat.eq_or_lt_of_le h with rfl | hab
  · exact hlt (Nat.le_refl _)
  · simp only [Nat.dist] at ha hb
    omega

theorem roundBits_eq_self (hp : 0 < p) (h : Fits p n) : roundBits p n = n := by
  have hdist := dist_roundBits_le (n := n) hp h
  rw [Nat.dist_self, Nat.le_zero] at hdist
  exact Nat.eq_of_dist_eq_zero hdist

/-! ## Signed numbers -/

/-- An integer rounded to `p` significant bits. -/
def nearest (p : Nat) (i : Int) : Int := withSign (i < 0) (roundBits p i.natAbs)

theorem roundBits_zero (hp : 0 < p) : roundBits p 0 = 0 := roundBits_of_lt hp (Nat.two_pow_pos p)

theorem nearest_withSign (hp : 0 < p) (negative : Bool) (n : Nat) :
    nearest p (withSign negative n) = withSign negative (roundBits p n) := by
  cases negative with
  | false => simp [nearest, withSign]
  | true =>
      rcases Nat.eq_zero_or_pos n with rfl | hn
      · simp [nearest, withSign, roundBits_zero hp]
      · simp [nearest, withSign, hn]

theorem nearest_mono (hp : 0 < p) {i j : Int} (h : i ≤ j) : nearest p i ≤ nearest p j := by
  unfold nearest withSign
  by_cases hi : i < 0
  · by_cases hj : j < 0
    · have hle := roundBits_mono hp (show j.natAbs ≤ i.natAbs by omega)
      simp only [hi, hj, decide_true, if_true]
      omega
    · simp only [hi, hj, decide_true, decide_false, if_true, Bool.false_eq_true, if_false]
      omega
  · have hj : ¬j < 0 := by omega
    have hle := roundBits_mono hp (show i.natAbs ≤ j.natAbs by omega)
    simp only [hi, hj, decide_false, Bool.false_eq_true, if_false]
    omega

/-- Rounded integers are in order if the integers are, or if they have become equal. -/
theorem nearest_le_nearest_iff (hp : 0 < p) {i j : Int} :
    nearest p i ≤ nearest p j ↔ i ≤ j ∨ nearest p i = nearest p j := by
  constructor
  · intro h
    rcases Int.le_total i j with hle | hle
    · exact Or.inl hle
    · exact Or.inr (Int.le_antisymm h (nearest_mono hp hle))
  · rintro (h | h)
    · exact nearest_mono hp h
    · exact Int.le_of_eq h

theorem natAbs_nearest (p : Nat) (i : Int) : (nearest p i).natAbs = roundBits p i.natAbs := by
  unfold nearest withSign
  split <;> omega

theorem nearest_eq_self (hp : 0 < p) {i : Int} (h : i.natAbs < 2 ^ p) : nearest p i = i := by
  unfold nearest withSign
  rw [roundBits_of_lt hp h]
  by_cases hi : i < 0
  · simp only [hi, decide_true, if_true]
    omega
  · simp only [hi, decide_false, Bool.false_eq_true, if_false]
    omega

/-- A number that fits is the only one that is rounded to it. -/
theorem eq_of_nearest_eq (hp : 0 < p) {i j : Int} (hi : i.natAbs < 2 ^ p)
    (h : nearest p i = nearest p j) : i = j := by
  have hj : j.natAbs < 2 ^ p := by
    by_contra hlarge
    have hpow : 2 ^ p ≤ roundBits p j.natAbs := by
      rw [← roundBits_eq_self hp (fits_two_pow hp p)]
      exact roundBits_mono hp (Nat.le_of_not_lt hlarge)
    rw [← natAbs_nearest, ← h, natAbs_nearest, roundBits_of_lt hp hi] at hpow
    omega
  rw [← nearest_eq_self hp hi, h, nearest_eq_self hp hj]

end RouteWorks.Number
