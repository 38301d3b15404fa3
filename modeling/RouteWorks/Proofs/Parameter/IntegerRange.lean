import RouteWorks.Proofs.Number.Conversion
import RouteWorks.Proofs.Number.Reading
import RouteWorks.Proofs.Parameter.Ranged
import RouteWorks.Proofs.Text.Blank
import RouteWorks.Proofs.Text.Joined

/-!
# Ranges of integers

A range is a pair of doubles, and so is the integer that is checked against it.  An integer in the range as it
is written is always bound.  One that is outside is bound if rounding to 53 significant bits takes it to the
same number as the end that it is beyond, and so only at magnitudes of `2 ^ 53` and more
(`Rules.bind_integerRange`).
-/

namespace RouteWorks

open Number (nearest)
open Number.Binary (IsRounded)
open Text (trimChars)

/-! ## Integers as they are written -/

namespace Number

variable {cs ds : List Char} {i : Int}

/-- A text writes an integer: ASCII digits, with or without a sign in front of them. -/
inductive WritesInteger : List Char → Int → Prop
  | digits {ds : List Char} (hne : ds ≠ []) (hds : ∀ c ∈ ds, c.isDigit = true) :
      WritesInteger ds (Text.decimal ds)
  | plus {ds : List Char} (hne : ds ≠ []) (hds : ∀ c ∈ ds, c.isDigit = true) :
      WritesInteger ('+' :: ds) (Text.decimal ds)
  | minus {ds : List Char} (hne : ds ≠ []) (hds : ∀ c ∈ ds, c.isDigit = true) :
      WritesInteger ('-' :: ds) (-(Text.decimal ds : Int))

/-- Digits are read as a double, rounded. -/
theorem readBody_digits (negative : Bool) (hne : ds ≠ []) (hds : ∀ c ∈ ds, c.isDigit = true) :
    ∃ x, readBody double negative ds = .ok x ∧
      IsRounded (IntegerType.withSign negative (Text.decimal ds)) x := by
  have hread := Literal.readUnsigned?_digits negative hne hds
  have hvalue : Literal.toBinary double { negative, whole := ds, fraction := [], exponent := 0 } =
      Binary.ofDecimal double negative (Text.decimal ds) 0 := by
    simp [Literal.toBinary, Literal.value]
  obtain ⟨c, cs, rfl⟩ := List.exists_cons_of_ne_nil hne
  rw [readBody_of_isDigit (hds c List.mem_cons_self) hread, hvalue]
  exact ⟨_, rfl, negative, _, rfl, Binary.rounded_ofDecimal negative _⟩

namespace WritesInteger

theorem ne_nil (h : WritesInteger cs i) : cs ≠ [] := by
  cases h with
  | digits hne hds => exact hne
  | plus hne hds => exact List.cons_ne_nil _ _
  | minus hne hds => exact List.cons_ne_nil _ _

theorem not_mem_colon (h : WritesInteger cs i) : ':' ∉ cs := by
  have hdigits : ∀ ds : List Char, (∀ c ∈ ds, c.isDigit = true) → ':' ∉ ds :=
    fun ds hds hmem => absurd (hds ':' hmem) (by decide)
  cases h with
  | digits hne hds => exact hdigits _ hds
  | plus hne hds => exact List.not_mem_cons_of_ne_of_not_mem (by decide) (hdigits _ hds)
  | minus hne hds => exact List.not_mem_cons_of_ne_of_not_mem (by decide) (hdigits _ hds)

theorem exists_readBinary (h : WritesInteger cs i) :
    ∃ x, readBinary double cs = .ok x ∧ IsRounded i x := by
  rw [readBinary_eq h.ne_nil]
  cases h with
  | digits hne hds =>
      -- a digit is no sign
      have hsplit : splitSign cs = (false, cs) := by
        obtain ⟨c, cs, rfl⟩ := List.exists_cons_of_ne_nil hne
        have hc := hds c List.mem_cons_self
        show splitSign (Number.minus false ++ c :: cs) = (false, c :: cs)
        refine splitSign_minus ?_ ?_
        · rintro rfl
          cases hc
        · rintro rfl
          cases hc
      rw [hsplit]
      exact readBody_digits false hne hds
  | plus hne hds => exact readBody_digits false hne hds
  | minus hne hds => exact readBody_digits true hne hds

end WritesInteger

end Number

/-! ## Ranges as they are written -/

namespace Span

open Number (WritesInteger)

variable {cs low high : List Char} {spec : String} {a b : Option Int} {i v : Int}

/-- A text writes an end of a range, or nothing where there is no end; blanks around it do not count. -/
def WritesEnd (cs : List Char) : Option Int → Prop
  | none => trimChars cs = []
  | some i => WritesInteger (trimChars cs) i

/-- A text writes a range of integers: one integer, which is both ends, or two ends with a colon between
them, each of which may be missing. -/
inductive WritesIntegers (spec : String) : Option Int → Option Int → Prop
  | exact {i : Int} (h : WritesInteger (trimChars spec.toList) i) : WritesIntegers spec (some i) (some i)
  | between {low high : List Char} {a b : Option Int}
      (hspec : trimChars spec.toList = low ++ ':' :: high) (hlow : WritesEnd low a)
      (hhigh : WritesEnd high b) : WritesIntegers spec a b

theorem WritesEnd.not_mem_colon (h : WritesEnd cs a) : ':' ∉ cs := by
  intro hmem
  have htrim : ':' ∈ trimChars cs := Text.mem_trimChars hmem (by decide)
  cases a with
  | none =>
      rw [show trimChars cs = [] from h] at htrim
      cases htrim
  | some i => exact Number.WritesInteger.not_mem_colon h htrim

/-- An end of integers is an end of numbers, rounded. -/
theorem WritesEnd.exists_denotesEnd (h : WritesEnd cs a) :
    ∃ e, DenotesEnd cs e ∧ Option.Rel IsRounded a e := by
  cases a with
  | none => exact ⟨none, .unbounded h, .none⟩
  | some i =>
      obtain ⟨x, hread, hx⟩ := Number.WritesInteger.exists_readBinary h
      exact ⟨some x, .bound hread, .some hx⟩

theorem WritesIntegers.exists_denotes (h : WritesIntegers spec a b) :
    ∃ low high, Denotes spec { low, high } ∧ Option.Rel IsRounded a low ∧
      Option.Rel IsRounded b high := by
  cases h with
  | exact hwrites =>
      obtain ⟨x, hread, hx⟩ := hwrites.exists_readBinary
      exact ⟨some x, some x, .exact hwrites.not_mem_colon hread, .some hx, .some hx⟩
  | between hspec hlow hhigh =>
      obtain ⟨x, hlowEnd, hx⟩ := hlow.exists_denotesEnd
      obtain ⟨y, hhighEnd, hy⟩ := hhigh.exists_denotesEnd
      exact ⟨x, y, .between hspec hlow.not_mem_colon hlowEnd hhighEnd, hx, hy⟩

/-- An integer passes for one between the ends: it is, or it is rounded to the same number as the end that
it is beyond. -/
structure Passes (a b : Option Int) (v : Int) : Prop where
  low : ∀ i, a = some i → i ≤ v ∨ nearest 53 i = nearest 53 v
  high : ∀ j, b = some j → v ≤ j ∨ nearest 53 v = nearest 53 j

/-- An integer of 64 bits is covered by a range if and only if it passes for one between the ends. -/
theorem WritesIntegers.covers_iff (h : WritesIntegers spec a b) (hv : v.natAbs ≤ 2 ^ 64) :
    Covers spec (.ofInt Number.double v) ↔ Passes a b v := by
  obtain ⟨low, high, hs, hlow, hhigh⟩ := h.exists_denotes
  have hrounded := Number.Binary.isRounded_ofInt v
  have hfinite := Number.Binary.natAbs_nearest_lt_overflow hv
  have hlowIff : (∀ x, low = some x → x.le (.ofInt Number.double v) = true) ↔
      ∀ i, a = some i → i ≤ v ∨ nearest 53 i = nearest 53 v := by
    cases hlow with
    | none => simp
    | some hx => simp [hx.le_iff hrounded (Or.inr hfinite)]
  have hhighIff : (∀ y, high = some y → (Number.Binary.ofInt Number.double v).le y = true) ↔
      ∀ j, b = some j → v ≤ j ∨ nearest 53 v = nearest 53 j := by
    cases hhigh with
    | none => simp
    | some hy => simp [hrounded.le_iff hy (Or.inl hfinite)]
  constructor
  · rintro ⟨s', hs', hcovers⟩
    obtain rfl := hs.unique hs'
    exact ⟨hlowIff.mp hcovers.1, hhighIff.mp hcovers.2⟩
  · intro hpasses
    exact ⟨_, hs, hlowIff.mpr hpasses.low, hhighIff.mpr hpasses.high⟩

/-- An integer lies between the ends of a range. -/
def Between (a b : Option Int) (v : Int) : Prop :=
  (∀ i, a = some i → i ≤ v) ∧ ∀ j, b = some j → v ≤ j

theorem Between.passes (h : Between a b v) : Passes a b v :=
  ⟨fun i hi => Or.inl (h.1 i hi), fun j hj => Or.inl (h.2 j hj)⟩

/-- A number of fewer than 54 bits, the integer or an end that it is beyond, is the only one that is rounded
to it. -/
theorem Passes.between (h : Passes a b v)
    (hsmall : v.natAbs < 2 ^ 53 ∨ ∀ i, a = some i ∨ b = some i → i.natAbs < 2 ^ 53) :
    Between a b v := by
  have heq : ∀ i, (a = some i ∨ b = some i) → nearest 53 i = nearest 53 v → i = v := by
    intro i hi hround
    rcases hsmall with hv | hends
    · exact (Number.eq_of_nearest_eq (by decide) hv hround.symm).symm
    · exact Number.eq_of_nearest_eq (by decide) (hends i hi) hround
  constructor
  · intro i hi
    rcases h.low i hi with hle | hround
    · exact hle
    · exact Int.le_of_eq (heq i (Or.inl hi) hround)
  · intro j hj
    rcases h.high j hj with hle | hround
    · exact hle
    · exact Int.le_of_eq (heq j (Or.inr hj) hround.symm).symm

end Span

/-! ## Integers that are bound -/

namespace Number.IntegerType

/-- The integers of a type of at most 64 bits. -/
theorem InRange.natAbs_le {t : IntegerType} {v : Int} (h : t.InRange v) (hwidth : t.width ≤ 64) :
    v.natAbs ≤ 2 ^ 64 := by
  have hfull : Nat.pow 2 t.width ≤ 2 ^ 64 := Nat.pow_le_pow_right (by decide) hwidth
  have hhalf : Nat.pow 2 (t.width - 1) ≤ 2 ^ 64 := Nat.pow_le_pow_right (by decide) (by omega)
  unfold InRange least greatest at h
  split at h <;> omega

end Number.IntegerType

namespace Rules

variable {rules : Rules} {spec : String} {a b : Option Int} {t : Number.IntegerType} {sent : List String}

theorem bind_integer_eq_ok_iff (hrange : rules.range = some spec) (hspec : Span.WritesIntegers spec a b)
    (hwidth : t.width ≤ 64) (hne : sent.filter (· ≠ "") ≠ []) (name key : String) (v : Int) :
    rules.bind (.integer name t) key sent = .ok (.integer v) ↔
      rules.withoutRange.bind (.integer name t) key sent = .ok (.integer v) ∧ Span.Passes a b v := by
  rw [bind_eq_ok_iff_checkRange hne, checkRange_eq_ok_iff hrange]
  refine and_congr_right fun hv => ?_
  have hnumber : (∀ x, (ParameterValue.integer v).number? = some x → Span.Covers spec x) ↔
      Span.Covers spec (.ofInt Number.double v) := by simp [ParameterValue.number?]
  cases reads_of_bind hne hv with
  | integer hlast hnumeral =>
      obtain ⟨negative, ds, -, -, -, -, hinRange⟩ := hnumeral
      rw [hnumber, hspec.covers_iff (hinRange.natAbs_le hwidth)]

end Rules

/-- An integer that is sent is bound under a range of integers if and only if it is bound without the range
and passes for one between the ends.  So the range refuses nothing that lies between them; and if the integer,
or each end, is less than `2 ^ 53` in size, the range lets nothing else pass. -/
theorem Rules.bind_integerRange (rules : Rules) {spec : String} (hrange : rules.range = some spec)
    {a b : Option Int} (hspec : Span.WritesIntegers spec a b) (name : String) (t : Number.IntegerType)
    (hwidth : t.width ≤ 64) (c : Context) (position : Position) (key : String)
    (hsent : c.sent position key ≠ []) (v : Int) :
    (rules.bind (.integer name t) key (c.values position key) = .ok (.integer v) ↔
        rules.withoutRange.bind (.integer name t) key (c.values position key) = .ok (.integer v) ∧
          Span.Passes a b v) ∧
    (Span.Between a b v → (rules.bind (.integer name t) key (c.values position key) = .ok (.integer v) ↔
        rules.withoutRange.bind (.integer name t) key (c.values position key) = .ok (.integer v))) ∧
    ((v.natAbs < 2 ^ 53 ∨ ∀ i, a = some i ∨ b = some i → i.natAbs < 2 ^ 53) →
      rules.bind (.integer name t) key (c.values position key) = .ok (.integer v) →
        Span.Between a b v) := by
  have hiff := Rules.bind_integer_eq_ok_iff hrange hspec hwidth hsent name key v
  refine ⟨hiff, ?_, ?_⟩
  · intro hbetween
    rw [hiff]
    exact and_iff_left hbetween.passes
  · intro hsmall hbind
    exact (hiff.mp hbind).2.between hsmall

/-- Integers up to the first one with a neighbour that is no double. -/
def limitRules : Rules := { range := some ":9007199254740992" }

def limitType : ParameterType := .integer "i64" ⟨true, 64⟩

theorem writesIntegers_limit :
    Span.WritesIntegers ":9007199254740992" none (some 9007199254740992) := by
  have hdigits : ∀ c ∈ "9007199254740992".toList, c.isDigit = true := List.all_eq_true.mp (by decide)
  have hwrites := Number.WritesInteger.digits (by decide) hdigits
  have hvalue : (Text.decimal "9007199254740992".toList : Int) = 9007199254740992 := by decide
  rw [hvalue] at hwrites
  have hspec : Text.trimChars ":9007199254740992".toList = [] ++ ':' :: "9007199254740992".toList := by
    decide
  exact .between hspec rfl hwrites

theorem Rules.bind_integerRange_limit :
    limitRules.range = some ":9007199254740992" ∧
      Span.WritesIntegers ":9007199254740992" none (some 9007199254740992) ∧
      (countRequest "9007199254740991").sent .query "a" ≠ [] ∧
      limitRules.bind limitType "a" ((countRequest "9007199254740991").values .query "a") =
        .ok (.integer 9007199254740991) := by
  have hsent : (countRequest "9007199254740991").sent .query "a" ≠ [] := by decide
  have hbind := (Rules.bind_integerRange limitRules rfl writesIntegers_limit "i64" ⟨true, 64⟩
    (Nat.le_refl 64) (countRequest "9007199254740991") .query "a" hsent 9007199254740991).2.1
  refine ⟨rfl, writesIntegers_limit, hsent, (hbind ⟨by simp, by simp⟩).mpr rfl⟩

/-- The integer behind the limit is a tie between its neighbours, and passes for the limit. -/
theorem not_between_limit :
    ¬ ∀ (rules : Rules) (spec : String) (a b : Option Int) (name : String) (t : Number.IntegerType)
        (c : Context) (position : Position) (key : String) (v : Int), rules.range = some spec →
      Span.WritesIntegers spec a b → t.width ≤ 64 → c.sent position key ≠ [] →
      rules.bind (.integer name t) key (c.values position key) = .ok (.integer v) →
      Span.Between a b v := by
  intro h
  have hsent : (countRequest "9007199254740993").sent .query "a" ≠ [] := by decide
  have hpasses : Span.Passes none (some 9007199254740992) 9007199254740993 := by
    refine ⟨by simp, ?_⟩
    rintro _ ⟨⟩
    exact Or.inr (by decide)
  have hbind : limitRules.bind limitType "a" ((countRequest "9007199254740993").values .query "a") =
      .ok (.integer 9007199254740993) :=
    (Rules.bind_integer_eq_ok_iff rfl writesIntegers_limit (Nat.le_refl 64) hsent _ _ _).mpr
      ⟨rfl, hpasses⟩
  have hbetween := h limitRules _ _ _ "i64" ⟨true, 64⟩ _ .query "a" _ rfl writesIntegers_limit
    (Nat.le_refl 64) hsent hbind
  exact absurd (hbetween.2 _ rfl) (by decide)

end RouteWorks
