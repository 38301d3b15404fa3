import Mathlib.Data.List.Basic
import RouteWorks.Number.Literal

/-!
# Integers that are read

A text is read as an integer of a type when it is a numeral: a sign, if there is one, and ASCII digits
whose value is in the range of the type (`read_eq_ok_iff`).  Digits are added one by one and the value
only grows in size, so what leaves the range on the way is not in the range at the end.
-/

namespace RouteWorks.Number.IntegerType

variable {t : IntegerType} {cs ds : List Char} {c : Char} {negative : Bool} {m : Nat} {n : Int}

/-- The integers of a type. -/
def InRange (t : IntegerType) (n : Int) : Prop := t.least ≤ n ∧ n ≤ t.greatest

instance (t : IntegerType) (n : Int) : Decidable (t.InRange n) :=
  inferInstanceAs (Decidable (_ ∧ _))

theorem inRange_zero (t : IntegerType) : t.InRange 0 := by
  have hpow : ∀ k : Nat, 0 < Nat.pow 2 k := fun k => Nat.pow_pos (by decide)
  have hhalf := hpow (t.width - 1)
  have hfull := hpow t.width
  unfold InRange least greatest
  split <;> omega

/-- A number with a sign. -/
def withSign (negative : Bool) (m : Nat) : Int := if negative then -m else m

/-- What is between zero and a number of a type is of the type. -/
theorem InRange.of_le {k : Nat} (h : t.InRange (withSign negative k)) (hle : m ≤ k) :
    t.InRange (withSign negative m) := by
  have hzero := inRange_zero t
  unfold InRange withSign at *
  split <;> simp_all <;> omega

/-! ## Numerals -/

/-- A text in two parts: the sign and the rest.  A minus sign is one only where there are negative
numbers. -/
inductive Signed (t : IntegerType) : List Char → Bool → List Char → Prop
  | none (ds : List Char) : Signed t ds false ds
  | plus (ds : List Char) : Signed t ('+' :: ds) false ds
  | minus (ds : List Char) (hsigned : t.signed = true) : Signed t ('-' :: ds) true ds

/-- A text writes an integer of a type. -/
def IsNumeral (t : IntegerType) (cs : List Char) (n : Int) : Prop :=
  ∃ negative ds, Signed t cs negative ds ∧ ds ≠ [] ∧ (∀ c ∈ ds, c.isDigit = true) ∧
    n = withSign negative (Text.decimal ds) ∧ t.InRange n

/-! ## Reading -/

/-- The value of digits behind others. -/
def continued (m : Nat) (ds : List Char) : Nat :=
  ds.foldl (fun n c => 10 * n + (c.toNat - 48)) m

theorem le_continued (m : Nat) (ds : List Char) : m ≤ continued m ds := by
  induction ds generalizing m with
  | nil => exact Nat.le_refl m
  | cons c ds ih =>
      have hstep := ih (10 * m + (c.toNat - 48))
      change m ≤ continued (10 * m + (c.toNat - 48)) ds
      omega

/-- One step of reading: a digit that keeps the value in the range. -/
theorem readDigits_cons_eq_ok_iff (hc : c.isDigit = true) :
    readDigits t negative (withSign negative m) (c :: ds) = .ok n ↔
      t.InRange (withSign negative (10 * m + (c.toNat - 48))) ∧
        readDigits t negative (withSign negative (10 * m + (c.toNat - 48))) ds = .ok n := by
  have hnext : (if negative then 10 * withSign negative m - ((c.toNat - 48 : Nat) : Int)
      else 10 * withSign negative m + ((c.toNat - 48 : Nat) : Int)) =
      withSign negative (10 * m + (c.toNat - 48)) := by
    unfold withSign
    split <;> omega
  rw [readDigits]
  simp only [hc, hnext, Bool.not_true, Bool.false_eq_true, if_false, InRange]
  split
  · simp only [reduceCtorEq, false_iff]
    omega
  split
  · simp only [reduceCtorEq, false_iff]
    omega
  · exact ⟨fun h => ⟨⟨by omega, by omega⟩, h⟩, fun h => h.2⟩

theorem readDigits_eq_ok_iff (hm : t.InRange (withSign negative m)) :
    readDigits t negative (withSign negative m) ds = .ok n ↔
      (∀ c ∈ ds, c.isDigit = true) ∧ n = withSign negative (continued m ds) ∧ t.InRange n := by
  induction ds generalizing m with
  | nil =>
      rw [readDigits]
      constructor
      · intro h
        obtain rfl := Except.ok.inj h
        exact ⟨by simp, rfl, hm⟩
      · rintro ⟨-, rfl, -⟩
        rfl
  | cons c ds ih =>
      cases hc : c.isDigit with
      | false => simp [readDigits, hc]
      | true =>
          rw [readDigits_cons_eq_ok_iff hc]
          simp only [List.forall_mem_cons, hc, true_and]
          constructor
          · rintro ⟨hnext, h⟩
            exact (ih hnext).mp h
          · rintro ⟨hdigits, rfl, hrange⟩
            -- the whole number is not smaller in size than this part of it
            have hnext : t.InRange (withSign negative (10 * m + (c.toNat - 48))) :=
              hrange.of_le (le_continued _ ds)
            exact ⟨hnext, (ih hnext).mpr ⟨hdigits, rfl, hrange⟩⟩

/-- In front of digits, the sign that is split off is the sign of the text. -/
theorem signOf_eq_iff (hne : ds ≠ []) (hdigits : ∀ c ∈ ds, c.isDigit = true) :
    t.signOf cs = (negative, ds) ↔ Signed t cs negative ds := by
  have hnodigit : ∀ d : Char, d.isDigit = false → ∀ rest, d :: rest ≠ ds := by
    rintro d hd rest rfl
    rw [hdigits d List.mem_cons_self] at hd
    cases hd
  constructor
  · intro h
    unfold signOf at h
    split at h
    · cases h
      exact .plus ds
    · split at h
      · rename_i hsigned
        cases h
        exact .minus ds hsigned
      · exact absurd (Prod.mk.inj h).2 (hnodigit '-' (by decide) _)
    · cases h
      exact .none cs
  · intro h
    cases h with
    | none =>
        unfold signOf
        split
        · exact absurd rfl (hnodigit '+' (by decide) _)
        · exact absurd rfl (hnodigit '-' (by decide) _)
        · rfl
    | plus => rfl
    | minus _ hsigned => simp [signOf, hsigned]

/-- The numerals of a type are read, and nothing else. -/
theorem read_eq_ok_iff : t.read cs = .ok n ↔ t.IsNumeral cs n := by
  have hzero : withSign (t.signOf cs).1 0 = 0 := by simp [withSign]
  have hread : t.read cs = .ok n ↔ cs ≠ [] ∧ (t.signOf cs).2 ≠ [] ∧
      readDigits t (t.signOf cs).1 (withSign (t.signOf cs).1 0) (t.signOf cs).2 = .ok n := by
    rw [hzero]
    unfold read
    cases cs with
    | nil => simp
    | cons c cs =>
        simp only [List.isEmpty_cons, Bool.false_eq_true, if_false]
        split <;> simp_all
  rw [hread, readDigits_eq_ok_iff (by rw [hzero]; exact inRange_zero t)]
  constructor
  · rintro ⟨-, hne, hdigits, hn, hrange⟩
    exact ⟨_, _, (signOf_eq_iff hne hdigits).mp rfl, hne, hdigits, hn, hrange⟩
  · rintro ⟨negative, ds, hsigned, hne, hdigits, hn, hrange⟩
    have hcs : cs ≠ [] := by
      cases hsigned with
      | none => exact hne
      | plus => simp
      | minus => simp
    rw [(signOf_eq_iff hne hdigits).mpr hsigned]
    exact ⟨hcs, hne, hdigits, hn, hrange⟩

end RouteWorks.Number.IntegerType
