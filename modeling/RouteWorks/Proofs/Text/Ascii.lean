import RouteWorks.Text.Blank
import RouteWorks.Text.Case

/-!
# ASCII characters

In ASCII the character classes are those of the core library, and a letter has one image in the
other case.  A property of ASCII characters is checked on the 128 of them (`ascii_forall`).
-/

namespace RouteWorks.Text

variable {c : Char}

theorem ascii_forall {P : Char → Prop} (h : ∀ n < 128, P (Char.ofNat n)) (hc : isAscii c = true) :
    P c := by
  have hlt : c.toNat < 128 := of_decide_eq_true hc
  have hc := h c.toNat hlt
  rwa [Char.ofNat_toNat] at hc

/-! ## Classes -/

theorem isUpper_iff : c.isUpper = true ↔ 65 ≤ c.toNat ∧ c.toNat ≤ 90 :=
  decide_eq_true_iff

theorem isLower_iff : c.isLower = true ↔ 97 ≤ c.toNat ∧ c.toNat ≤ 122 :=
  Bool.and_eq_true_iff.trans (and_congr decide_eq_true_iff decide_eq_true_iff)

theorem isDigit_iff : c.isDigit = true ↔ 48 ≤ c.toNat ∧ c.toNat ≤ 57 :=
  Char.isDigit_iff_toNat

theorem isAlpha_iff : c.isAlpha = true ↔ c.isUpper = true ∨ c.isLower = true :=
  Bool.or_eq_true_iff

theorem isAlphanum_iff :
    c.isAlphanum = true ↔ c.isUpper = true ∨ c.isLower = true ∨ c.isDigit = true := by
  rw [Char.isAlphanum, Bool.or_eq_true, isAlpha_iff, or_assoc]

theorem isAlphanum_of_isUpper (h : c.isUpper = true) : c.isAlphanum = true :=
  isAlphanum_iff.mpr (Or.inl h)

/-- Letters and digits of the core library are ASCII. -/
theorem isAscii_of_isAlphanum (h : c.isAlphanum = true) : isAscii c = true := by
  rw [isAlphanum_iff, isUpper_iff, isLower_iff, isDigit_iff] at h
  apply decide_eq_true
  omega

theorem isAlphanumeric_of_isAscii (h : isAscii c = true) : isAlphanumeric c = c.isAlphanum := by
  simp [isAlphanumeric, h]

theorem isUppercase_of_isAscii (h : isAscii c = true) : isUppercase c = c.isUpper := by
  simp [isUppercase, h]

theorem isLowercase_of_isAscii (h : isAscii c = true) : isLowercase c = c.isLower := by
  simp [isLowercase, h]

theorem isBlank_of_isAlphanum (h : c.isAlphanum = true) : isBlank c = false := by
  rw [isAlphanum_iff, isUpper_iff, isLower_iff, isDigit_iff] at h
  simp [isBlank]
  omega

theorem isUpper_eq_false (h : c.isLower = true ∨ c.isDigit = true) : c.isUpper = false := by
  rw [isLower_iff, isDigit_iff] at h
  rw [Bool.eq_false_iff, ne_eq, isUpper_iff]
  omega

theorem ne_underscore_of_isAlphanum (h : c.isAlphanum = true) : c ≠ '_' := by
  rintro rfl
  exact absurd h (by decide)

/-! ## Case -/

theorem upper_of_isAscii (h : isAscii c = true) : upper c = [c.toUpper] := by
  simp [upper, h]

theorem lower_of_isAscii (h : isAscii c = true) : lower c = [c.toLower] := by
  simp [lower, h]

theorem toLower_toUpper (h : isAscii c = true) : c.toUpper.toLower = c.toLower :=
  ascii_forall (P := fun c => c.toUpper.toLower = c.toLower) (by decide) h

theorem toUpper_toLower (h : isAscii c = true) : c.toLower.toUpper = c.toUpper :=
  ascii_forall (P := fun c => c.toLower.toUpper = c.toUpper) (by decide) h

theorem toLower_toLower (h : isAscii c = true) : c.toLower.toLower = c.toLower :=
  ascii_forall (P := fun c => c.toLower.toLower = c.toLower) (by decide) h

theorem toUpper_of_isUpper (h : c.isUpper = true) : c.toUpper = c :=
  ascii_forall (P := fun c => c.isUpper = true → c.toUpper = c) (by decide)
    (isAscii_of_isAlphanum (isAlphanum_of_isUpper h)) h

theorem toLower_of_isUpper_eq_false (h : c.isUpper = false) (hc : isAscii c = true) : c.toLower = c :=
  ascii_forall (P := fun c => c.isUpper = false → c.toLower = c) (by decide) hc h

theorem isAlphanum_toLower (h : c.isAlphanum = true) : c.toLower.isAlphanum = true :=
  ascii_forall (P := fun c => c.isAlphanum = true → c.toLower.isAlphanum = true) (by decide)
    (isAscii_of_isAlphanum h) h

theorem isAlphanum_toUpper (h : c.isAlphanum = true) : c.toUpper.isAlphanum = true :=
  ascii_forall (P := fun c => c.isAlphanum = true → c.toUpper.isAlphanum = true) (by decide)
    (isAscii_of_isAlphanum h) h

theorem isUpper_toLower (h : isAscii c = true) : c.toLower.isUpper = false :=
  ascii_forall (P := fun c => c.toLower.isUpper = false) (by decide) h

theorem isLower_toLower (h : c.isUpper = true) : c.toLower.isLower = true :=
  ascii_forall (P := fun c => c.isUpper = true → c.toLower.isLower = true) (by decide)
    (isAscii_of_isAlphanum (isAlphanum_of_isUpper h)) h

/-- A letter is what has an uppercase image. -/
theorem isUpper_toUpper (h : isAscii c = true) : c.toUpper.isUpper = c.isAlpha :=
  ascii_forall (P := fun c => c.toUpper.isUpper = c.isAlpha) (by decide) h

/-! ## Texts -/

theorem toUpper_of_isAscii_eq_false (h : isAscii c = false) : c.toUpper = c := by
  have hlt : ¬ c.toNat < 128 := of_decide_eq_false h
  have hlower : ¬ ('a'.val ≤ c.val ∧ c.val ≤ 'z'.val) := by
    rintro ⟨-, hz⟩
    have hle : c.toNat ≤ 122 := hz
    omega
  exact dif_neg hlower

theorem toLower_of_isAscii_eq_false (h : isAscii c = false) : c.toLower = c := by
  have hlt : ¬ c.toNat < 128 := of_decide_eq_false h
  have hupper : ¬ ('A'.val ≤ c.val ∧ c.val ≤ 'Z'.val) := by
    rintro ⟨-, hz⟩
    have hle : c.toNat ≤ 90 := hz
    omega
  exact dif_neg hupper

/-- Raising a text does not change what it is lowered to. -/
theorem asciiLower_asciiUpper (s : String) : asciiLower (asciiUpper s) = asciiLower s := by
  have hchar : ∀ c : Char, c.toUpper.toLower = c.toLower := by
    intro c
    by_cases h : isAscii c = true
    · exact toLower_toUpper h
    · rw [toUpper_of_isAscii_eq_false (by simpa using h)]
  simp [asciiLower, asciiUpper, Function.comp_def, hchar]

/-- Lowering a text does not change what it is raised to. -/
theorem asciiUpper_asciiLower (s : String) : asciiUpper (asciiLower s) = asciiUpper s := by
  have hchar : ∀ c : Char, c.toLower.toUpper = c.toUpper := by
    intro c
    by_cases h : isAscii c = true
    · exact toUpper_toLower h
    · rw [toLower_of_isAscii_eq_false (by simpa using h)]
  simp [asciiLower, asciiUpper, Function.comp_def, hchar]

end RouteWorks.Text
