import RouteWorks.Proofs.Field.Range

/-!
# The form of ranges

What is accepted as a range, as an inductive definition (`IsRange`): a number, or two ends with a
colon between them, one of which may be missing, and no lower end that is read as a greater number
than the upper one.  The digits are those of every script; the ends are compared when both are read
as numbers, which takes digits of ASCII.
-/

namespace RouteWorks

namespace Field

variable {cs low high : List Char} {rule : RangeRule}

/-- The texts of one end of a range under a rule. -/
def IsBound : RangeRule → List Char → Prop
  | .length, cs => isDigits cs = true
  | .number, cs => IsEnd cs

/-- The lower end is read as a number greater than the upper one. -/
def Reversed (low high : List Char) : Prop :=
  ∃ x y, Number.readBinary Number.double low = .ok x ∧
    Number.readBinary Number.double high = .ok y ∧ y.lt x = true

/-- The texts of a range: one number, or two ends with a colon between them, one of which may be
missing.  Two ends are not reversed. -/
inductive IsRange (rule : RangeRule) : List Char → Prop
  | exact {cs : List Char} (h : IsBound rule cs) : IsRange rule cs
  | atLeast {low : List Char} (hlow : IsBound rule low) : IsRange rule (low ++ [':'])
  | atMost {high : List Char} (hhigh : IsBound rule high) : IsRange rule (':' :: high)
  | between {low high : List Char} (hlow : IsBound rule low) (hhigh : IsBound rule high)
      (horder : ¬Reversed low high) : IsRange rule (low ++ ':' :: high)

theorem not_mem_of_isDigits {c : Char} (hc : Text.isDecimalDigit c = false)
    (h : isDigits cs = true) : c ∉ cs := by
  intro hmem
  rw [isDigits, Bool.and_eq_true] at h
  rw [List.all_eq_true.mp h.2 c hmem] at hc
  cases hc

theorem isDecimal_minus {negative : Bool} (hhead : ∀ rest, cs ≠ '-' :: rest) :
    isDecimal (Number.minus negative ++ cs) =
      match Text.cutAt? (· == '.') cs with
      | none => isDigits cs
      | some (whole, fraction) => isDigits whole && isDigits fraction := by
  cases negative with
  | true => rfl
  | false =>
      rw [Number.minus, if_neg Bool.false_ne_true, List.nil_append]
      cases hcut : Text.cutAt? (· == '.') cs with
      | none =>
          rw [isDecimal, hcut]
          exact hhead
      | some parts =>
          rw [isDecimal, hcut]
          exact hhead

theorem isDecimal_of_isEnd (h : IsEnd cs) : isDecimal cs = true := by
  cases h with
  | whole negative hds =>
      have hdot := not_mem_of_isDigits (c := '.') (by decide) hds
      rw [isDecimal_minus, Text.cutAt?_mark_eq_none_iff.mpr hdot]
      · exact hds
      · rintro rest rfl
        exact not_mem_of_isDigits (by decide) hds List.mem_cons_self
  | point negative hds hes =>
      have hdot := Text.beq_eq_false_of_not_mem (not_mem_of_isDigits (c := '.') (by decide) hds)
      rw [isDecimal_minus, Text.cutAt?_append hdot BEq.rfl]
      · exact Bool.and_eq_true_iff.mpr ⟨hds, hes⟩
      · rename_i ds es
        intro rest heq
        cases ds with
        | nil => cases hds
        | cons c ds =>
            obtain ⟨rfl, -⟩ := List.cons.inj heq
            exact not_mem_of_isDigits (by decide) hds List.mem_cons_self

theorem isBound_iff : isBound rule cs = true ↔ IsBound rule cs := by
  cases rule with
  | length => exact Iff.rfl
  | number => exact ⟨isEnd_of_isDecimal, isDecimal_of_isEnd⟩

theorem IsBound.isEnd (h : IsBound rule cs) : IsEnd cs :=
  isEnd_of_isBound (isBound_iff.mpr h)

/-- There is no colon in an end. -/
theorem IsEnd.not_mem_colon (h : IsEnd cs) : ':' ∉ cs := by
  have hminus : ∀ negative, ':' ∉ Number.minus negative := by
    intro negative
    cases negative <;> decide
  cases h with
  | whole negative hds =>
      rw [List.mem_append]
      rintro (hmem | hmem)
      · exact hminus negative hmem
      · exact not_mem_of_isDigits (by decide) hds hmem
  | point negative hds hes =>
      rw [List.mem_append, List.mem_append, List.mem_cons]
      rintro (hmem | hmem | hmem | hmem)
      · exact hminus negative hmem
      · exact not_mem_of_isDigits (by decide) hds hmem
      · exact absurd hmem (by decide)
      · exact not_mem_of_isDigits (by decide) hes hmem

theorem isReversed_append (h : ':' ∉ low) :
    isReversed (low ++ ':' :: high) = true ↔ Reversed low high := by
  rw [isReversed, Text.cutAt?_append (Text.beq_eq_false_of_not_mem h) BEq.rfl, Reversed]
  cases hlow : Number.readBinary Number.double low with
  | error e => simp [hlow]
  | ok x =>
      cases hhigh : Number.readBinary Number.double high with
      | error e => simp [hlow, hhigh]
      | ok y => simp [hlow, hhigh]

/-- Without one of the ends nothing is reversed. -/
theorem not_reversed_of_nil (h : low = [] ∨ high = []) : ¬Reversed low high := by
  have hnil : ∀ x, Number.readBinary Number.double [] ≠ .ok x := by
    intro x hx
    have herror : ∃ e, Number.readBinary Number.double [] = .error e := ⟨_, rfl⟩
    obtain ⟨e, he⟩ := herror
    rw [he] at hx
    cases hx
  rintro ⟨x, y, hx, hy, -⟩
  rcases h with rfl | rfl
  · exact hnil x hx
  · exact hnil y hy

theorem isRangeForm_append (h : ':' ∉ low) :
    isRangeForm rule (low ++ ':' :: high) = true ↔
      ¬(low = [] ∧ high = []) ∧ (low = [] ∨ IsBound rule low) ∧ (high = [] ∨ IsBound rule high) := by
  rw [isRangeForm, Text.cutAt?_append (Text.beq_eq_false_of_not_mem h) BEq.rfl, ← isBound_iff,
    ← isBound_iff]
  simp only [Bool.and_eq_true, Bool.or_eq_true, Bool.not_eq_true', Bool.and_eq_false_iff,
    List.isEmpty_iff, List.isEmpty_eq_false_iff]
  tauto

theorem isRange_of_form (hform : isRangeForm rule cs = true) (horder : isReversed cs = false) :
    IsRange rule cs := by
  cases hcut : Text.cutAt? (· == ':') cs with
  | none =>
      rw [isRangeForm, hcut] at hform
      exact .exact (isBound_iff.mp hform)
  | some ends =>
      obtain ⟨low, high⟩ := ends
      obtain ⟨rfl, hfree⟩ := Text.cutAt?_mark_eq_some_iff.mp hcut
      -- an end that is missing is not read, so the order says something about two ends only
      obtain ⟨hne, hlow, hhigh⟩ := (isRangeForm_append hfree).mp hform
      rw [Bool.eq_false_iff, ne_eq, isReversed_append hfree] at horder
      rcases hlow with rfl | hlow
      · exact .atMost (hhigh.resolve_left fun hnil => hne ⟨rfl, hnil⟩)
      · rcases hhigh with rfl | hhigh
        · exact .atLeast hlow
        · exact .between hlow hhigh horder

theorem IsRange.form (h : IsRange rule cs) :
    isRangeForm rule cs = true ∧ isReversed cs = false := by
  cases h with
  | exact h =>
      have hcut := Text.cutAt?_mark_eq_none_iff.mpr h.isEnd.not_mem_colon
      rw [isRangeForm, isReversed, hcut]
      exact ⟨isBound_iff.mpr h, rfl⟩
  | atLeast hlow =>
      have hfree := hlow.isEnd.not_mem_colon
      rw [isRangeForm_append hfree, Bool.eq_false_iff, ne_eq, isReversed_append hfree]
      exact ⟨⟨fun hnil => hlow.isEnd.ne_nil hnil.1, Or.inr hlow, Or.inl rfl⟩,
        not_reversed_of_nil (Or.inr rfl)⟩
  | atMost hhigh =>
      have hfree : ':' ∉ ([] : List Char) := List.not_mem_nil
      rw [← List.nil_append (':' :: _), isRangeForm_append hfree, Bool.eq_false_iff, ne_eq,
        isReversed_append hfree]
      exact ⟨⟨fun hnil => hhigh.isEnd.ne_nil hnil.2, Or.inl rfl, Or.inr hhigh⟩,
        not_reversed_of_nil (Or.inl rfl)⟩
  | between hlow hhigh horder =>
      have hfree := hlow.isEnd.not_mem_colon
      rw [isRangeForm_append hfree, Bool.eq_false_iff, ne_eq, isReversed_append hfree]
      exact ⟨⟨fun hnil => hlow.isEnd.ne_nil hnil.1, Or.inr hlow, Or.inr hhigh⟩, horder⟩

/-- The ends of a range in ASCII are compared. -/
theorem isRange_between_iff (hlow : IsBound rule low) (hhigh : IsBound rule high)
    (hascii : ∀ c ∈ low ++ high, Text.isAscii c = true) :
    IsRange rule (low ++ ':' :: high) ↔
      ∃ x y, Number.readBinary Number.double low = .ok x ∧
        Number.readBinary Number.double high = .ok y ∧ y.lt x = false := by
  obtain ⟨x, hx, -⟩ := hlow.isEnd.exists_readBinary fun c hc => hascii c (List.mem_append_left _ hc)
  obtain ⟨y, hy, -⟩ := hhigh.isEnd.exists_readBinary fun c hc => hascii c (List.mem_append_right _ hc)
  constructor
  · intro h
    have horder := h.form.2
    rw [Bool.eq_false_iff, ne_eq, isReversed_append hlow.isEnd.not_mem_colon] at horder
    refine ⟨x, y, hx, hy, ?_⟩
    by_contra hlt
    exact horder ⟨x, y, hx, hy, by simpa using hlt⟩
  · rintro ⟨x', y', hx', hy', horder⟩
    refine .between hlow hhigh ?_
    rintro ⟨x'', y'', hx'', hy'', hlt⟩
    rw [hx'] at hx''
    rw [hy'] at hy''
    cases hx''
    cases hy''
    rw [horder] at hlt
    cases hlt

theorem checkRange_eq_ok_iff_isRange {name text : String} :
    checkRange rule name text = .ok () ↔ IsRange rule (Text.trimChars text.toList) := by
  rw [checkRange_eq_ok_iff]
  exact ⟨fun h => isRange_of_form h.1 h.2, IsRange.form⟩

/-- What is no range is reported with its text, blanks around it aside. -/
theorem checkRange_eq_error {name text : String}
    (h : ¬IsRange rule (Text.trimChars text.toList)) :
    checkRange rule name text = .error (.malformed rule name (Text.trim text)) := by
  have h : ¬checkRange rule name text = .ok () := mt checkRange_eq_ok_iff_isRange.mp h
  rw [checkRange] at h ⊢
  split
  · rename_i hform
    rw [if_pos hform] at h
    exact absurd rfl h
  · rfl

end Field

end RouteWorks
