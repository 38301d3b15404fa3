import RouteWorks.Proofs.Field.RangeForm
import RouteWorks.Proofs.Name.Camel

/-!
# What the check of fields accepts and reports

Each field is checked against five rules in a fixed order (`FieldRule.all`), and the fields are
checked in the order they are declared.  The check stops at the first rule that the first bad field
breaks.  What the fields take of the body and the form is counted over all of them and judged when
every field has passed, so the order of the fields decides which fault is reported and never whether
there is one.
-/

namespace RouteWorks

/-! ## The rules for one field -/

/-- The rules for one field. -/
inductive FieldRule where
  | name
  | upload
  | span (rule : RangeRule)
  | pattern
  deriving DecidableEq, Repr

namespace FieldRule

variable {handler : String} {f : Field} {rule : FieldRule}

/-- The rules in the order they are checked. -/
def all : List FieldRule := [.name, .upload, .span .length, .span .number, .pattern]

theorem mem_all (rule : FieldRule) : rule ∈ all := by
  cases rule with
  | name => decide
  | upload => decide
  | span rule => cases rule <;> decide
  | pattern => decide

/-- What a rule asks of a field.  Only the first rule concerns fields without a position. -/
def Holds (f : Field) : FieldRule → Prop
  | name => ∃ i, Identifier.ofName f.name = .ok i
  | upload => f.upload? ≠ none → f.position = some .form
  | span rule =>
    f.position ≠ none → ∀ text, rule.written f = some text →
      Field.IsRange rule (Text.trimChars text.toList)
  | pattern => f.position ≠ none → ∀ p, f.pattern = some p → Pattern.isValid p = true

/-- How a broken rule is reported. -/
def fault (handler : String) (f : Field) : FieldRule → Fault
  | name => .invalidName f.name
  | upload => .invalidFields handler (.uploadOutsideForm f.name)
  | span rule =>
    .invalidFields handler
      (.malformed rule f.name (((rule.written f).map Text.trim).getD ""))
  | pattern => .invalidFields handler (.badPattern f.name)

/-- The part of the check that a rule is checked in. -/
def check (handler : String) (f : Field) : FieldRule → Except Fault Unit
  | name => (Identifier.ofName f.name).map fun _ => ()
  | upload =>
    if f.upload?.isSome && f.position ≠ some .form then
      .error (.invalidFields handler (.uploadOutsideForm f.name))
    else .ok ()
  | span rule =>
    if f.position.isSome then
      (Field.checkOptional (Field.checkRange rule f.name) (rule.written f)).mapError
        (.invalidFields handler)
    else .ok ()
  | pattern =>
    if f.position.isSome && !(f.pattern.map Pattern.isValid).getD true then
      .error (.invalidFields handler (.badPattern f.name))
    else .ok ()

theorem check_of_holds (h : rule.Holds f) : rule.check handler f = .ok () := by
  cases rule with
  | name =>
      obtain ⟨i, hi⟩ := h
      rw [check, hi]
      rfl
  | upload =>
      rw [check, if_neg]
      intro hcond
      rw [Bool.and_eq_true, Option.isSome_iff_ne_none, decide_eq_true_iff] at hcond
      exact hcond.2 (h hcond.1)
  | span rule =>
      rw [check]
      split
      · rename_i hbound
        cases hwritten : rule.written f with
        | none => rfl
        | some text =>
            have hrange := h (Option.isSome_iff_ne_none.mp hbound) text hwritten
            rw [Field.checkOptional, Field.checkRange_eq_ok_iff_isRange.mpr hrange]
            rfl
      · rfl
  | pattern =>
      rw [check, if_neg]
      intro hcond
      rw [Bool.and_eq_true, Option.isSome_iff_ne_none] at hcond
      cases hpattern : f.pattern with
      | none => simp [hpattern] at hcond
      | some p => simp [hpattern, h hcond.1 p hpattern] at hcond

theorem check_of_not_holds (h : ¬rule.Holds f) :
    rule.check handler f = .error (rule.fault handler f) := by
  cases rule with
  | name => rw [check, Identifier.ofName_eq_error h]; rfl
  | upload =>
      rw [Holds, Classical.not_imp] at h
      rw [check, if_pos]
      · rfl
      · rw [Bool.and_eq_true, Option.isSome_iff_ne_none, decide_eq_true_iff]
        exact h
  | span rule =>
      rw [Holds, Classical.not_imp] at h
      obtain ⟨hbound, h⟩ := h
      simp only [not_forall] at h
      obtain ⟨text, hwritten, hrange⟩ := h
      rw [check, if_pos (Option.isSome_iff_ne_none.mpr hbound), fault, hwritten,
        Field.checkOptional, Field.checkRange_eq_error hrange]
      rfl
  | pattern =>
      rw [Holds, Classical.not_imp] at h
      obtain ⟨hbound, h⟩ := h
      simp only [not_forall] at h
      obtain ⟨p, hpattern, hvalid⟩ := h
      rw [check, if_pos]
      · rfl
      · rw [hpattern, Bool.and_eq_true, Option.isSome_iff_ne_none]
        exact ⟨hbound, by simpa using hvalid⟩

theorem check_eq_ok_iff : rule.check handler f = .ok () ↔ rule.Holds f := by
  constructor
  · intro hcheck
    by_contra h
    rw [check_of_not_holds h] at hcheck
    cases hcheck
  · exact check_of_holds

end FieldRule

namespace Field

variable {handler : String} {f : Field} {fields : List Field}

/-- A field that obeys its rules. -/
def Sound (f : Field) : Prop := ∀ rule, FieldRule.Holds f rule

/-- With a position, all rules but the first are about the value. -/
theorem mapError_checkValue {position : Position} (h : f.position = some position) :
    (checkValue f position).mapError (.invalidFields handler) =
      FieldRule.all.tail.forM (FieldRule.check handler f) := by
  have hbound : f.position.isSome = true := Option.isSome_iff_exists.mpr ⟨position, h⟩
  have hupload : f.upload? = UploadKind.ofType? f.type := if_pos hbound
  have hvalue : checkValue f position =
      (if (UploadKind.ofType? f.type).isSome && position ≠ .form then
        .error (.uploadOutsideForm f.name) else .ok ()) >>= fun _ =>
      checkOptional (checkRange .length f.name) (RangeRule.length.written f) >>= fun _ =>
      checkOptional (checkRange .number f.name) (RangeRule.number.written f) >>= fun _ =>
      checkOptional (fun p => if Pattern.isValid p then .ok () else .error (.badPattern f.name))
        f.pattern := by
    unfold checkValue
    split <;> rfl
  -- each part, with its faults wrapped, is the check of one rule
  have hfirst : ((if (UploadKind.ofType? f.type).isSome && position ≠ .form then
      .error (.uploadOutsideForm f.name) else .ok ()) : Except FieldFault Unit).mapError
        (.invalidFields handler) = FieldRule.check handler f .upload := by
    simp only [FieldRule.check, hupload, h, ne_eq, Option.some.injEq]
    split <;> rfl
  have hrange : ∀ rule, (checkOptional (checkRange rule f.name) (rule.written f)).mapError
      (.invalidFields handler) = FieldRule.check handler f (.span rule) :=
    fun rule => (if_pos hbound).symm
  have hlast : (checkOptional (fun p => if Pattern.isValid p then .ok ()
      else .error (.badPattern f.name)) f.pattern).mapError (.invalidFields handler) =
        FieldRule.check handler f .pattern >>= fun _ => .ok () := by
    cases hpattern : f.pattern with
    | none => simp [FieldRule.check, checkOptional, hpattern]; rfl
    | some p =>
        by_cases hvalid : Pattern.isValid p = true
        · simp [FieldRule.check, checkOptional, hpattern, hvalid]; rfl
        · simp [FieldRule.check, checkOptional, hpattern, hvalid, hbound]; rfl
  rw [hvalue, mapError_bind, mapError_bind, mapError_bind, hfirst, hrange .length, hrange .number,
    hlast]
  rfl

/-- The check of a field goes through the rules. -/
theorem check_eq_forM (handler : String) (f : Field) :
    f.check handler = FieldRule.all.forM (FieldRule.check handler f) := by
  change (Identifier.ofName f.name >>= fun _ => _) =
    ((Identifier.ofName f.name).map fun _ => ()) >>= fun _ =>
      FieldRule.all.tail.forM (FieldRule.check handler f)
  cases Identifier.ofName f.name with
  | error e => rfl
  | ok i =>
      cases hposition : f.position with
      | none =>
          -- only the name is checked, and the other rules ask nothing of the field
          have hrest : FieldRule.all.tail.forM (FieldRule.check handler f) = .ok () := by
            rw [forM_eq_ok_iff]
            intro rule hrule
            apply FieldRule.check_of_holds
            cases rule with
            | name => exact absurd hrule (by decide)
            | upload => exact fun h => absurd (by simp [upload?, hposition]) h
            | span rule => exact fun h => absurd hposition h
            | pattern => exact fun h => absurd hposition h
          exact hrest.symm
      | some position => exact mapError_checkValue hposition

/-- The check of a field stops at the first rule that the field breaks. -/
theorem check_cases (handler : String) (f : Field) :
    (f.Sound ∧ f.check handler = .ok ()) ∨
      ∃ earlier rule later, FieldRule.all = earlier ++ rule :: later ∧
        (∀ r ∈ earlier, FieldRule.Holds f r) ∧ ¬FieldRule.Holds f rule ∧
        f.check handler = .error (rule.fault handler f) := by
  rw [check_eq_forM]
  rcases forM_cases (FieldRule.check handler f) FieldRule.all with
    ⟨hall, hrun⟩ | ⟨earlier, rule, later, e, hsplit, hbefore, hrule, hrun⟩
  · exact Or.inl ⟨fun rule => FieldRule.check_eq_ok_iff.mp (hall rule rule.mem_all), hrun⟩
  · have hbroken : ¬FieldRule.Holds f rule := by
      intro h
      rw [FieldRule.check_of_holds h] at hrule
      cases hrule
    rw [FieldRule.check_of_not_holds hbroken] at hrule
    rw [← hrule] at hrun
    exact Or.inr ⟨earlier, rule, later, hsplit, fun r hr => FieldRule.check_eq_ok_iff.mp (hbefore r hr),
      hbroken, hrun⟩

theorem check_eq_ok_iff : f.check handler = .ok () ↔ f.Sound := by
  rcases check_cases handler f with ⟨hall, hrun⟩ | ⟨earlier, rule, later, -, -, hbroken, hrun⟩
  · exact ⟨fun _ => hall, fun _ => hrun⟩
  · constructor
    · intro h
      rw [hrun] at h
      cases h
    · intro h
      exact absurd (h rule) hbroken

/-! ## The rules for all fields together -/

/-- How many fields take the whole body. -/
def bodies (fields : List Field) : Nat := fields.countP fun f => f.position = some .body

/-- The rules for all fields together. -/
def Compatible (fields : List Field) : Prop :=
  bodies fields ≤ 1 ∧ (bodies fields = 1 → ∀ f ∈ fields, f.position ≠ some .form)

/-- The body is judged before the form. -/
theorem checkTogether_cases (fields : List Field) :
    (1 < bodies fields ∧ checkTogether fields = .error .manyBodies) ∨
    ((bodies fields = 1 ∧ ∃ f ∈ fields, f.position = some .form) ∧
      checkTogether fields = .error .formWithBody) ∨
    (Compatible fields ∧ checkTogether fields = .ok ()) := by
  have hform : (fields.any fun f => f.position = some .form) = true ↔
      ∃ f ∈ fields, f.position = some .form := by
    simp only [List.any_eq_true, decide_eq_true_iff]
  have hdef : checkTogether fields =
      if 1 < bodies fields then .error .manyBodies
      else if bodies fields = 1 ∧ (fields.any fun f => f.position = some .form) = true then
        .error .formWithBody
      else .ok () := rfl
  rw [hdef]
  by_cases hmany : 1 < bodies fields
  · rw [if_pos hmany]
    exact Or.inl ⟨hmany, rfl⟩
  · rw [if_neg hmany]
    by_cases hbody : bodies fields = 1 ∧ ∃ f ∈ fields, f.position = some .form
    · rw [if_pos ⟨hbody.1, hform.mpr hbody.2⟩]
      exact Or.inr (Or.inl ⟨hbody, rfl⟩)
    · rw [if_neg fun h => hbody ⟨h.1, hform.mp h.2⟩]
      refine Or.inr (Or.inr ⟨⟨not_lt.mp hmany, ?_⟩, rfl⟩)
      intro hone f hf hposition
      exact hbody ⟨hone, f, hf, hposition⟩

theorem checkTogether_eq_ok_iff : checkTogether fields = .ok () ↔ Compatible fields := by
  rcases checkTogether_cases fields with ⟨hmany, h⟩ | ⟨⟨hone, f, hf, hform⟩, h⟩ | ⟨hcompatible, h⟩
  · rw [h]
    exact ⟨fun h => (nomatch h), fun hcompatible => absurd hmany (not_lt.mpr hcompatible.1)⟩
  · rw [h]
    exact ⟨fun h => (nomatch h), fun hcompatible => absurd hform (hcompatible.2 hone f hf)⟩
  · exact ⟨fun _ => hcompatible, fun _ => h⟩

theorem checkTogether_eq_manyBodies_iff :
    checkTogether fields = .error .manyBodies ↔ 1 < bodies fields := by
  rcases checkTogether_cases fields with ⟨hmany, h⟩ | ⟨hboth, h⟩ | ⟨hcompatible, h⟩
  · exact ⟨fun _ => hmany, fun _ => h⟩
  · rw [h]
    exact ⟨fun h => (nomatch h), fun hmany => absurd hboth.1 (ne_of_gt hmany)⟩
  · rw [h]
    exact ⟨fun h => (nomatch h), fun hmany => absurd hmany (not_lt.mpr hcompatible.1)⟩

theorem checkTogether_eq_formWithBody_iff :
    checkTogether fields = .error .formWithBody ↔
      bodies fields = 1 ∧ ∃ f ∈ fields, f.position = some .form := by
  rcases checkTogether_cases fields with ⟨hmany, h⟩ | ⟨hboth, h⟩ | ⟨hcompatible, h⟩
  · rw [h]
    exact ⟨fun h => (nomatch h), fun hboth => absurd hboth.1 (ne_of_gt hmany)⟩
  · exact ⟨fun _ => hboth, fun _ => h⟩
  · rw [h]
    refine ⟨fun h => (nomatch h), ?_⟩
    rintro ⟨hone, f, hf, hform⟩
    exact absurd hform (hcompatible.2 hone f hf)

theorem Compatible.of_perm {others : List Field} (hperm : fields.Perm others)
    (h : Compatible fields) : Compatible others := by
  have hbodies : bodies others = bodies fields := (hperm.countP_eq _).symm
  refine ⟨hbodies ▸ h.1, ?_⟩
  intro hone f hf
  exact h.2 (hbodies ▸ hone) f (hperm.mem_iff.mpr hf)

/-- Checking all fields stops at the first field that breaks a rule. -/
theorem checkAll_cases (handler : String) (fields : List Field) :
    ((∀ f ∈ fields, f.Sound) ∧
      checkAll handler fields = (checkTogether fields).mapError (.invalidFields handler)) ∨
    ∃ before f after earlier rule later,
      fields = before ++ f :: after ∧ (∀ g ∈ before, g.Sound) ∧
      FieldRule.all = earlier ++ rule :: later ∧ (∀ r ∈ earlier, FieldRule.Holds f r) ∧
      ¬FieldRule.Holds f rule ∧ checkAll handler fields = .error (rule.fault handler f) := by
  rw [checkAll]
  rcases forM_cases (check handler) fields with
    ⟨hall, hrun⟩ | ⟨before, f, after, e, rfl, hbefore, hf, hrun⟩
  · rw [hrun]
    exact Or.inl ⟨fun f hf => check_eq_ok_iff.mp (hall f hf), rfl⟩
  · rcases check_cases handler f with ⟨-, hok⟩ | ⟨earlier, rule, later, hsplit, hearlier, hrule, herror⟩
    · rw [hok] at hf
      cases hf
    · rw [herror] at hf
      rw [hrun, ← hf]
      exact Or.inr ⟨before, f, after, earlier, rule, later, rfl,
        fun g hg => check_eq_ok_iff.mp (hbefore g hg), hsplit, hearlier, hrule, rfl⟩

theorem checkAll_eq_ok_iff :
    checkAll handler fields = .ok () ↔
      (∀ f ∈ fields, f.Sound) ∧ Compatible fields := by
  rcases checkAll_cases handler fields with
    ⟨hall, hrun⟩ | ⟨before, f, after, earlier, rule, later, rfl, -, -, -, hrule, hrun⟩
  · rw [hrun, mapError_eq_ok_iff, checkTogether_eq_ok_iff, and_iff_right hall]
  · constructor
    · intro h
      rw [hrun] at h
      cases h
    · intro h
      exact absurd (h.1 f (List.mem_append_right _ List.mem_cons_self) rule) hrule

/-- The body and the form are reported only when every field obeys its rules. -/
theorem checkAll_eq_error_iff {fault : FieldFault} (h : fault = .manyBodies ∨ fault = .formWithBody) :
    checkAll handler fields = .error (.invalidFields handler fault) ↔
      (∀ f ∈ fields, f.Sound) ∧ checkTogether fields = .error fault := by
  rcases checkAll_cases handler fields with
    ⟨hall, hrun⟩ | ⟨before, f, after, earlier, rule, later, rfl, -, -, -, hrule, hrun⟩
  · rw [hrun, and_iff_right hall]
    cases checkTogether fields with
    | error e => simp [Except.mapError]
    | ok u => simp [Except.mapError]
  · have hne : rule.fault handler f ≠ .invalidFields handler fault := by
      rcases h with rfl | rfl <;> cases rule <;> simp [FieldRule.fault]
    rw [hrun]
    constructor
    · intro heq
      exact absurd (Except.error.inj heq) hne
    · intro hboth
      exact absurd (hboth.1 f (List.mem_append_right _ List.mem_cons_self) rule) hrule

/-- Checking the fields of a record handler.  They are accepted exactly when every field obeys its
rules, at most one takes the body, and none is of the form beside one that does; the order does not
matter.  Otherwise the fault is that of the first rule that the first bad field breaks, and only when
no field is bad that of the body or the form.  The ends of a range in ASCII are in order. -/
theorem checkAll_outcome (handler : String) (fields : List Field) :
    (checkAll handler fields = .ok () ↔
      (∀ f ∈ fields, f.Sound) ∧ Compatible fields) ∧
    (∀ others, fields.Perm others →
      (checkAll handler others = .ok () ↔ checkAll handler fields = .ok ())) ∧
    (¬(∀ f ∈ fields, f.Sound) →
      ∃ before f after earlier rule later,
        fields = before ++ f :: after ∧ (∀ g ∈ before, g.Sound) ∧
        FieldRule.all = earlier ++ rule :: later ∧ (∀ r ∈ earlier, FieldRule.Holds f r) ∧
        ¬FieldRule.Holds f rule ∧ checkAll handler fields = .error (rule.fault handler f)) ∧
    (checkAll handler fields = .error (.invalidFields handler .manyBodies) ↔
      (∀ f ∈ fields, f.Sound) ∧ 1 < bodies fields) ∧
    (checkAll handler fields = .error (.invalidFields handler .formWithBody) ↔
      (∀ f ∈ fields, f.Sound) ∧ bodies fields = 1 ∧ ∃ f ∈ fields, f.position = some .form) ∧
    ∀ (rule : RangeRule) (low high : List Char), IsBound rule low → IsBound rule high →
      (∀ c ∈ low ++ high, Text.isAscii c = true) →
      (IsRange rule (low ++ ':' :: high) ↔
        ∃ x y, Number.readBinary Number.double low = .ok x ∧
          Number.readBinary Number.double high = .ok y ∧ y.lt x = false) := by
  refine ⟨checkAll_eq_ok_iff, ?_, ?_, ?_, ?_, fun rule low high => isRange_between_iff⟩
  · intro others hperm
    rw [checkAll_eq_ok_iff, checkAll_eq_ok_iff]
    constructor
    · rintro ⟨hall, hcompatible⟩
      exact ⟨fun f hf => hall f (hperm.mem_iff.mp hf), hcompatible.of_perm hperm.symm⟩
    · rintro ⟨hall, hcompatible⟩
      exact ⟨fun f hf => hall f (hperm.mem_iff.mpr hf), hcompatible.of_perm hperm⟩
  · intro hbroken
    rcases checkAll_cases handler fields with ⟨hall, -⟩ | hfirst
    · exact absurd hall hbroken
    · exact hfirst
  · rw [checkAll_eq_error_iff (Or.inl rfl), checkTogether_eq_manyBodies_iff]
  · rw [checkAll_eq_error_iff (Or.inr rfl), checkTogether_eq_formWithBody_iff]

/-- In the digits of another script the ends are not compared: from five to three is accepted. -/
theorem checkAll_reversed_arabicIndic :
    checkAll "Login" [sized "٥:٣"] = .ok () ∧
      (∀ c ∈ ['٥', '٣'], Text.isDecimalDigit c = true ∧ c.isDigit = false) ∧
      '٥'.toNat = '٠'.toNat + 5 ∧ '٣'.toNat = '٠'.toNat + 3 := by
  have hdigit : ∀ c ∈ ['٥', '٣'], Text.isDecimalDigit c = true ∧ c.isDigit = false := by
    intro c hc
    simp only [List.mem_cons, List.not_mem_nil, or_false] at hc
    rcases hc with rfl | rfl
    · exact ⟨Text.isDecimalDigit_arabicIndic (by decide) (by decide), by decide⟩
    · exact ⟨Text.isDecimalDigit_arabicIndic (by decide) (by decide), by decide⟩
  have hrange : IsRange .length (['٥'] ++ ':' :: ['٣']) := by
    refine .between ?_ ?_ ?_
    · simp [IsBound, isDigits, (hdigit '٥' (by decide)).1]
    · simp [IsBound, isDigits, (hdigit '٣' (by decide)).1]
    · rintro ⟨x, y, hx, -, -⟩
      exact absurd (Number.isAscii_of_readBinary hx '٥' (by decide)) (by decide)
  have htrim : Text.trimChars "٥:٣".toList = ['٥'] ++ ':' :: ['٣'] := by decide
  refine ⟨checkAll_sized ?_, hdigit, by decide, by decide⟩
  rw [checkRange_eq_ok_iff_isRange, htrim]
  exact hrange

end Field

end RouteWorks
