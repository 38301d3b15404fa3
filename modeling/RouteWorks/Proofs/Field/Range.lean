import RouteWorks.Field.Declaration
import RouteWorks.Field.Rules
import RouteWorks.Parameter.Span
import RouteWorks.Proofs.Number.Reading
import RouteWorks.Proofs.Parameter.Measure
import RouteWorks.Proofs.Project.Registration
import RouteWorks.Proofs.Text.Blank
import RouteWorks.Proofs.Text.Category
import RouteWorks.Proofs.Text.Joined

/-!
# Ranges of fields are understood

A range is read twice, by two grammars: when the field is checked, and as a span when a value is bound.  The
first takes the digits of every script and the second those of ASCII.  A range that is accepted is understood
as a span with something in it if all its characters are ASCII, and not understood otherwise.
-/

namespace RouteWorks

open Text (isAscii isBlank isDecimalDigit trimChars)

/-! ## Ends -/

namespace Field

variable {cs : List Char}

/-- The texts of one end of a range. -/
inductive IsEnd : List Char → Prop
  | whole (negative : Bool) {ds : List Char} (hds : isDigits ds = true) :
      IsEnd (Number.minus negative ++ ds)
  | point (negative : Bool) {ds es : List Char} (hds : isDigits ds = true)
      (hes : isDigits es = true) : IsEnd (Number.minus negative ++ (ds ++ '.' :: es))

theorem isEnd_of_cutAt? (negative : Bool) {ds : List Char}
    (hwhole : Text.cutAt? (· == '.') ds = none → isDigits ds = true)
    (hpoint : ∀ whole fraction, Text.cutAt? (· == '.') ds = some (whole, fraction) →
      isDigits whole = true ∧ isDigits fraction = true) : IsEnd (Number.minus negative ++ ds) := by
  cases hcut : Text.cutAt? (· == '.') ds with
  | none => exact .whole negative (hwhole hcut)
  | some parts =>
      obtain ⟨whole, fraction⟩ := parts
      obtain ⟨hds, hes⟩ := hpoint whole fraction hcut
      obtain ⟨rfl, -⟩ := Text.cutAt?_mark_eq_some_iff.mp hcut
      exact .point negative hds hes

theorem isEnd_of_isDecimal (h : isDecimal cs = true) : IsEnd cs := by
  cases cs with
  | nil => exact absurd h (by decide)
  | cons c ds =>
      by_cases hc : c = '-'
      · subst hc
        refine isEnd_of_cutAt? true (fun hcut => ?_) (fun whole fraction hcut => ?_)
        · simpa [isDecimal, hcut] using h
        · simpa [isDecimal, hcut] using h
      · refine isEnd_of_cutAt? false (fun hcut => ?_) (fun whole fraction hcut => ?_)
        · simpa [isDecimal, hc, hcut] using h
        · simpa [isDecimal, hc, hcut] using h

theorem isEnd_of_isBound {rule : RangeRule} (h : isBound rule cs = true) : IsEnd cs := by
  cases rule with
  | length => exact .whole false h
  | number => exact isEnd_of_isDecimal h

/-- Digits that are ASCII are digits of ASCII. -/
theorem isDigit_of_isDigits {ds : List Char} (h : isDigits ds = true)
    (hascii : ∀ c ∈ ds, isAscii c = true) : ds ≠ [] ∧ ∀ c ∈ ds, c.isDigit = true := by
  rw [isDigits, Bool.and_eq_true] at h
  obtain ⟨hne, hall⟩ := h
  refine ⟨by simpa using hne, ?_⟩
  intro c hc
  have hdigit := List.all_eq_true.mp hall c hc
  rwa [isDecimalDigit, if_pos (hascii c hc)] at hdigit

namespace IsEnd

theorem ne_nil (h : IsEnd cs) : cs ≠ [] := by
  cases h with
  | whole negative hds =>
      rw [isDigits, Bool.and_eq_true] at hds
      simp_all
  | point negative hds hes => simp

theorem not_isBlank (h : IsEnd cs) : ∀ c ∈ cs, isBlank c = false := by
  have hminus : ∀ negative, ∀ c ∈ Number.minus negative, isBlank c = false := by
    intro negative
    cases negative with
    | false => exact fun c hc => absurd hc List.not_mem_nil
    | true => exact List.forall_mem_singleton.mpr (by decide)
  have hdigits : ∀ ds : List Char, isDigits ds = true → ∀ c ∈ ds, isBlank c = false := by
    intro ds hds c hc
    rw [isDigits, Bool.and_eq_true] at hds
    have hdigit : isDecimalDigit c = true := List.all_eq_true.mp hds.2 c hc
    rw [Bool.eq_false_iff]
    intro hblank
    rw [Text.isDecimalDigit_of_isBlank hblank] at hdigit
    cases hdigit
  cases h with
  | whole negative hds => exact List.forall_mem_append.mpr ⟨hminus negative, hdigits _ hds⟩
  | point negative hds hes =>
      simp only [List.forall_mem_append, List.forall_mem_cons]
      exact ⟨hminus negative, hdigits _ hds, by decide, hdigits _ hes⟩

/-- An end in ASCII is read as a number. -/
theorem exists_readBinary (h : IsEnd cs) (hascii : ∀ c ∈ cs, isAscii c = true) :
    ∃ x, Number.readBinary Number.double cs = .ok x ∧ x ≠ .nan := by
  cases h with
  | whole negative hds =>
      simp only [List.forall_mem_append] at hascii
      obtain ⟨hne, hdigits⟩ := isDigit_of_isDigits hds hascii.2
      exact Number.readBinary_digits hne hdigits
  | point negative hds hes =>
      simp only [List.forall_mem_append, List.forall_mem_cons] at hascii
      obtain ⟨hne, hwhole⟩ := isDigit_of_isDigits hds hascii.2.1
      obtain ⟨-, hfraction⟩ := isDigit_of_isDigits hes hascii.2.2.2
      exact Number.readBinary_point hne hwhole hfraction

end IsEnd

/-- There are no blanks in a range. -/
theorem not_isBlank_of_isRangeForm {rule : RangeRule} (h : isRangeForm rule cs = true) :
    ∀ c ∈ cs, isBlank c = false := by
  have hbound : ∀ ds, isBound rule ds = true → ∀ c ∈ ds, isBlank c = false :=
    fun ds hds => (isEnd_of_isBound hds).not_isBlank
  have hend : ∀ ds, (ds.isEmpty || isBound rule ds) = true → ∀ c ∈ ds, isBlank c = false := by
    intro ds hds
    rcases Bool.or_eq_true _ _ ▸ hds with hempty | hds
    · obtain rfl := List.isEmpty_iff.mp hempty
      exact fun c hc => absurd hc List.not_mem_nil
    · exact hbound ds hds
  cases hcut : Text.cutAt? (· == ':') cs with
  | none =>
      simp only [isRangeForm, hcut] at h
      exact hbound cs h
  | some ends =>
      obtain ⟨low, high⟩ := ends
      obtain ⟨rfl, -⟩ := Text.cutAt?_mark_eq_some_iff.mp hcut
      simp only [isRangeForm, hcut, Bool.and_eq_true] at h
      rw [List.forall_mem_append, List.forall_mem_cons]
      exact ⟨hend low h.1.2, by decide, hend high h.2⟩

end Field

/-! ## Spans -/

namespace Span

variable {cs : List Char} {spec : String} {rule : RangeRule}

/-- The ends of a span, as far as there are any, are numbers in ascending order. -/
structure IsProper (s : Span) : Prop where
  low_ne_nan : ∀ x, s.low = some x → x ≠ .nan
  high_ne_nan : ∀ y, s.high = some y → y ≠ .nan
  ordered : ∀ x y, s.low = some x → s.high = some y → x.le y = true

theorem IsProper.exists_holds {s : Span} (h : s.IsProper) : ∃ x, s.holds x = true := by
  obtain ⟨hlow, hhigh, hordered⟩ := h
  obtain ⟨low, high⟩ := s
  cases low with
  | some x =>
      -- the lower end is in the span
      have hx : x.le x = true := Number.Binary.le_refl (hlow x rfl)
      cases high with
      | none => exact ⟨x, by simp [holds, hx]⟩
      | some y => exact ⟨x, by simp [holds, hx, hordered x y rfl rfl]⟩
  | none =>
      cases high with
      | none => exact ⟨.nan, by simp [holds]⟩
      | some y => exact ⟨y, by simp [holds, Number.Binary.le_refl (hhigh y rfl)]⟩

/-- An end that may be missing denotes a number if it is there. -/
theorem exists_denotesEnd (h : (cs.isEmpty || Field.isBound rule cs) = true)
    (hascii : ∀ c ∈ cs, isAscii c = true) :
    ∃ e, DenotesEnd cs e ∧
      ∀ x, e = some x → Number.readBinary Number.double cs = .ok x ∧ x ≠ .nan := by
  rcases Bool.or_eq_true _ _ ▸ h with hempty | hbound
  · obtain rfl := List.isEmpty_iff.mp hempty
    exact ⟨none, .unbounded rfl, fun x hx => nomatch hx⟩
  · have hend := Field.isEnd_of_isBound hbound
    obtain ⟨x, hread, hnan⟩ := hend.exists_readBinary hascii
    refine ⟨some x, .bound ?_, by rintro _ ⟨⟩; exact ⟨hread, hnan⟩⟩
    rwa [Text.trimChars_of_forall_not hend.not_isBlank]

/-- A range of ASCII characters that has its form and its ends in order is a span. -/
theorem exists_ofText? (hspec : trimChars spec.toList = cs)
    (hform : Field.isRangeForm rule cs = true) (horder : Field.isReversed cs = false)
    (hascii : ∀ c ∈ cs, isAscii c = true) : ∃ s, ofText? spec = some s ∧ s.IsProper := by
  subst hspec
  simp only [ofText?_eq_some_iff]
  cases hcut : Text.cutAt? (· == ':') (trimChars spec.toList) with
  | none =>
      have hbound : Field.isBound rule (trimChars spec.toList) = true := by
        simpa [Field.isRangeForm, hcut] using hform
      obtain ⟨x, hread, hnan⟩ := (Field.isEnd_of_isBound hbound).exists_readBinary hascii
      refine ⟨_, .exact (Text.cutAt?_mark_eq_none_iff.mp hcut) hread, ?_⟩
      -- both ends are the one number that is read
      refine ⟨?_, ?_, ?_⟩
      · rintro _ ⟨⟩
        exact hnan
      · rintro _ ⟨⟩
        exact hnan
      · rintro _ _ ⟨⟩ ⟨⟩
        exact Number.Binary.le_refl hnan
  | some ends =>
      obtain ⟨low, high⟩ := ends
      obtain ⟨hspec, hcolon⟩ := Text.cutAt?_mark_eq_some_iff.mp hcut
      simp only [hspec, List.forall_mem_append, List.forall_mem_cons] at hascii
      simp only [Field.isRangeForm, hcut, Bool.and_eq_true] at hform
      obtain ⟨x?, hlow, hx⟩ := exists_denotesEnd hform.1.2 hascii.1
      obtain ⟨y?, hhigh, hy⟩ := exists_denotesEnd hform.2 hascii.2.2
      refine ⟨_, .between hspec hcolon hlow hhigh, ?_⟩
      refine ⟨fun x h => (hx x h).2, fun y h => (hy y h).2, ?_⟩
      intro x y hxlow hyhigh
      obtain ⟨hreadLow, hxnan⟩ := hx x hxlow
      obtain ⟨hreadHigh, hynan⟩ := hy y hyhigh
      simp only [Field.isReversed, hcut, hreadLow, hreadHigh] at horder
      exact Number.Binary.le_of_lt_eq_false hxnan hynan horder

theorem DenotesEnd.isAscii {e : Option Number.Binary} (h : DenotesEnd cs e) {c : Char}
    (hc : c ∈ cs) (hblank : isBlank c = false) : isAscii c = true := by
  have hmem : c ∈ trimChars cs := Text.mem_trimChars hc hblank
  cases h with
  | unbounded hnone =>
      rw [hnone] at hmem
      cases hmem
  | bound hread => exact Number.isAscii_of_readBinary hread c hmem

/-- A text that denotes a span is ASCII, blanks aside. -/
theorem Denotes.isAscii {s : Span} (h : Denotes spec s) {c : Char}
    (hc : c ∈ trimChars spec.toList) (hblank : isBlank c = false) : isAscii c = true := by
  cases h with
  | exact _ hread => exact Number.isAscii_of_readBinary hread c hc
  | between hspec _ hlow hhigh =>
      rw [hspec] at hc
      rcases List.mem_append.mp hc with hc | hc
      · exact hlow.isAscii hc hblank
      rcases List.mem_cons.mp hc with rfl | hc
      · decide
      · exact hhigh.isAscii hc hblank

end Span

/-! ## Accepted fields -/

namespace RangeRule

/-- The range that a field has under a rule. -/
def written (f : Field) : RangeRule → Option String
  | length => f.len
  | number => f.range

/-- The constraint that a range becomes. -/
def constraint (spec : String) : RangeRule → Constraint
  | length => .len spec
  | number => .range spec

end RangeRule

namespace Field

variable {f : Field} {rule : RangeRule} {text : String}

theorem mem_constraints_iff {spec : String} :
    rule.constraint spec ∈ f.constraints ↔ nonBlank? (rule.written f) = some spec := by
  cases rule with
  | length => simp [RangeRule.constraint, RangeRule.written, constraints]
  | number => simp [RangeRule.constraint, RangeRule.written, constraints]

theorem checkRange_eq_ok_iff {name : String} : checkRange rule name text = .ok () ↔
    isRangeForm rule (trimChars text.toList) = true ∧
      isReversed (trimChars text.toList) = false := by
  simp only [checkRange]
  split
  · rename_i hrange
    simpa using hrange
  · rename_i hrange
    simpa using hrange

theorem checkRange_of_check {handler : String} {position : Position}
    (h : f.check handler = .ok ()) (hposition : f.position = some position)
    (hwritten : rule.written f = some text) : checkRange rule f.name text = .ok () := by
  obtain ⟨name, -, h⟩ := bind_eq_ok h
  rw [hposition] at h
  have hvalue : checkValue f position = .ok () := mapError_eq_ok_iff.mp h
  unfold checkValue at hvalue
  split at hvalue
  · cases hvalue
  · obtain ⟨u, hlen, hvalue⟩ := bind_eq_ok hvalue
    obtain ⟨v, hrange, -⟩ := bind_eq_ok hvalue
    cases rule with
    | length =>
        rw [show f.len = some text from hwritten] at hlen
        exact hlen
    | number =>
        rw [show f.range = some text from hwritten] at hrange
        exact hrange

theorem nonBlank?_of_checkRange {name : String} (h : checkRange rule name text = .ok ()) :
    nonBlank? (some text) = some (Text.trim text) := by
  have hne : Text.trim text ≠ "" := by
    intro hempty
    obtain ⟨hform, -⟩ := checkRange_eq_ok_iff.mp h
    have hnil : trimChars text.toList = [] := by
      simpa [Text.trim] using congrArg String.toList hempty
    rw [hnil] at hform
    cases rule with
    | length => exact absurd hform (by decide)
    | number => exact absurd hform (by decide)
  simp [nonBlank?, hne]

/-- The declaration of a bound field has the constraints of the field. -/
theorem exists_binding {fields : List Field} {ds : List Declaration} {position : Position}
    (hds : declareAll fields = .ok ds) (hf : f ∈ fields) (hposition : f.position = some position) :
    ∃ d ∈ ds, f.declare = .ok d ∧ ∃ b, d.binding = some b ∧ b.constraints = f.constraints := by
  obtain ⟨d, hd, hdeclare⟩ := exists_ok_of_mapM_ok hds hf
  refine ⟨d, hd, hdeclare, ?_⟩
  obtain ⟨name, -, hname⟩ := bind_eq_ok hdeclare
  obtain rfl := Except.ok.inj hname
  exact ⟨_, by rw [hposition]; rfl, rfl⟩

/-- Checked fields are declared, and what a range of a bound field becomes is the trimmed text of the range.
If all its characters are ASCII it is a span, with its ends in order and something in it; otherwise it is
none, and no value is in it. -/
theorem checkAll_understood {handler : String} {fields : List Field}
    (h : checkAll handler fields = .ok ()) :
    ∃ ds, declareAll fields = .ok ds ∧
      ∀ f ∈ fields, ∀ position, f.position = some position →
        ∃ d ∈ ds, f.declare = .ok d ∧ ∃ b, d.binding = some b ∧ ∀ (rule : RangeRule) (spec : String),
          (rule.constraint spec ∈ b.constraints ↔
            ∃ text, rule.written f = some text ∧ Text.trim text = spec) ∧
          (rule.constraint spec ∈ b.constraints →
            ((∀ c ∈ spec.toList, isAscii c = true) →
              ∃ s, Span.ofText? spec = some s ∧ s.IsProper ∧ ∃ x, within x spec = true) ∧
            ((∃ c ∈ spec.toList, isAscii c = false) →
              Span.ofText? spec = none ∧ ∀ x, within x spec = false)) := by
  obtain ⟨ds, hds⟩ := exists_declareAll h
  refine ⟨ds, hds, ?_⟩
  intro f hf position hposition
  obtain ⟨d, hd, hdeclare, b, hb, hconstraints⟩ := exists_binding hds hf hposition
  refine ⟨d, hd, hdeclare, b, hb, ?_⟩
  intro rule spec
  have hcheck : f.check handler = .ok () := by
    obtain ⟨u, hfields, -⟩ := bind_eq_ok h
    exact forM_eq_ok_iff.mp hfields f hf
  have hiff : rule.constraint spec ∈ b.constraints ↔
      ∃ text, rule.written f = some text ∧ Text.trim text = spec := by
    rw [hconstraints, mem_constraints_iff]
    cases hwritten : rule.written f with
    | none => simp [nonBlank?]
    | some text =>
        rw [nonBlank?_of_checkRange (checkRange_of_check hcheck hposition hwritten)]
        simp
  refine ⟨hiff, ?_⟩
  intro hmem
  obtain ⟨text, hwritten, rfl⟩ := hiff.mp hmem
  have hrange := checkRange_eq_ok_iff.mp (checkRange_of_check hcheck hposition hwritten)
  have htext : trimChars (Text.trim text).toList = trimChars text.toList := by simp [Text.trim]
  constructor
  · intro hascii
    rw [Text.trim, String.toList_ofList] at hascii
    obtain ⟨s, hs, hproper⟩ := Span.exists_ofText? htext hrange.1 hrange.2 hascii
    obtain ⟨x, hx⟩ := hproper.exists_holds
    exact ⟨s, hs, hproper, x, by simp [within, hs, hx]⟩
  · rintro ⟨c, hc, hnot⟩
    have hblank : isBlank c = false := by
      rw [Text.trim, String.toList_ofList] at hc
      exact not_isBlank_of_isRangeForm hrange.1 c hc
    have hnone : Span.ofText? (Text.trim text) = none := by
      cases hs : Span.ofText? (Text.trim text) with
      | none => rfl
      | some s =>
          have hmem : c ∈ trimChars (Text.trim text).toList := Text.mem_trimChars hc hblank
          rw [(Span.ofText?_eq_some_iff.mp hs).isAscii hmem hblank] at hnot
          cases hnot
    exact ⟨hnone, fun x => by simp [within, hnone]⟩

/-- A field of the form with a range of lengths. -/
def sized (len : String) : Field :=
  { name := "code", type := "String", position := some .form, len := some len }

theorem checkAll_sized {len : String} (h : checkRange .length "code" len = .ok ()) :
    checkAll "Login" [sized len] = .ok () := by
  have hvalue : checkValue (sized len) .form = .ok () := by
    unfold checkValue
    rw [if_neg (by simp)]
    change (checkRange .length "code" len >>= fun _ => _) = .ok ()
    rw [h]
    rfl
  obtain ⟨name, hname⟩ := exists_ok_of_toBool (x := Identifier.ofName "code") (by decide)
  have hcheck : check "Login" (sized len) = .ok () := by
    change (Identifier.ofName "code" >>= fun _ =>
      (checkValue (sized len) .form).mapError (.invalidFields "Login")) = .ok ()
    rw [hname, hvalue]
    rfl
  have hall : [sized len].forM (check "Login") = .ok () :=
    forM_eq_ok_iff.mpr (List.forall_mem_singleton.mpr hcheck)
  rw [checkAll, hall]
  rfl

theorem checkAll_understood_sized :
    checkAll "Login" [sized " 3:5 "] = .ok () ∧ (∀ c ∈ "3:5".toList, isAscii c = true) ∧
      ∃ s, Span.ofText? "3:5" = some s ∧ s.IsProper ∧ ∃ x, within x "3:5" = true := by
  have hcheck : checkAll "Login" [sized " 3:5 "] = .ok () := checkAll_sized (by decide)
  have hascii : ∀ c ∈ "3:5".toList, isAscii c = true := List.all_eq_true.mp (by decide)
  refine ⟨hcheck, hascii, ?_⟩
  obtain ⟨ds, -, hfields⟩ := checkAll_understood hcheck
  obtain ⟨d, -, -, b, -, hranges⟩ := hfields _ List.mem_cons_self .form rfl
  obtain ⟨hiff, hspan⟩ := hranges .length "3:5"
  exact (hspan (hiff.mpr ⟨" 3:5 ", rfl, by decide⟩)).1 hascii

/-- A range in the digits of another script is accepted and becomes a constraint that no value meets. -/
theorem not_understood_arabicIndic :
    checkAll "Login" [sized "٣:٥"] = .ok () ∧
      (∃ ds, declareAll [sized "٣:٥"] = .ok ds ∧
        ∃ d ∈ ds, ∃ b, d.binding = some b ∧ .len "٣:٥" ∈ b.constraints) ∧
      Span.ofText? "٣:٥" = none ∧ ∀ x, within x "٣:٥" = false := by
  have hform : isRangeForm .length ['٣', ':', '٥'] = true := by
    have hcut : Text.cutAt? (· == ':') ['٣', ':', '٥'] = some (['٣'], ['٥']) := by decide
    have hthree : isDecimalDigit '٣' = true :=
      Text.isDecimalDigit_arabicIndic (by decide) (by decide)
    have hfive : isDecimalDigit '٥' = true :=
      Text.isDecimalDigit_arabicIndic (by decide) (by decide)
    simp [isRangeForm, hcut, isBound, isDigits, hthree, hfive]
  have htrim : trimChars "٣:٥".toList = ['٣', ':', '٥'] := by decide
  have hrange : checkRange .length "code" "٣:٥" = .ok () := by
    rw [checkRange_eq_ok_iff, htrim]
    exact ⟨hform, by decide⟩
  have hchecked : checkAll "Login" [sized "٣:٥"] = .ok () := checkAll_sized hrange
  have hnone : Span.ofText? "٣:٥" = none := by decide
  refine ⟨hchecked, ?_, hnone, fun x => by simp [within, hnone]⟩
  obtain ⟨ds, hds⟩ := exists_declareAll hchecked
  obtain ⟨d, hd, -, b, hb, hconstraints⟩ := exists_binding hds List.mem_cons_self rfl
  refine ⟨ds, hds, d, hd, b, hb, ?_⟩
  have hspec : nonBlank? (some "٣:٥") = some (Text.trim "٣:٥") := nonBlank?_of_checkRange hrange
  rw [Text.trim, htrim] at hspec
  have hmem : RangeRule.length.constraint "٣:٥" ∈ (sized "٣:٥").constraints :=
    mem_constraints_iff.mpr hspec
  rw [hconstraints]
  exact hmem

end Field

end RouteWorks
