import RouteWorks.Parameter.Rules
import RouteWorks.Proofs.Fallible
import RouteWorks.Proofs.Number.Integer
import RouteWorks.Proofs.Parameter.Measure
import RouteWorks.Request.Context

/-!
# Parameters that are bound

`ParameterType.Reads` says which texts are a value of a type, and the types read exactly those
(`ParameterType.read_eq_ok_iff`).  The rules of a field are checked one after another, and a value is bound
if and only if it is read from the texts that were sent and keeps all of the rules (`Rules.bind_values`).
-/

namespace RouteWorks

open Number (Binary)
open Text (trimChars)

/-! ## Values of a type -/

namespace ParameterType

variable {name : String} {type item : ParameterType} {sent : List String} {s : String}
  {v : ParameterValue} {vs : List ParameterValue}

/-- The words for a truth value, in lower case. -/
def flagWords : Bool → List String
  | true => ["1", "true", "on", "yes"]
  | false => ["0", "false", "off", "no"]

/-- Texts sent under a name are a value of a type.  The last text is that of a scalar. -/
inductive Reads (name : String) : ParameterType → List String → ParameterValue → Prop
  | text {sent : List String} {s : String} (hlast : sent.getLast? = some s) :
      Reads name .text sent (.text s)
  | flag {sent : List String} {s : String} {b : Bool} (hlast : sent.getLast? = some s)
      (hword : String.ofList (s.toList.map Char.toLower) ∈ flagWords b) :
      Reads name .flag sent (.flag b)
  | cookie {sent : List String} {s : String} (hlast : sent.getLast? = some s) :
      Reads name .cookie sent (.cookie name s)
  | integer {n : String} {t : Number.IntegerType} {sent : List String} {s : String} {i : Int}
      (hlast : sent.getLast? = some s) (hnumeral : t.IsNumeral (trimChars s.toList) i) :
      Reads name (.integer n t) sent (.integer i)
  | real {n : String} {f : Number.Format} {sent : List String} {s : String} {x : Binary}
      (hlast : sent.getLast? = some s)
      (hnumber : Number.readBinary f (trimChars s.toList) = .ok x) :
      Reads name (.real n f) sent (.real f x)
  | optional {item : ParameterType} {sent : List String} {v : ParameterValue}
      (h : Reads name item sent v) : Reads name (.optional item) sent (.present v)
  | empty {item : ParameterType} : Reads name (.repeated item) [] (.many [])
  | cons {item : ParameterType} {s : String} {sent : List String} {v : ParameterValue}
      {vs : List ParameterValue} (hfirst : Reads name item [s] v)
      (hrest : Reads name (.repeated item) sent (.many vs)) :
      Reads name (.repeated item) (s :: sent) (.many (v :: vs))

/-- Each text alone is a value of a list. -/
theorem reads_repeated_iff : Reads name (.repeated item) sent (.many vs) ↔
    List.Forall₂ (fun s v => Reads name item [s] v) sent vs := by
  induction sent generalizing vs with
  | nil =>
      rw [List.forall₂_nil_left_iff]
      constructor
      · rintro ⟨⟩
        rfl
      · rintro rfl
        exact .empty
  | cons s sent ih =>
      constructor
      · intro h
        cases h with
        | cons hfirst hrest => exact .cons hfirst (ih.mp hrest)
      · intro h
        cases h with
        | cons hfirst hrest => exact .cons hfirst (ih.mpr hrest)

theorem readFlag_eq_ok_iff : readFlag s = .ok v ↔
    ∃ b, String.ofList (s.toList.map Char.toLower) ∈ flagWords b ∧ v = .flag b := by
  have hdisjoint : ∀ word, word ∈ flagWords true → word ∉ flagWords false := by
    simp [flagWords]
  simp only [readFlag]
  split
  · rename_i hyes
    constructor
    · intro h
      exact ⟨true, hyes, (Except.ok.inj h).symm⟩
    · rintro ⟨b, hb, rfl⟩
      cases b with
      | true => rfl
      | false => exact absurd hb (hdisjoint _ hyes)
  split
  · rename_i hyes hno
    constructor
    · intro h
      exact ⟨false, hno, (Except.ok.inj h).symm⟩
    · rintro ⟨b, hb, rfl⟩
      cases b with
      | true => exact absurd hb hyes
      | false => rfl
  · rename_i hyes hno
    simp only [reduceCtorEq, false_iff]
    rintro ⟨b, hb, -⟩
    cases b with
    | true => exact hyes hb
    | false => exact hno hb

theorem readInteger_eq_ok_iff {t : Number.IntegerType} : readInteger name t s = .ok v ↔
    ∃ i, t.IsNumeral (trimChars s.toList) i ∧ v = .integer i := by
  simp only [← Number.IntegerType.read_eq_ok_iff, readInteger]
  cases t.read (trimChars s.toList) with
  | ok n => simp [eq_comm]
  | error e => simp

theorem readReal_eq_ok_iff {f : Number.Format} : readReal name f s = .ok v ↔
    ∃ x, Number.readBinary f (trimChars s.toList) = .ok x ∧ v = .real f x := by
  simp only [readReal]
  cases Number.readBinary f (trimChars s.toList) with
  | ok x => simp [eq_comm]
  | error e => simp

/-- Texts are read if and only if they are a value of the type, and as that value. -/
theorem read_eq_ok_iff (hne : sent ≠ []) : type.read name sent = .ok v ↔ Reads name type sent v := by
  obtain ⟨s, hlast⟩ : ∃ s, sent.getLast? = some s := ⟨_, List.getLast?_eq_some_getLast hne⟩
  have hlastD : sent.getLastD "" = s := by rw [List.getLastD_eq_getLast?, hlast]; rfl
  have hsame : ∀ {t}, sent.getLast? = some t → t = s := fun ht => Option.some.inj (ht.symm.trans hlast)
  induction type generalizing sent v s with
  | text =>
      rw [read, hlastD]
      constructor
      · rintro ⟨⟩
        exact .text hlast
      · rintro ⟨ht⟩
        rw [hsame ht]
  | flag =>
      rw [read, hlastD, readFlag_eq_ok_iff]
      constructor
      · rintro ⟨b, hword, rfl⟩
        exact .flag hlast hword
      · intro h
        cases h with
        | flag ht hword => exact ⟨_, hsame ht ▸ hword, rfl⟩
  | cookie =>
      rw [read, hlastD]
      constructor
      · rintro ⟨⟩
        exact .cookie hlast
      · intro h
        cases h with
        | cookie ht => rw [hsame ht]
  | integer n t =>
      rw [read, hlastD, readInteger_eq_ok_iff]
      constructor
      · rintro ⟨i, hnumeral, rfl⟩
        exact .integer hlast hnumeral
      · intro h
        cases h with
        | integer ht hnumeral => exact ⟨_, hsame ht ▸ hnumeral, rfl⟩
  | real n f =>
      rw [read, hlastD, readReal_eq_ok_iff]
      constructor
      · rintro ⟨x, hnumber, rfl⟩
        exact .real hlast hnumber
      · intro h
        cases h with
        | real ht hnumber => exact ⟨_, hsame ht ▸ hnumber, rfl⟩
  | optional item ih =>
      rw [read, map_eq_ok_iff]
      constructor
      · rintro ⟨w, hw, rfl⟩
        exact .optional ((ih hne s hlast hlastD hsame).mp hw)
      · intro h
        cases h with
        | optional hw => exact ⟨_, (ih hne s hlast hlastD hsame).mpr hw, rfl⟩
  | repeated item ih =>
      have hone : ∀ t w, read name item [t] = .ok w ↔ Reads name item [t] w :=
        fun t w => ih (List.cons_ne_nil t []) t rfl rfl (fun ht => (Option.some.inj ht).symm)
      rw [read, map_eq_ok_iff]
      simp only [mapM_eq_ok_iff_forall₂, hone, ← reads_repeated_iff]
      constructor
      · rintro ⟨ws, hws, rfl⟩
        exact hws
      · intro h
        cases h with
        | empty => exact ⟨_, .empty, rfl⟩
        | cons hfirst hrest => exact ⟨_, .cons hfirst hrest, rfl⟩

/-! ## Lengths and numbers -/

/-- Whether the values of a type that are read have a length. -/
def hasLength : ParameterType → Bool
  | text | cookie | repeated _ => true
  | optional item => item.hasLength
  | _ => false

/-- Whether the values of a type that are read are numbers. -/
def hasNumber : ParameterType → Bool
  | integer _ _ | real _ _ => true
  | optional item => item.hasNumber
  | _ => false

theorem Reads.exists_hasLength_iff (h : Reads name type sent v) :
    (∃ n, v.HasLength n) ↔ type.hasLength = true := by
  simp only [← ParameterValue.length?_eq_some_iff, ← Option.isSome_iff_exists]
  induction h with
  | optional _ ih => exact ih
  | _ => simp [ParameterValue.length?, hasLength]

theorem Reads.exists_isNumber_iff (h : Reads name type sent v) :
    (∃ x, v.IsNumber x) ↔ type.hasNumber = true := by
  simp only [← ParameterValue.number?_eq_some_iff, ← Option.isSome_iff_exists]
  induction h with
  | optional _ ih => exact ih
  | _ => simp [ParameterValue.number?, hasNumber]

end ParameterType

/-! ## Rules -/

/-- A text matches what a pattern describes. -/
def Pattern.Matches (pattern text : String) : Prop :=
  ∃ e, Pattern.ofText? pattern = some e ∧ e.isMatch text.toList = true

/-- A text denotes a span, and a number lies between its ends or on one. -/
def Span.Covers (spec : String) (x : Binary) : Prop :=
  ∃ s, Span.Denotes spec s ∧ (∀ low, s.low = some low → low.le x = true) ∧
    ∀ high, s.high = some high → x.le high = true

theorem within_iff {x : Binary} {spec : String} : within x spec = true ↔ Span.Covers spec x := by
  unfold within Span.Covers
  simp only [← Span.ofText?_eq_some_iff]
  cases Span.ofText? spec with
  | none => simp
  | some s =>
      obtain ⟨low, high⟩ := s
      cases low <;> cases high <;> simp [Span.holds]

namespace Rules

variable {rules : Rules} {type : ParameterType} {key : String} {sent : List String}
  {v : ParameterValue}

/-- A value keeps the rules of a field that look at it. -/
structure Allows (rules : Rules) (v : ParameterValue) : Prop where
  nonzero : rules.nonzero = true → ¬ v.IsZero
  length : ∀ spec n, rules.len = some spec → v.HasLength n →
    Span.Covers spec (.ofInt Number.double n)
  number : ∀ spec x, rules.range = some spec → v.IsNumber x → Span.Covers spec x

/-- Texts that were sent are accepted as a value. -/
structure Accepts (rules : Rules) (type : ParameterType) (key : String) (sent : List String)
    (v : ParameterValue) : Prop where
  pattern : ∀ pattern, rules.pattern = some pattern → ∀ s ∈ sent, Pattern.Matches pattern s
  reads : ParameterType.Reads key type sent v
  allows : rules.Allows v

theorem checkPattern_eq_ok_iff {pattern text : String} :
    rules.checkPattern key pattern text = .ok () ↔ Pattern.Matches pattern text := by
  unfold checkPattern Pattern.Matches
  cases Pattern.ofText? pattern with
  | none => simp
  | some e =>
      by_cases hmatch : e.isMatch text.toList = true
      · simp [hmatch]
      · simp [hmatch]

theorem checkMeasure_eq_ok_iff {α : Type} {rule : Option String} {measure : Option α}
    {number : α → Binary} {refusal : α → String → ValueRefusal} :
    checkMeasure rule measure number refusal = .ok () ↔
      ∀ spec a, rule = some spec → measure = some a → Span.Covers spec (number a) := by
  cases rule with
  | none => simp [checkMeasure]
  | some spec =>
      cases measure with
      | none => simp [checkMeasure]
      | some a => simp [checkMeasure, ← within_iff]

theorem checkValue_eq_ok_iff : rules.checkValue v = .ok () ↔ rules.Allows v := by
  rw [checkValue]
  split
  · rename_i hzero
    rw [Bool.and_eq_true, ParameterValue.isZero_iff] at hzero
    constructor
    · intro h
      cases h
    · intro h
      exact absurd hzero.2 (h.nonzero hzero.1)
  · rename_i hzero
    rw [Bool.and_eq_true, ParameterValue.isZero_iff, not_and] at hzero
    change (checkMeasure rules.len v.length? _ _ >>= fun _ => checkMeasure rules.range v.number? _ _) =
      .ok () ↔ _
    rw [check_eq_ok_iff, checkMeasure_eq_ok_iff, checkMeasure_eq_ok_iff]
    simp only [ParameterValue.length?_eq_some_iff, ParameterValue.number?_eq_some_iff]
    exact ⟨fun h => ⟨hzero, h.1, h.2⟩, fun h => ⟨h.length, h.number⟩⟩

theorem bindSent_eq_ok_iff (hne : sent ≠ []) :
    rules.bindSent type key sent = .ok v ↔ rules.Accepts type key sent v := by
  have hread : ∀ w, ((type.read key sent).mapError fun e => rules.fail (.invalid key (.unreadable e))) =
      .ok w ↔ ParameterType.Reads key type sent w :=
    fun w => mapError_eq_ok_iff.trans (ParameterType.read_eq_ok_iff hne)
  have hvalue : ((do
      let v ← (type.read key sent).mapError fun e => rules.fail (.invalid key (.unreadable e))
      (checkValue rules v).mapError fun e => rules.fail (.invalid key e)
      return v) : Except BindFault ParameterValue) = .ok v ↔
      ParameterType.Reads key type sent v ∧ rules.Allows v := by
    rw [bind_eq_ok_iff]
    constructor
    · rintro ⟨w, hw, h⟩
      rw [check_eq_ok_iff, mapError_eq_ok_iff, checkValue_eq_ok_iff, pure_eq_ok_iff] at h
      obtain ⟨hallows, rfl⟩ := h
      exact ⟨(hread w).mp hw, hallows⟩
    · rintro ⟨hreads, hallows⟩
      refine ⟨v, (hread v).mpr hreads, ?_⟩
      rw [check_eq_ok_iff, mapError_eq_ok_iff, checkValue_eq_ok_iff]
      exact ⟨hallows, rfl⟩
  rw [bindSent]
  split
  · rename_i pattern hpattern
    have hmatches : sent.forM (rules.checkPattern key pattern) = .ok () ↔
        ∀ s ∈ sent, Pattern.Matches pattern s := by
      simp only [forM_eq_ok_iff, checkPattern_eq_ok_iff]
    rw [check_eq_ok_iff, hmatches, hvalue]
    constructor
    · rintro ⟨hall, hreads, hallows⟩
      refine ⟨?_, hreads, hallows⟩
      intro other hother
      rw [hpattern, Option.some.injEq] at hother
      exact hother ▸ hall
    · intro h
      exact ⟨h.pattern pattern hpattern, h.reads, h.allows⟩
  · rename_i hpattern
    refine hvalue.trans ⟨fun h => ⟨?_, h.1, h.2⟩, fun h => ⟨h.reads, h.allows⟩⟩
    intro pattern hsome
    rw [hpattern] at hsome
    cases hsome

end Rules

/-- The texts sent under a name at a position that are not empty. -/
def Context.sent (c : Context) (position : Position) (key : String) : List String :=
  (c.values position key).filter (· ≠ "")

/-- What a parameter is bound to.  When nothing is sent, a required one is missing and another has the
default of its type.  When something is sent, it is bound to a value if and only if every text that is sent
matches the pattern, the texts are that value, and the value keeps the rules; a value that is read has a
length or a number if its type has. -/
theorem Rules.bind_values (rules : Rules) (herror : rules.error = none) (type : ParameterType)
    (c : Context) (position : Position) (key : String) :
    (c.sent position key = [] → rules.bind type key (c.values position key) =
        if rules.required then .error (.missing key) else .ok type.default) ∧
    (c.sent position key ≠ [] → ∀ v, rules.bind type key (c.values position key) = .ok v ↔
        rules.Accepts type key (c.sent position key) v) ∧
    ∀ v, ParameterType.Reads key type (c.sent position key) v →
      ((∃ n, v.HasLength n) ↔ type.hasLength = true) ∧
        ((∃ x, v.IsNumber x) ↔ type.hasNumber = true) := by
  refine ⟨?_, ?_, fun v hv => ⟨hv.exists_hasLength_iff, hv.exists_isNumber_iff⟩⟩
  · intro hnone
    unfold Context.sent at hnone
    simp only [Rules.bind, hnone, Rules.fail, herror, Option.map_none, Option.getD_none]
  · intro hsome v
    rw [← Rules.bindSent_eq_ok_iff hsome, Rules.bind]
    split
    · rename_i hnone
      exact absurd hnone hsome
    · rfl

/-- The rules of a page number. -/
def pageRules : Rules :=
  { required := true, nonzero := true, range := some "1:10", pattern := some "^[0-9]+$" }

/-- A request for a page, with an empty page number in front. -/
def pageRequest : Context :=
  { method := "GET", target := default, headers := [], query := [("page", ""), ("page", "07")] }

def pageType : ParameterType := .optional (.integer "u8" ⟨false, 8⟩)

theorem bind_values_page : pageRules.error = none ∧
    pageRules.bind pageType "page" (pageRequest.values .query "page") = .ok (.present (.integer 7)) := by
  have hsent : pageRequest.sent .query "page" = ["07"] := by decide
  have hbind := (Rules.bind_values pageRules rfl pageType pageRequest .query "page").2.1
    (by rw [hsent]; simp) (.present (.integer 7))
  have hpattern : ((Pattern.ofText? "^[0-9]+$").map fun e => e.isMatch "07".toList) = some true := by
    decide +kernel
  obtain ⟨e, he, hmatch⟩ := Option.map_eq_some_iff.mp hpattern
  have hdigits : ∀ c ∈ ['0', '7'], c.isDigit = true := List.all_eq_true.mp (by decide)
  have hnumeral : Number.IntegerType.IsNumeral ⟨false, 8⟩ (trimChars "07".toList) 7 :=
    ⟨false, ['0', '7'], .none _, by simp, hdigits, by decide, by decide⟩
  have hrange : Span.Covers "1:10" (.ofInt Number.double 7) := within_iff.mp (by decide +kernel)
  refine ⟨rfl, hbind.mpr ?_⟩
  rw [hsent]
  refine ⟨?_, .optional (.integer rfl hnumeral), ?_⟩
  · rintro _ ⟨⟩
    exact List.forall_mem_singleton.mpr ⟨e, he, hmatch⟩
  · refine ⟨fun _ hzero => absurd (ParameterValue.isZero_iff.mpr hzero) (by decide), ?_, ?_⟩
    · rintro _ _ ⟨⟩
    · rintro _ x ⟨⟩ hx
      cases hx with
      | present hx =>
          cases hx
          exact hrange

end RouteWorks
