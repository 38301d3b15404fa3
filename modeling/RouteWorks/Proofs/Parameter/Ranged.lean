import RouteWorks.Proofs.Parameter.Binding

/-!
# The range of a parameter

The range of a field is the last of its rules that is checked, so all it can do is to refuse a value that
is bound without it (`Rules.bindSent_eq`).  It looks at the number that a value is.  Where a type has no
lists, that is the one number in the value; a list is not a number, whatever it holds, and its range has no
effect (`Rules.bind_range`).
-/

namespace RouteWorks

open Number (Binary)

/-! ## Numbers in a value -/

/-- Whether the values of a type hold a list. -/
def ParameterType.hasList : ParameterType → Bool
  | repeated _ => true
  | optional item => item.hasList
  | _ => false

namespace ParameterValue

mutual

/-- The numbers in a value. -/
def numbers : ParameterValue → List Binary
  | integer n => [.ofInt Number.double n]
  | real _ x => [x.convert Number.double]
  | present v => numbers v
  | many vs => numbersOfAll vs
  | _ => []

/-- The numbers in the values of a list. -/
def numbersOfAll : List ParameterValue → List Binary
  | [] => []
  | v :: vs => numbers v ++ numbersOfAll vs

end

end ParameterValue

namespace ParameterType.Reads

variable {name : String} {type : ParameterType} {sent : List String} {v : ParameterValue}

/-- Without lists, a value is all the numbers that it holds. -/
theorem numbers_eq (h : Reads name type sent v) (hlist : type.hasList = false) :
    v.numbers = v.number?.toList := by
  induction h with
  | optional _ ih => exact ih hlist
  | empty => cases hlist
  | cons => cases hlist
  | _ => rfl

/-- A value with a list is no number. -/
theorem number?_eq_none (h : Reads name type sent v) (hlist : type.hasList = true) :
    v.number? = none := by
  induction h with
  | optional _ ih => exact ih hlist
  | empty => rfl
  | cons => rfl
  | _ => cases hlist

end ParameterType.Reads

/-! ## The last rule -/

namespace Rules

variable {rules : Rules} {type : ParameterType} {key : String} {sent : List String}
  {v : ParameterValue}

/-- The rules of a field apart from its range. -/
def withoutRange (rules : Rules) : Rules := { rules with range := none }

/-- Checks the range of a field. -/
def checkRange (rules : Rules) (key : String) (v : ParameterValue) : Except BindFault Unit :=
  (checkMeasure rules.range v.number? id .numberOutside).mapError fun e =>
    rules.fail (.invalid key e)

theorem checkRange_eq_ok_iff {spec : String} (hrange : rules.range = some spec) :
    rules.checkRange key v = .ok () ↔ ∀ x, v.number? = some x → Span.Covers spec x := by
  rw [checkRange, mapError_eq_ok_iff, checkMeasure_eq_ok_iff, hrange]
  constructor
  · exact fun h x hx => h spec x rfl hx
  · rintro h _ x ⟨⟩ hx
    exact h x hx

theorem checkRange_of_number?_eq_none (h : v.number? = none) : rules.checkRange key v = .ok () := by
  rw [checkRange, mapError_eq_ok_iff, checkMeasure_eq_ok_iff]
  intro spec x _ hx
  rw [h] at hx
  cases hx

/-- The range is checked behind all other rules about a value. -/
theorem checkValue_eq : rules.checkValue v =
    rules.withoutRange.checkValue v >>= fun _ =>
      checkMeasure rules.range v.number? id .numberOutside := by
  have hnone : checkMeasure rules.withoutRange.range v.number? id .numberOutside = .ok () := rfl
  unfold checkValue
  rw [hnone, show rules.withoutRange.nonzero = rules.nonzero from rfl,
    show rules.withoutRange.len = rules.len from rfl]
  cases rules.nonzero && v.isZero with
  | true => rfl
  | false =>
      cases checkMeasure rules.len v.length? (fun n => .ofInt Number.double n) .lengthOutside with
      | error e => rfl
      | ok u => rfl

/-- What is bound under a range is what is bound without it, if its number is in the range. -/
theorem bindSent_eq : rules.bindSent type key sent =
    rules.withoutRange.bindSent type key sent >>= fun v =>
      rules.checkRange key v >>= fun _ => pure v := by
  have hvalue : ∀ v, ((rules.checkValue v).mapError fun e => rules.fail (.invalid key e)) =
      ((rules.withoutRange.checkValue v).mapError fun e => rules.fail (.invalid key e)) >>= fun _ =>
        rules.checkRange key v := by
    intro v
    rw [checkValue_eq, mapError_bind]
    rfl
  rw [bindSent, bindSent, show rules.withoutRange.pattern = rules.pattern from rfl]
  simp only [hvalue]
  cases rules.pattern with
  | none =>
      simp only [bind_assoc, pure_bind]
      rfl
  | some pattern =>
      simp only [bind_assoc, pure_bind]
      rfl

theorem bind_of_sent (hne : sent.filter (· ≠ "") ≠ []) :
    rules.bind type key sent = rules.bindSent type key (sent.filter (· ≠ "")) := by
  rw [bind]
  split
  · rename_i hnone
    exact absurd hnone hne
  · rfl

/-- A range refuses nothing but values whose number is not in it. -/
theorem bind_eq_ok_iff_checkRange (hne : sent.filter (· ≠ "") ≠ []) :
    rules.bind type key sent = .ok v ↔
      rules.withoutRange.bind type key sent = .ok v ∧ rules.checkRange key v = .ok () := by
  rw [bind_of_sent hne, bind_of_sent hne, bindSent_eq, bind_eq_ok_iff]
  simp only [check_eq_ok_iff, pure_eq_ok_iff]
  constructor
  · rintro ⟨w, hw, hcheck, rfl⟩
    exact ⟨hw, hcheck⟩
  · rintro ⟨hv, hcheck⟩
    exact ⟨v, hv, hcheck, rfl⟩

theorem reads_of_bind (hne : sent.filter (· ≠ "") ≠ []) (h : rules.bind type key sent = .ok v) :
    ParameterType.Reads key type (sent.filter (· ≠ "")) v := by
  rw [bind_of_sent hne] at h
  exact ((bindSent_eq_ok_iff hne).mp h).reads

end Rules

/-- What the range of a field does to a parameter that is sent.  A value without lists is bound if and only
if it is bound without the range and every number in it lies in the range.  With a list in its type, at
whatever depth, a parameter is bound as it is without the range, and fails as it does without it. -/
theorem Rules.bind_range (rules : Rules) {spec : String} (hrange : rules.range = some spec)
    (type : ParameterType) (c : Context) (position : Position) (key : String)
    (hsent : c.sent position key ≠ []) :
    (type.hasList = false → ∀ v, rules.bind type key (c.values position key) = .ok v ↔
        rules.withoutRange.bind type key (c.values position key) = .ok v ∧
          ∀ x ∈ v.numbers, Span.Covers spec x) ∧
    (type.hasList = true → rules.bind type key (c.values position key) =
        rules.withoutRange.bind type key (c.values position key)) := by
  constructor
  · intro hlist v
    rw [bind_eq_ok_iff_checkRange hsent, checkRange_eq_ok_iff hrange]
    refine and_congr_right fun hv => ?_
    rw [(reads_of_bind hsent hv).numbers_eq hlist]
    simp only [Option.mem_toList]
  · intro hlist
    rw [bind_of_sent hsent, bind_of_sent hsent, bindSent_eq]
    cases hbind : rules.withoutRange.bindSent type key ((c.values position key).filter (· ≠ "")) with
    | error e => rfl
    | ok v =>
        have hnumber := (reads_of_bind hsent (bind_of_sent hsent ▸ hbind)).number?_eq_none hlist
        change (rules.checkRange key v >>= fun _ => pure v) = .ok v
        rw [checkRange_of_number?_eq_none hnumber]
        rfl

/-- Counts up to ten. -/
def countRules : Rules := { range := some "0:10" }

def countType : ParameterType := .integer "u8" ⟨false, 8⟩

/-- A request with one count. -/
def countRequest (count : String) : Context :=
  { method := "GET", target := default, headers := [], query := [("a", count)] }

theorem Rules.bind_range_count :
    countRules.range = some "0:10" ∧ (countRequest "7").sent .query "a" ≠ [] ∧
      countRules.bind countType "a" ((countRequest "7").values .query "a") = .ok (.integer 7) ∧
      countRules.bind (.repeated countType) "a" ((countRequest "7").values .query "a") =
        .ok (.many [.integer 7]) := by
  have hsent : (countRequest "7").sent .query "a" ≠ [] := by decide
  have hone := (Rules.bind_range countRules rfl countType (countRequest "7") .query "a" hsent).1 rfl
  have hmany := (Rules.bind_range countRules rfl (.repeated countType) (countRequest "7") .query "a"
    hsent).2 rfl
  have hcovers : Span.Covers "0:10" (.ofInt Number.double 7) := within_iff.mp (by decide +kernel)
  refine ⟨rfl, hsent, (hone _).mpr ⟨rfl, ?_⟩, ?_⟩
  · exact List.forall_mem_singleton.mpr hcovers
  · rw [hmany]
    rfl

/-- Ninety-nine is bound as a list of counts, though it is not in the range. -/
theorem not_covered_ninetyNine :
    ¬ ∀ (rules : Rules) (spec : String) (type : ParameterType) (c : Context) (position : Position)
        (key : String) (v : ParameterValue), rules.range = some spec → c.sent position key ≠ [] →
      rules.bind type key (c.values position key) = .ok v → ∀ x ∈ v.numbers, Span.Covers spec x := by
  intro h
  obtain ⟨v, hv, hnumbers⟩ := exists_ok_of_toOption
    (x := countRules.bind (.repeated countType) "a" ((countRequest "99").values .query "a"))
    (f := ParameterValue.numbers) (b := [.ofInt Number.double 99]) (by decide +kernel)
  have hcovers := h countRules "0:10" (.repeated countType) (countRequest "99") .query "a" v rfl
    (by decide) hv (.ofInt Number.double 99) (by rw [hnumbers]; exact List.mem_singleton_self _)
  have hout : within (.ofInt Number.double 99) "0:10" = false := by decide +kernel
  rw [within_iff.mpr hcovers] at hout
  cases hout

end RouteWorks
