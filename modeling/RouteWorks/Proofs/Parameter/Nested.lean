import RouteWorks.Proofs.Parameter.Ranged

/-!
# Optional and repeated parameters

Around a type stand the types of values that can be missing and of values that are repeated.  An optional
parameter is bound as the one inside it, a repeated one binds each of its texts alone, and what has no list
in it looks at the last text only (`Rules.bind_nested`).  The rules are the same for all of them, so the
laws hold at every depth.
-/

namespace RouteWorks

namespace ParameterType

variable {name : String} {type : ParameterType} {sent : List String} {s : String}

/-- Without lists, only the last text is read. -/
theorem read_last (hlist : type.hasList = false) (hlast : sent.getLast? = some s) :
    type.read name sent = type.read name [s] := by
  have hlastD : sent.getLastD "" = [s].getLastD "" := by
    rw [List.getLastD_eq_getLast?, hlast]
    rfl
  induction type with
  | optional item ih => rw [read, read, ih hlist]
  | repeated item => cases hlist
  | _ => rw [read, read, hlastD]

end ParameterType

namespace Rules

variable {rules : Rules} {type : ParameterType} {key : String} {sent : List String} {s : String}
  {v : ParameterValue} {vs : List ParameterValue}

/-! ## The two halves of binding -/

/-- Checks all texts that were sent against the pattern of a field, if it has one. -/
def checkTexts (rules : Rules) (key : String) (sent : List String) : Except BindFault Unit :=
  match rules.pattern with
  | some pattern => sent.forM (rules.checkPattern key pattern)
  | none => .ok ()

/-- Reads a value and checks what the other rules say of it. -/
def readChecked (rules : Rules) (type : ParameterType) (key : String) (sent : List String) :
    Except BindFault ParameterValue := do
  let v ← (type.read key sent).mapError fun e => rules.fail (.invalid key (.unreadable e))
  (rules.checkValue v).mapError fun e => rules.fail (.invalid key e)
  return v

/-- The pattern is checked before anything is read, whatever the type is. -/
theorem bindSent_eq_checkTexts : rules.bindSent type key sent =
    rules.checkTexts key sent >>= fun _ => rules.readChecked type key sent := by
  rw [bindSent, checkTexts]
  cases rules.pattern with
  | none => rfl
  | some pattern => rfl

/-- A text matches the pattern of a field, if the field has one. -/
def Admits (rules : Rules) (s : String) : Prop :=
  ∀ pattern, rules.pattern = some pattern → Pattern.Matches pattern s

theorem forall_admits_iff : (∀ s ∈ sent, rules.Admits s) ↔
    ∀ pattern, rules.pattern = some pattern → ∀ s ∈ sent, Pattern.Matches pattern s :=
  ⟨fun h pattern hpattern s hs => h s hs pattern hpattern,
    fun h s hs pattern hpattern => h pattern hpattern s hs⟩

theorem checkTexts_eq_ok_iff :
    rules.checkTexts key sent = .ok () ↔ ∀ s ∈ sent, rules.Admits s := by
  rw [forall_admits_iff, checkTexts]
  cases rules.pattern with
  | none => simp
  | some pattern => simp only [forM_eq_ok_iff, checkPattern_eq_ok_iff, Option.some.injEq, forall_eq']

/-! ## Optional parameters -/

/-- A value that is present has the measures of the value itself. -/
theorem checkValue_present : rules.checkValue (.present v) = rules.checkValue v := rfl

theorem readChecked_optional : rules.readChecked (.optional type) key sent =
    (rules.readChecked type key sent).map .present := by
  rw [readChecked, readChecked, ParameterType.read]
  cases type.read key sent with
  | error e => rfl
  | ok v =>
      change ((rules.checkValue (.present v)).mapError _ >>= fun _ => _) =
        ((rules.checkValue v).mapError _ >>= fun _ => _).map _
      rw [checkValue_present]
      cases (rules.checkValue v).mapError fun e => rules.fail (.invalid key e) with
      | error e => rfl
      | ok u => rfl

theorem bindSent_optional : rules.bindSent (.optional type) key sent =
    (rules.bindSent type key sent).map .present := by
  rw [bindSent_eq_checkTexts, bindSent_eq_checkTexts, readChecked_optional]
  cases rules.checkTexts key sent with
  | error e => rfl
  | ok u => rfl

/-! ## Repeated parameters -/

/-- Rules that say nothing of a value once it is read. -/
structure AllowsAll (rules : Rules) : Prop where
  nonzero : rules.nonzero = false
  len : rules.len = none
  range : rules.range = none

theorem AllowsAll.allows (h : rules.AllowsAll) (v : ParameterValue) : rules.Allows v where
  nonzero := by
    intro hnonzero
    rw [h.nonzero] at hnonzero
    cases hnonzero
  length := by
    intro spec n hlen
    rw [h.len] at hlen
    cases hlen
  number := by
    intro spec x hrange
    rw [h.range] at hrange
    cases hrange

theorem AllowsAll.accepts_iff (h : rules.AllowsAll) : rules.Accepts type key sent v ↔
    (∀ s ∈ sent, rules.Admits s) ∧ ParameterType.Reads key type sent v := by
  rw [forall_admits_iff]
  exact ⟨fun hv => ⟨hv.pattern, hv.reads⟩, fun hv => ⟨hv.1, hv.2, h.allows v⟩⟩

/-- The texts of a list are accepted together as they are accepted alone. -/
theorem AllowsAll.accepts_many_iff (h : rules.AllowsAll) :
    rules.Accepts (.repeated type) key sent (.many vs) ↔
      List.Forall₂ (fun s w => rules.Accepts type key [s] w) sent vs := by
  simp only [h.accepts_iff, ParameterType.reads_repeated_iff, List.forall_mem_singleton,
    List.forall₂_and_left]

theorem exists_many_of_reads (h : ParameterType.Reads key (.repeated type) sent v) :
    ∃ vs, v = .many vs := by
  cases h with
  | empty => exact ⟨[], rfl⟩
  | cons => exact ⟨_, rfl⟩

/-- A text that is not empty is bound alone as it is when it is sent. -/
theorem bind_singleton (hs : s ≠ "") :
    rules.bind type key [s] = rules.bindSent type key [s] := by
  have hsent : [s].filter (· ≠ "") = [s] := List.filter_cons_of_pos (decide_eq_true hs)
  rw [bind, hsent]

/-- A list is bound to what its texts are bound to alone. -/
theorem AllowsAll.bindSent_repeated_eq_ok_iff (h : rules.AllowsAll) (hne : sent ≠ [])
    (hsent : ∀ s ∈ sent, s ≠ "") : rules.bindSent (.repeated type) key sent = .ok v ↔
      ∃ vs, v = .many vs ∧ List.Forall₂ (fun s w => rules.bind type key [s] = .ok w) sent vs := by
  have halone : ∀ vs, rules.Accepts (.repeated type) key sent (.many vs) ↔
      List.Forall₂ (fun s w => rules.bind type key [s] = .ok w) sent vs := by
    intro vs
    calc rules.Accepts (.repeated type) key sent (.many vs)
      _ ↔ List.Forall₂ (fun s w => rules.Accepts type key [s] w) sent vs := h.accepts_many_iff
      _ ↔ List.Forall₂ (fun s w => s ≠ "" ∧ rules.Accepts type key [s] w) sent vs := by
        rw [List.forall₂_and_left, and_iff_right hsent]
      _ ↔ List.Forall₂ (fun s w => s ≠ "" ∧ rules.bind type key [s] = .ok w) sent vs := by
        have hbind : ∀ (s : String) w, (s ≠ "" ∧ rules.Accepts type key [s] w) ↔
            (s ≠ "" ∧ rules.bind type key [s] = .ok w) := by
          intro s w
          refine and_congr_right fun hs => ?_
          rw [bind_singleton hs, bindSent_eq_ok_iff (List.cons_ne_nil s [])]
        simp only [hbind]
      _ ↔ List.Forall₂ (fun s w => rules.bind type key [s] = .ok w) sent vs := by
        rw [List.forall₂_and_left, and_iff_right hsent]
  rw [bindSent_eq_ok_iff hne]
  simp only [← halone]
  constructor
  · intro hv
    obtain ⟨vs, rfl⟩ := exists_many_of_reads hv.reads
    exact ⟨vs, rfl, hv⟩
  · rintro ⟨vs, rfl, hv⟩
    exact hv

/-- When nothing is sent, a parameter is missing or has the default of its type. -/
theorem bind_of_not_sent (hnone : sent.filter (· ≠ "") = []) : rules.bind type key sent =
    if rules.required then .error (rules.fail (.missing key)) else .ok type.default := by
  rw [bind, hnone]

theorem AllowsAll.bind_repeated_eq_ok_iff (h : rules.AllowsAll)
    (hsent : sent.filter (· ≠ "") ≠ [] ∨ rules.required = false) :
    rules.bind (.repeated type) key sent = .ok v ↔ ∃ vs, v = .many vs ∧
      List.Forall₂ (fun s w => rules.bind type key [s] = .ok w) (sent.filter (· ≠ "")) vs := by
  by_cases hnone : sent.filter (· ≠ "") = []
  · have hrequired : rules.required = false := hsent.resolve_left (not_not.mpr hnone)
    have hbind : rules.bind (.repeated type) key sent = .ok (.many []) := by
      rw [bind_of_not_sent hnone, hrequired]
      rfl
    rw [hbind, hnone]
    simp only [List.forall₂_nil_left_iff, exists_eq_right, Except.ok.injEq, eq_comm]
  · rw [bind_of_sent hnone, h.bindSent_repeated_eq_ok_iff hnone]
    intro s hs
    exact of_decide_eq_true (List.mem_filter.mp hs).2

theorem AllowsAll.exists_bind_repeated_iff (h : rules.AllowsAll)
    (hsent : sent.filter (· ≠ "") ≠ [] ∨ rules.required = false) :
    (∃ v, rules.bind (.repeated type) key sent = .ok v) ↔
      ∀ s ∈ sent.filter (· ≠ ""), ∃ w, rules.bind type key [s] = .ok w := by
  simp only [h.bind_repeated_eq_ok_iff hsent]
  constructor
  · rintro ⟨v, vs, -, hvs⟩ s hs
    obtain ⟨w, -, hw⟩ := exists_right_of_forall₂ hvs hs
    exact ⟨w, hw⟩
  · intro hall
    obtain ⟨vs, hvs⟩ := exists_forall₂ hall
    exact ⟨.many vs, vs, rfl, hvs⟩

/-! ## Parameters without lists -/

/-- Once all texts match the pattern, only the last one counts. -/
theorem bindSent_last (hlist : type.hasList = false) (hlast : sent.getLast? = some s)
    (hadmits : ∀ t ∈ sent, rules.Admits t) :
    rules.bindSent type key sent = rules.bindSent type key [s] := by
  have hs : ∀ t ∈ [s], rules.Admits t :=
    List.forall_mem_singleton.mpr (hadmits s (List.mem_of_getLast? hlast))
  rw [bindSent_eq_checkTexts, bindSent_eq_checkTexts, checkTexts_eq_ok_iff.mpr hadmits,
    checkTexts_eq_ok_iff.mpr hs, readChecked, readChecked, ParameterType.read_last hlist hlast]

end Rules

/-- How a parameter of a nested type is bound.

An optional parameter is bound as one of the type inside it: to the same value, which is present, or with
the same failure.  When nothing is sent, both are missing if the parameter is required, and otherwise the
optional one is absent.

Without rules for its length, zero and range, a repeated parameter is bound if and only if each text that
is sent is bound alone, and it is bound to these values in their order; a required one has to be sent.

A parameter without lists is bound as if its last text were the only one, once all texts match the
pattern. -/
theorem Rules.bind_nested (rules : Rules) (type : ParameterType) (c : Context) (position : Position)
    (key : String) :
    (c.sent position key ≠ [] →
      rules.bind (.optional type) key (c.values position key) =
        (rules.bind type key (c.values position key)).map .present) ∧
    (c.sent position key = [] →
      (rules.required = true →
        rules.bind type key (c.values position key) = .error (rules.fail (.missing key)) ∧
        rules.bind (.optional type) key (c.values position key) =
          .error (rules.fail (.missing key))) ∧
      (rules.required = false →
        rules.bind (.optional type) key (c.values position key) = .ok .absent)) ∧
    (rules.nonzero = false → rules.len = none → rules.range = none →
      (c.sent position key ≠ [] ∨ rules.required = false →
        ((∃ v, rules.bind (.repeated type) key (c.values position key) = .ok v) ↔
          ∀ s ∈ c.sent position key, ∃ w, rules.bind type key [s] = .ok w) ∧
        ∀ v, rules.bind (.repeated type) key (c.values position key) = .ok v ↔
          ∃ vs, v = .many vs ∧
            List.Forall₂ (fun s w => rules.bind type key [s] = .ok w) (c.sent position key) vs) ∧
      (c.sent position key = [] → rules.required = true →
        rules.bind (.repeated type) key (c.values position key) =
          .error (rules.fail (.missing key)))) ∧
    (type.hasList = false → ∀ s, (c.sent position key).getLast? = some s →
      (∀ t ∈ c.sent position key, rules.Admits t) →
      rules.bind type key (c.values position key) = rules.bind type key [s]) := by
  have hmissing : c.sent position key = [] → rules.required = true → ∀ t : ParameterType,
      rules.bind t key (c.values position key) = .error (rules.fail (.missing key)) := by
    intro hnone hrequired t
    rw [bind_of_not_sent hnone, if_pos hrequired]
  refine ⟨?_, ?_, ?_, ?_⟩
  · intro hsent
    rw [bind_of_sent hsent, bind_of_sent hsent, bindSent_optional]
  · intro hnone
    refine ⟨fun hrequired => ⟨hmissing hnone hrequired _, hmissing hnone hrequired _⟩, ?_⟩
    intro hrequired
    rw [bind_of_not_sent hnone, hrequired]
    rfl
  · intro hnonzero hlen hrange
    have hall : rules.AllowsAll := ⟨hnonzero, hlen, hrange⟩
    refine ⟨fun hsent => ?_, fun hnone hrequired => hmissing hnone hrequired _⟩
    exact ⟨hall.exists_bind_repeated_iff hsent, fun v => hall.bind_repeated_eq_ok_iff hsent⟩
  · intro hlist s hlast hadmits
    have hmem : s ∈ c.sent position key := List.mem_of_getLast? hlast
    have hs : s ≠ "" := of_decide_eq_true (List.mem_filter.mp hmem).2
    rw [bind_of_sent (List.ne_nil_of_mem hmem), bind_singleton hs]
    exact bindSent_last hlist hlast hadmits

/-- Digits that have to be sent. -/
def digitRules : Rules := { required := true, pattern := some "^[0-9]+$" }

/-- A request with two counts and an empty text between them. -/
def countsRequest : Context :=
  { method := "GET", target := default, headers := [],
    query := [("a", "7"), ("a", ""), ("a", "12")] }

theorem Rules.bind_nested_counts :
    digitRules.bind (.repeated (.optional countType)) "a" (countsRequest.values .query "a") =
        .ok (.many [.present (.integer 7), .present (.integer 12)]) ∧
      digitRules.bind (.optional countType) "a" (countsRequest.values .query "a") =
        .ok (.present (.integer 12)) := by
  have hsent : countsRequest.sent .query "a" = ["7", "12"] := by decide
  have hne : countsRequest.sent .query "a" ≠ [] := hsent ▸ List.cons_ne_nil _ _
  have hadmits : ∀ t ∈ countsRequest.sent .query "a", digitRules.Admits t :=
    checkTexts_eq_ok_iff.mp (rfl : digitRules.checkTexts "a" _ = .ok ())
  obtain ⟨hoptional, -, -, hlast⟩ := bind_nested digitRules countType countsRequest .query "a"
  obtain ⟨-, -, hrepeated, -⟩ :=
    bind_nested digitRules (.optional countType) countsRequest .query "a"
  constructor
  · refine (((hrepeated rfl rfl rfl).1 (Or.inl hne)).2 _).mpr ⟨_, rfl, ?_⟩
    rw [hsent]
    exact .cons rfl (.cons rfl .nil)
  · rw [hoptional hne, hlast rfl "12" (by rw [hsent]; rfl) hadmits]
    rfl

/-- A list that has to be sent is not bound when nothing is sent, though nothing that is sent fails. -/
theorem not_bound_required :
    ¬ ∀ (rules : Rules) (type : ParameterType) (c : Context) (position : Position) (key : String),
      rules.nonzero = false → rules.len = none → rules.range = none →
      ((∃ v, rules.bind (.repeated type) key (c.values position key) = .ok v) ↔
        ∀ s ∈ c.sent position key, ∃ w, rules.bind type key [s] = .ok w) := by
  intro h
  have hnone : ∀ s ∈ countsRequest.sent .query "b", ∃ w, digitRules.bind countType "b" [s] = .ok w :=
    fun s hs => absurd hs List.not_mem_nil
  obtain ⟨v, hv⟩ := (h digitRules countType countsRequest .query "b" rfl rfl rfl).mpr hnone
  cases hv

end RouteWorks
