import RouteWorks.Handler.Bind
import RouteWorks.Proofs.Parameter.Binding

/-!
# What a field says when it cannot be bound

A field can have words of its own for whatever goes wrong with it.  All failures are reported in these
words but one: when a value was sent and the pattern of the field is no regular expression, the bad
pattern itself is reported (`Slot.bind_wording`).
-/

namespace RouteWorks

namespace Rules

variable {rules : Rules} {key message : String} {e : BindFault}

/-- A field has a pattern that is no regular expression. -/
def HasBadPattern (rules : Rules) : Prop :=
  ∃ pattern, rules.pattern = some pattern ∧ Pattern.ofText? pattern = none

theorem fail_eq (h : rules.error = some message) (fault : BindFault) :
    rules.fail fault = .custom message := by
  rw [fail, h]
  rfl

/-! ## Parameters -/

section Parameters

variable {type : ParameterType} {sent : List String}

theorem checkPattern_eq_error (h : rules.error = some message) {pattern text : String}
    (hpattern : Pattern.ofText? pattern ≠ none)
    (he : rules.checkPattern key pattern text = .error e) : e = .custom message := by
  unfold checkPattern at he
  split at he
  · rename_i hnone
    exact absurd hnone hpattern
  · split at he
    · cases he
    · rw [fail_eq h] at he
      exact (Except.error.inj he).symm

/-- What is behind the pattern fails in the words of the field. -/
theorem readSent_eq_error (h : rules.error = some message)
    (he : (do
      let v ← (type.read key sent).mapError fun e => rules.fail (.invalid key (.unreadable e))
      (checkValue rules v).mapError fun e => rules.fail (.invalid key e)
      return v) = Except.error e) : e = .custom message := by
  rcases bind_eq_error he with hread | ⟨v, -, hvalue⟩
  · obtain ⟨fault, -, rfl⟩ := mapError_eq_error hread
    exact fail_eq h _
  · rcases bind_eq_error hvalue with hcheck | ⟨-, -, hpure⟩
    · obtain ⟨refusal, -, rfl⟩ := mapError_eq_error hcheck
      exact fail_eq h _
    · cases hpure

theorem bindSent_eq_error (h : rules.error = some message) (hgood : ¬ rules.HasBadPattern)
    (he : rules.bindSent type key sent = .error e) : e = .custom message := by
  rw [bindSent] at he
  split at he
  · rename_i pattern hpattern
    rcases bind_eq_error he with hcheck | ⟨_, -, hrest⟩
    · obtain ⟨text, -, htext⟩ := forM_eq_error hcheck
      exact checkPattern_eq_error h (fun hnone => hgood ⟨pattern, hpattern, hnone⟩) htext
    · exact readSent_eq_error h hrest
  · exact readSent_eq_error h he

/-- A bad pattern is found at the first text that is sent. -/
theorem bindSent_of_badPattern (hbad : rules.HasBadPattern) (hne : sent ≠ []) :
    rules.bindSent type key sent = .error (.invalid key .badPattern) := by
  obtain ⟨pattern, hpattern, hnone⟩ := hbad
  cases sent with
  | nil => exact absurd rfl hne
  | cons text rest =>
      have hcheck : rules.checkPattern key pattern text = .error (.invalid key .badPattern) := by
        rw [checkPattern, hnone]
      rw [bindSent, hpattern]
      change (rules.checkPattern key pattern text >>= fun _ => rest.forM _) >>= _ = _
      rw [hcheck]
      rfl

/-- A parameter fails in the words of the field, unless a text was sent that a bad pattern has to match. -/
theorem bind_eq_error (h : rules.error = some message)
    (hgood : ¬ (rules.HasBadPattern ∧ sent.filter (· ≠ "") ≠ []))
    (he : rules.bind type key sent = .error e) : e = .custom message := by
  rw [bind] at he
  split at he
  · split at he
    · rw [fail_eq h] at he
      exact (Except.error.inj he).symm
    · cases he
  · rename_i hsent
    refine bindSent_eq_error h (fun hbad => hgood ⟨hbad, ?_⟩) he
    exact hsent

theorem bind_of_badPattern (hbad : rules.HasBadPattern) (hne : sent.filter (· ≠ "") ≠ []) :
    rules.bind type key sent = .error (.invalid key .badPattern) := by
  rw [bind]
  split
  · rename_i hnone
    exact absurd hnone hne
  · exact bindSent_of_badPattern hbad hne

end Parameters

/-! ## Files and bodies -/

theorem bindFiles_eq_error (h : rules.error = some message) {files : List UploadedFile}
    (he : rules.bindFiles key files = .error e) : e = .custom message := by
  unfold bindFiles at he
  simp only [fail_eq h] at he
  split at he
  · exact (Except.error.inj he).symm
  · split at he
    · cases he
    · split at he
      · exact (Except.error.inj he).symm
      · cases he

theorem bindBody_eq_error {α : Type} (h : rules.error = some message) {read : Json → Option α}
    {default : α} {body : ByteArray} (he : rules.bindBody key read default body = .error e) :
    e = .custom message := by
  unfold bindBody at he
  simp only [fail_eq h] at he
  split at he
  · split at he
    · exact (Except.error.inj he).symm
    · cases he
  · split at he
    · cases he
    · exact (Except.error.inj he).symm

end Rules

namespace Slot

/-- A field is a parameter with a pattern that is no regular expression, and a text was sent for it. -/
def MeetsBadPattern (slot : Slot) (c : Context) : Prop :=
  slot.rules.HasBadPattern ∧
    ∃ position type, slot.kind = .parameter position type ∧ c.sent position slot.key ≠ []

theorem bind_of_badPattern {slot : Slot} {c : Context} (h : slot.MeetsBadPattern c) :
    slot.bind c = .error (.invalid slot.key .badPattern) := by
  obtain ⟨hbad, position, type, hkind, hsent⟩ := h
  rw [bind, hkind]
  exact map_eq_error_iff.mpr (Rules.bind_of_badPattern hbad hsent)

/-- A field with words of its own answers in these words whatever goes wrong with it: a missing value, one
that cannot be read or breaks a rule, a file that is too large, or a bad body.  Only where a text was sent
and the pattern is no regular expression, it answers that the pattern is bad. -/
theorem bind_wording (slot : Slot) (c : Context) {message : String}
    (h : slot.rules.error = some message) :
    (∀ e, ¬ slot.MeetsBadPattern c → slot.bind c = .error e → e = .custom message) ∧
    (slot.MeetsBadPattern c → slot.bind c = .error (.invalid slot.key .badPattern)) := by
  refine ⟨?_, bind_of_badPattern⟩
  intro e hgood he
  rw [bind] at he
  split at he
  · rename_i position type hkind
    refine Rules.bind_eq_error h ?_ (map_eq_error_iff.mp he)
    exact fun hbad => hgood ⟨hbad.1, position, type, hkind, hbad.2⟩
  · exact Rules.bindFiles_eq_error h (map_eq_error_iff.mp he)
  · exact Rules.bindBody_eq_error h (map_eq_error_iff.mp he)
  · cases he

/-- An age with words of its own. -/
def ageSlot : Slot where
  name := "age"
  key := "age"
  kind := .parameter .query (.integer "u8" ⟨false, 8⟩)
  rules := { range := some "0:150", error := some "age is out of range" }

/-- A request with an age that no number of eight bits is. -/
def ageRequest : Context :=
  { method := "GET", target := default, headers := [], query := [("age", "300")] }

theorem bind_wording_age : ageSlot.rules.error = some "age is out of range" ∧
    ageSlot.bind ageRequest = .error (.custom "age is out of range") := by
  have hgood : ¬ ageSlot.MeetsBadPattern ageRequest := by
    rintro ⟨⟨pattern, hpattern, -⟩, -⟩
    cases hpattern
  refine ⟨rfl, ?_⟩
  cases hbind : ageSlot.bind ageRequest with
  | error e => rw [(bind_wording ageSlot ageRequest rfl).1 e hgood hbind]
  | ok v =>
      have hrefused : (ageSlot.bind ageRequest).toBool = false := by decide +kernel
      rw [hbind] at hrefused
      cases hrefused

/-- A text with a pattern that is a bracket alone. -/
def bracketSlot : Slot where
  name := "q"
  key := "q"
  kind := .parameter .query .text
  rules := { pattern := some "(", error := some "bad query" }

/-- A request that sends this text. -/
def bracketRequest : Context :=
  { method := "GET", target := default, headers := [], query := [("q", "x")] }

/-- The words of a field do not replace the report of a bad pattern. -/
theorem not_custom_bracket :
    ¬ ∀ (slot : Slot) (c : Context) (message : String) (e : BindFault),
      slot.rules.error = some message → slot.bind c = .error e → e = .custom message := by
  intro h
  have hbad : bracketSlot.MeetsBadPattern bracketRequest :=
    ⟨⟨"(", rfl, by decide +kernel⟩, .query, .text, rfl, by decide⟩
  cases h bracketSlot bracketRequest "bad query" _ rfl (bind_of_badPattern hbad)

end Slot

end RouteWorks
