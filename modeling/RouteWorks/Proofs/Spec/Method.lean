import RouteWorks.Proofs.Fallible
import RouteWorks.Proofs.Text.Ascii
import RouteWorks.Proofs.Text.Joined
import RouteWorks.Spec.Method

/-!
# Methods that are listed

A list of tokens spells a sequence of parts: the pieces of the tokens that have no separator
(`SpellsAll`).  Reading goes through the parts in order.  `FirstMentions` is what a reader has after some
of them: each method that was mentioned, where it was first mentioned.  One part keeps it
(`FirstMentions.insert`), hence so do all parts together; the first part that is no method stops the
reader (`readParts_cases`).
-/

namespace RouteWorks.Method

open Text (splitWhen asciiLower asciiUpper)

variable {m m' : Method} {part : String}

/-! ## Names -/

/-- A part names a method when the two differ at most in the case of ASCII letters. -/
def IsNamed (m : Method) (part : String) : Prop := asciiLower part = asciiLower m.text

instance (m : Method) (part : String) : Decidable (m.IsNamed part) :=
  inferInstanceAs (Decidable (_ = _))

theorem mem_all (m : Method) : m ∈ all := by
  cases m <;> decide

theorem text_inj (h : m.text = m'.text) : m = m' :=
  (by decide : ∀ m ∈ all, ∀ m' ∈ all, m.text = m'.text → m = m') m (mem_all m) m' (mem_all m') h

theorem asciiUpper_text (m : Method) : asciiUpper m.text = m.text := by
  cases m <;> decide

theorem isNamed_iff : m.IsNamed part ↔ asciiUpper part = m.text := by
  constructor
  · intro h
    rw [← Text.asciiUpper_asciiLower, h, Text.asciiUpper_asciiLower, asciiUpper_text]
  · intro h
    rw [IsNamed, ← Text.asciiLower_asciiUpper, h]

theorem isNamed_text (m : Method) : m.IsNamed m.text := rfl

/-- A part names one method at most. -/
theorem IsNamed.unique (h : m.IsNamed part) (h' : m'.IsNamed part) : m = m' :=
  text_inj ((isNamed_iff.mp h).symm.trans (isNamed_iff.mp h'))

theorem ofText?_eq_some_iff : ofText? part = some m ↔ m.IsNamed part := by
  rw [isNamed_iff, ofText?]
  constructor
  · intro h
    have htext : m.text = asciiUpper part := by simpa using List.find?_some h
    exact htext.symm
  · intro h
    have hsome : (all.find? fun m' => m'.text == asciiUpper part).isSome = true := by
      rw [List.find?_isSome]
      exact ⟨m, mem_all m, by simp [h]⟩
    obtain ⟨m', hm'⟩ := Option.isSome_iff_exists.mp hsome
    have htext : m'.text = asciiUpper part := by simpa using List.find?_some hm'
    rw [hm', text_inj (htext.trans h)]

theorem ofText?_eq_none_iff : ofText? part = none ↔ ¬ ∃ m : Method, m.IsNamed part := by
  simp [Option.eq_none_iff_forall_ne_some, ofText?_eq_some_iff]

/-! ## Spelling -/

/-- Characters that stand for a part. -/
structure IsPart (w : List Char) : Prop where
  ne_nil : w ≠ []
  no_separator : ∀ c ∈ w, isSeparator c = false

/-- A token spells the parts between its separators.  It can have any number of separators in front of a
part and at its end; two parts have at least one between them. -/
inductive Spells : List Char → List String → Prop
  | nil : Spells [] []
  | separator {c : Char} {cs : List Char} {ps : List String} (hc : isSeparator c = true)
      (h : Spells cs ps) : Spells (c :: cs) ps
  | last {w : List Char} (hw : IsPart w) : Spells w [String.ofList w]
  | part {w : List Char} {c : Char} {cs : List Char} {ps : List String} (hw : IsPart w)
      (hc : isSeparator c = true) (h : Spells cs ps) : Spells (w ++ c :: cs) (String.ofList w :: ps)

/-- A list of tokens spells the parts of each token in order. -/
inductive SpellsAll : List String → List String → Prop
  | nil : SpellsAll [] []
  | cons {token : String} {tokens ps ps' : List String} (h : Spells token.toList ps)
      (h' : SpellsAll tokens ps') : SpellsAll (token :: tokens) (ps ++ ps')

/-- The pieces of a token that are not empty. -/
def pieces (cs : List Char) : List String :=
  ((splitWhen isSeparator cs).map String.ofList).filter (· ≠ "")

theorem pieces_separator {c : Char} (hc : isSeparator c = true) (cs : List Char) :
    pieces (c :: cs) = pieces cs := by
  simp [pieces, Text.splitWhen_cons, hc]

theorem IsPart.pieces_eq {w : List Char} (hw : IsPart w) : pieces w = [String.ofList w] := by
  simp [pieces, Text.splitWhen_of_forall_not hw.no_separator, hw.ne_nil]

theorem IsPart.pieces_append {w : List Char} (hw : IsPart w) {c : Char} (hc : isSeparator c = true)
    (cs : List Char) : pieces (w ++ c :: cs) = String.ofList w :: pieces cs := by
  simp [pieces, Text.splitWhen_append hw.no_separator hc, hw.ne_nil]

theorem Spells.pieces_eq {cs : List Char} {ps : List String} (h : Spells cs ps) : pieces cs = ps := by
  induction h with
  | nil => rfl
  | separator hc _ ih => rw [pieces_separator hc, ih]
  | last hw => exact hw.pieces_eq
  | part hw hc _ ih => rw [hw.pieces_append hc, ih]

/-- A token spells its pieces, also when some characters without separator have been read before. -/
theorem spells_append_pieces {w : List Char} (hw : ∀ c ∈ w, isSeparator c = false) (cs : List Char) :
    Spells (w ++ cs) (pieces (w ++ cs)) := by
  induction cs generalizing w with
  | nil =>
      rw [List.append_nil]
      by_cases hne : w = []
      · subst hne
        exact .nil
      · have hpart : IsPart w := ⟨hne, hw⟩
        rw [hpart.pieces_eq]
        exact .last hpart
  | cons c cs ih =>
      by_cases hc : isSeparator c = true
      · have hrest : Spells cs (pieces cs) := ih fun _ h => absurd h List.not_mem_nil
        by_cases hne : w = []
        · subst hne
          rw [List.nil_append, pieces_separator hc]
          exact .separator hc hrest
        · have hpart : IsPart w := ⟨hne, hw⟩
          rw [hpart.pieces_append hc]
          exact .part hpart hc hrest
      · -- the character goes on with the part
        have hw' : ∀ d ∈ w ++ [c], isSeparator d = false := by
          intro d hd
          rcases List.mem_append.mp hd with hd | hd
          · exact hw d hd
          · rw [List.mem_singleton.mp hd]
            simpa using hc
        simpa using ih hw'

theorem spells_iff {cs : List Char} {ps : List String} : Spells cs ps ↔ pieces cs = ps := by
  constructor
  · exact Spells.pieces_eq
  · rintro rfl
    exact spells_append_pieces (fun _ h => absurd h List.not_mem_nil) cs

theorem parts_cons (token : String) (tokens : List String) :
    parts (token :: tokens) = pieces token.toList ++ parts tokens := rfl

/-- The parts of some tokens are what they spell. -/
theorem spellsAll_iff {tokens ps : List String} : SpellsAll tokens ps ↔ parts tokens = ps := by
  constructor
  · intro h
    induction h with
    | nil => rfl
    | cons h _ ih => rw [parts_cons, h.pieces_eq, ih]
  · rintro rfl
    induction tokens with
    | nil => exact .nil
    | cons token tokens ih => exact .cons (spells_iff.mpr rfl) ih

/-! ## Where a reader stops -/

/-- Reads one part. -/
def readPart (ms : List Method) (part : String) : Except Fault (List Method) :=
  match ofText? part with
  | none => .error (.invalidMethod part)
  | some m => .ok (insert ms m)

theorem readParts_eq_foldlM (ms : List Method) (ps : List String) :
    readParts ms ps = ps.foldlM readPart ms := by
  induction ps generalizing ms with
  | nil => rfl
  | cons part ps ih =>
      rw [List.foldlM_cons, readParts, readPart]
      cases ofText? part with
      | none => rfl
      | some m => exact ih (insert ms m)

theorem readParts_cons_of_isNamed (h : m.IsNamed part) (ms : List Method) (ps : List String) :
    readParts ms (part :: ps) = readParts (insert ms m) ps := by
  rw [readParts, ofText?_eq_some_iff.mpr h]

theorem readParts_cons_of_not (h : ¬ ∃ m : Method, m.IsNamed part) (ms : List Method)
    (ps : List String) : readParts ms (part :: ps) = .error (.invalidMethod part) := by
  rw [readParts, ofText?_eq_none_iff.mpr h]

/-- All parts name methods and are read, or the reader stops at the first that does not. -/
theorem readParts_cases (ms : List Method) (ps : List String) :
    ((∀ part ∈ ps, ∃ m : Method, m.IsNamed part) ∧ ∃ ms', readParts ms ps = .ok ms') ∨
      ∃ before part after, ps = before ++ part :: after ∧
        (∀ p ∈ before, ∃ m : Method, m.IsNamed p) ∧ (¬ ∃ m : Method, m.IsNamed part) ∧
        readParts ms ps = .error (.invalidMethod part) := by
  rw [readParts_eq_foldlM]
  refine foldlM_cases (fun part => ∃ m : Method, m.IsNamed part) ?_ ?_ ps ms
  · rintro ms part ⟨m, hm⟩
    rw [readPart, ofText?_eq_some_iff.mpr hm]
    exact ⟨insert ms m, rfl⟩
  · intro ms part h
    rw [readPart, ofText?_eq_none_iff.mpr h]

theorem exists_readParts_iff {ms : List Method} {ps : List String} :
    (∃ ms', readParts ms ps = .ok ms') ↔ ∀ part ∈ ps, ∃ m : Method, m.IsNamed part := by
  rcases readParts_cases ms ps with ⟨hall, hok⟩ | ⟨before, part, after, rfl, -, hpart, herror⟩
  · exact iff_of_true hok hall
  · rw [herror]
    refine iff_of_false (not_exists_ok _) fun hall => hpart (hall part ?_)
    simp

/-- What is behind the first part that is no method does not matter. -/
theorem readParts_append_error {before : List String} {part : String}
    (hbefore : ∀ p ∈ before, ∃ m : Method, m.IsNamed p) (hpart : ¬ ∃ m : Method, m.IsNamed part)
    (ms : List Method) (after : List String) :
    readParts ms (before ++ part :: after) = .error (.invalidMethod part) := by
  induction before generalizing ms with
  | nil => exact readParts_cons_of_not hpart ms after
  | cons p before ih =>
      rw [List.forall_mem_cons] at hbefore
      obtain ⟨⟨m, hm⟩, hrest⟩ := hbefore
      rw [List.cons_append, readParts_cons_of_isNamed hm]
      exact ih hrest (insert ms m)

theorem readParts_eq_error_iff {ms : List Method} {ps : List String} {fault : Fault} :
    readParts ms ps = .error fault ↔ ∃ before part after, ps = before ++ part :: after ∧
      (∀ p ∈ before, ∃ m : Method, m.IsNamed p) ∧ (¬ ∃ m : Method, m.IsNamed part) ∧
      fault = .invalidMethod part := by
  constructor
  · intro h
    rcases readParts_cases ms ps with ⟨-, ms', hok⟩ | ⟨before, part, after, hps, hbefore, hpart, herror⟩
    · rw [hok] at h
      cases h
    · rw [herror, Except.error.injEq] at h
      exact ⟨before, part, after, hps, hbefore, hpart, h.symm⟩
  · rintro ⟨before, part, after, rfl, hbefore, hpart, rfl⟩
    exact readParts_append_error hbefore hpart ms after

/-! ## First mentions -/

theorem insert_of_mem {ms : List Method} (h : m ∈ ms) : insert ms m = ms := by
  simp [insert, h]

theorem insert_of_not_mem {ms : List Method} (h : m ∉ ms) : insert ms m = ms ++ [m] := by
  simp [insert, h]

theorem mem_insert {ms : List Method} : m' ∈ insert ms m ↔ m' ∈ ms ∨ m' = m := by
  by_cases h : m ∈ ms
  · rw [insert_of_mem h]
    refine ⟨Or.inl, Or.rec id ?_⟩
    rintro rfl
    exact h
  · simp [insert_of_not_mem h]

/-- The number of the first part that names a method; the number of all parts when there is none. -/
def firstMention (ps : List String) (m : Method) : Nat := ps.findIdx fun part => m.IsNamed part

theorem firstMention_lt_iff {ps : List String} :
    firstMention ps m < ps.length ↔ ∃ part ∈ ps, m.IsNamed part := by
  simp [firstMention, List.findIdx_lt_length]

/-- Further parts do not change where a method is mentioned first. -/
theorem firstMention_append_of_mem {ps : List String} (h : ∃ part ∈ ps, m.IsNamed part)
    (ps' : List String) : firstMention (ps ++ ps') m = firstMention ps m := by
  have hlt := firstMention_lt_iff.mpr h
  simp only [firstMention] at hlt ⊢
  rw [List.findIdx_append, if_pos hlt]

theorem le_firstMention_append {ps : List String} (h : ¬ ∃ part ∈ ps, m.IsNamed part)
    (ps' : List String) : ps.length ≤ firstMention (ps ++ ps') m := by
  have hnot := mt firstMention_lt_iff.mp h
  simp only [firstMention] at hnot ⊢
  rw [List.findIdx_append, if_neg hnot]
  omega

/-- The methods that are mentioned in some parts, in the order of their first mention. -/
structure FirstMentions (ps : List String) (ms : List Method) : Prop where
  mem_iff : ∀ m : Method, m ∈ ms ↔ ∃ part ∈ ps, m.IsNamed part
  in_order : ms.Pairwise fun m m' => firstMention ps m < firstMention ps m'

namespace FirstMentions

variable {ps ps' : List String} {ms ms' : List Method}

theorem nil : FirstMentions [] [] where
  mem_iff := by simp
  in_order := .nil

theorem nodup (h : FirstMentions ps ms) : ms.Nodup :=
  h.in_order.imp fun hlt heq => Nat.ne_of_lt hlt (congrArg _ heq)

/-- The order among methods that have been mentioned stays. -/
theorem in_order_append (h : FirstMentions ps ms) (ps' : List String) :
    ms.Pairwise fun m m' => firstMention (ps ++ ps') m < firstMention (ps ++ ps') m' := by
  refine h.in_order.imp_of_mem fun {m m'} hm hm' hlt => ?_
  rw [firstMention_append_of_mem ((h.mem_iff m).mp hm),
    firstMention_append_of_mem ((h.mem_iff m').mp hm')]
  exact hlt

/-- A part that names a method brings it in, unless it has been mentioned before. -/
theorem insert (h : FirstMentions ps ms) (hm : m.IsNamed part) :
    FirstMentions (ps ++ [part]) (Method.insert ms m) where
  mem_iff m' := by
    have hnamed : m'.IsNamed part ↔ m' = m := ⟨fun h' => h'.unique hm, fun h' => h' ▸ hm⟩
    simp only [mem_insert, h.mem_iff, List.mem_append, List.mem_singleton, or_and_right, exists_or,
      exists_eq_left, hnamed]
  in_order := by
    by_cases hmem : m ∈ ms
    · rw [insert_of_mem hmem]
      exact h.in_order_append [part]
    · rw [insert_of_not_mem hmem, List.pairwise_append]
      refine ⟨h.in_order_append [part], List.pairwise_singleton _ m, fun a ha b hb => ?_⟩
      -- the others have been mentioned in the parts before
      rw [List.mem_singleton.mp hb]
      have hbefore := (h.mem_iff a).mp ha
      have hlt := firstMention_lt_iff.mpr hbefore
      have hle := le_firstMention_append (mt (h.mem_iff m).mpr hmem) [part]
      rw [firstMention_append_of_mem hbefore]
      omega

/-- Reading goes on with the first mentions of the parts before. -/
theorem readParts (h : FirstMentions ps ms) (hrun : Method.readParts ms ps' = .ok ms') :
    FirstMentions (ps ++ ps') ms' := by
  induction ps' generalizing ps ms with
  | nil =>
      cases hrun
      rwa [List.append_nil]
  | cons part ps' ih =>
      obtain ⟨m, hm⟩ := exists_readParts_iff.mp ⟨ms', hrun⟩ part List.mem_cons_self
      rw [readParts_cons_of_isNamed hm] at hrun
      simpa using ih (h.insert hm) hrun

end FirstMentions

/-! ## Reading what was rendered -/

theorem no_separator_text (m : Method) : ∀ c ∈ m.text.toList, isSeparator c = false := by
  have hany : m.text.toList.any isSeparator = false := by
    cases m <;> decide
  simpa using hany

theorem text_ne_empty (m : Method) : m.text ≠ "" := by
  cases m <;> decide

/-- The rendered methods are parts of their own. -/
theorem parts_render {ms : List Method} (hne : ms ≠ []) : parts [render ms] = ms.map text := by
  have hparts : ∀ part ∈ ms.map text, ∀ c ∈ part.toList, isSeparator c = false := by
    intro part hpart
    obtain ⟨m, -, rfl⟩ := List.mem_map.mp hpart
    exact no_separator_text m
  have hsplit : Text.split isSeparator (Text.join "|" (ms.map text)) = ms.map text :=
    Text.split_join '|' rfl (by simpa using hne) hparts
  have hkeep : (ms.map text).filter (· ≠ "") = ms.map text := by
    rw [List.filter_eq_self]
    intro part hpart
    obtain ⟨m, -, rfl⟩ := List.mem_map.mp hpart
    simpa using text_ne_empty m
  have hrender : render ms = Text.join "|" (ms.map text) := by
    simp [render, hne]
  rw [hrender, parts, List.flatMap_singleton, hsplit, hkeep]

theorem readParts_texts {ms rest : List Method} (h : (ms ++ rest).Nodup) :
    readParts ms (rest.map text) = .ok (ms ++ rest) := by
  induction rest generalizing ms with
  | nil =>
      rw [List.append_nil]
      rfl
  | cons m rest ih =>
      have hmem : m ∉ ms := fun hm => (List.nodup_append.mp h).2.2 m hm m List.mem_cons_self rfl
      rw [List.map_cons, readParts_cons_of_isNamed (isNamed_text m), insert_of_not_mem hmem]
      have hrest : ((ms ++ [m]) ++ rest).Nodup := by simpa using h
      simpa using ih hrest

/-! ## Lists of tokens -/

/-- What is read from a list of tokens.

The tokens spell a sequence of parts.  They are read if and only if every part names a method; otherwise
the first part that does not is refused as it is written.  What is read are the methods that are mentioned,
each of them once and in the order of their first mention; they are read again from the text that they are
rendered to.  All tokens that spell the same sequence are read alike. -/
theorem readTokens_mentions (tokens : List String) :
    SpellsAll tokens (parts tokens) ∧
    ((∃ ms, readTokens tokens = .ok ms) ↔ ∀ part ∈ parts tokens, ∃ m : Method, m.IsNamed part) ∧
    (∀ fault, readTokens tokens = .error fault ↔
      ∃ before part after, parts tokens = before ++ part :: after ∧
        (∀ p ∈ before, ∃ m : Method, m.IsNamed p) ∧ (¬ ∃ m : Method, m.IsNamed part) ∧
        fault = .invalidMethod part) ∧
    (∀ ms, readTokens tokens = .ok ms →
      FirstMentions (parts tokens) ms ∧ ms.Nodup ∧ (ms ≠ [] → readTokens [render ms] = .ok ms)) ∧
    ∀ tokens', SpellsAll tokens' (parts tokens) → readTokens tokens' = readTokens tokens := by
  refine ⟨spellsAll_iff.mpr rfl, exists_readParts_iff, fun fault => readParts_eq_error_iff, ?_, ?_⟩
  · intro ms hms
    have hfirst : FirstMentions (parts tokens) ms := FirstMentions.nil.readParts hms
    refine ⟨hfirst, hfirst.nodup, fun hne => ?_⟩
    have htexts : readParts [] (ms.map text) = .ok ms := readParts_texts hfirst.nodup
    rwa [readTokens, parts_render hne]
  · intro tokens' h
    rw [readTokens, readTokens, spellsAll_iff.mp h]

example : readTokens ["get POST", "Get|put,post"] = .ok [.get, .post, .put] := by decide

end RouteWorks.Method
