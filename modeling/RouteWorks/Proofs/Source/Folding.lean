import RouteWorks.Proofs.Source.Location
import RouteWorks.Proofs.Text.Blank

/-!
# Spellings of a location

A path that is read is walked part by part from the root, and the location is where the walk ends
(`leads_iff`).  Empty parts and dots stay where they are, two dots go up as long as there is something
above, and any other part goes down.  So the location has one text, in normal form, whatever the spelling is,
and reading a path behind another leads on from where the first one ends (`resolve_folds`).
-/

namespace RouteWorks.Location

open Text

variable {l l' : Location} {part : String} {parts : List String} {base a b : String}

/-! ## Walking down from the root -/

/-- The location that has no parts. -/
def root : Location := ⟨[]⟩

/-- Where a part of a path leads. -/
inductive Step : Location → String → Location → Prop
  | stay {l : Location} {part : String} (hpart : part = "" ∨ part = ".") : Step l part l
  /-- There is nothing above the root. -/
  | top : Step root ".." root
  | up {l : Location} {part : String} : Step (l.below [part]) ".." l
  | enter {l : Location} {part : String} (hpart : ¬ (part = "" ∨ part = ".")) (hdots : part ≠ "..") :
      Step l part (l.below [part])

/-- Where the parts of a path lead. -/
inductive Leads : Location → List String → Location → Prop
  | nil {l : Location} : Leads l [] l
  | cons {l m l' : Location} {part : String} {parts : List String} (hstep : Step l part m)
      (hrest : Leads m parts l') : Leads l (part :: parts) l'

theorem descend_dots (parts : List String) : descend parts [".."] = parts.dropLast := by
  rw [descend, List.foldl_cons, List.foldl_nil]
  change parts.reverse.tail.reverse = _
  rw [List.tail_reverse, List.reverse_reverse]

theorem descend_enter (hpart : ¬ (part = "" ∨ part = ".")) (hdots : part ≠ "..") :
    descend parts [part] = parts ++ [part] := by
  rw [descend, List.foldl_cons, List.foldl_nil, step, if_neg hpart, if_neg hdots, List.reverse_cons,
    List.reverse_reverse]

theorem descend_stay (hpart : part = "" ∨ part = ".") : descend parts [part] = parts := by
  rw [descend, List.foldl_cons, List.foldl_nil, step, if_pos hpart, List.reverse_reverse]

/-- One part is folded to where it leads. -/
theorem step_iff : Step l part l' ↔ l' = ⟨descend l.parts [part]⟩ := by
  constructor
  · intro h
    cases h with
    | stay hpart => rw [descend_stay hpart]
    | top => rfl
    | up => rw [descend_dots, below, List.dropLast_concat]
    | enter hpart hdots => rw [descend_enter hpart hdots, below]
  · rintro rfl
    by_cases hpart : part = "" ∨ part = "."
    · rw [descend_stay hpart]
      exact .stay hpart
    by_cases hdots : part = ".."
    · subst hdots
      rw [descend_dots]
      rcases List.eq_nil_or_concat l.parts with hnil | ⟨front, last, hlast⟩
      · have hroot : l = root := by
          cases l
          cases hnil
          rfl
        rw [hroot]
        exact .top
      · have hbelow : l = (⟨front⟩ : Location).below [last] := by
          cases l
          rw [below, ← List.concat_eq_append, ← hlast]
        rw [hbelow, below, List.dropLast_concat]
        exact .up
    · rw [descend_enter hpart hdots]
      exact .enter hpart hdots

/-- Parts are folded to where they lead. -/
theorem leads_iff : Leads l parts l' ↔ l' = ⟨descend l.parts parts⟩ := by
  induction parts generalizing l with
  | nil =>
      rw [descend, List.foldl_nil, List.reverse_reverse]
      constructor
      · rintro ⟨⟩
        rfl
      · rintro rfl
        exact .nil
  | cons part parts ih =>
      have hcons : descend l.parts (part :: parts) = descend (descend l.parts [part]) parts :=
        descend_append l.parts [part] parts
      rw [hcons]
      constructor
      · intro h
        cases h with
        | cons hstep hrest =>
            rw [step_iff] at hstep
            subst hstep
            exact ih.mp hrest
      · intro h
        exact .cons (step_iff.mpr rfl) (ih.mpr h)

/-! ## Spellings -/

/-- Whether a text starts at the root. -/
def StartsAtRoot (raw : String) : Prop :=
  raw.toList.head? = some '/' ∨ raw.toList.head? = some '\\'

instance (raw : String) : Decidable (StartsAtRoot raw) := inferInstanceAs (Decidable (_ ∨ _))

/-- The parts, from the root down, that are spelled by a text that is read in a directory. -/
def spelling (base raw : String) : List String :=
  if StartsAtRoot (trim raw) then splitText (trim raw) else splitText base ++ splitText (trim raw)

theorem resolve_eq (base raw : String) : resolve base raw = ⟨descend [] (spelling base raw)⟩ := by
  rw [resolve, spelling]
  split
  · rename_i hhead
    have hroot : StartsAtRoot (trim raw) := Or.inl hhead
    rw [if_pos hroot]
    rfl
  · rename_i hhead
    have hroot : StartsAtRoot (trim raw) := Or.inr hhead
    rw [if_pos hroot]
    rfl
  · rename_i hslash hback
    have hrelative : ¬ StartsAtRoot (trim raw) := not_or.mpr ⟨hslash, hback⟩
    rw [if_neg hrelative]

theorem leads_spelling_iff : Leads root (spelling base a) l ↔ l = resolve base a := by
  rw [leads_iff, resolve_eq]
  rfl

theorem toList_append_slash (a b : String) :
    (a ++ "/" ++ b).toList = a.toList ++ '/' :: b.toList := by
  rw [String.toList_append, String.toList_append, List.append_assoc]
  rfl

/-- Trimmed texts with a separator between them are trimmed, even when nothing is behind it. -/
theorem trim_append_slash (hne : a ≠ "") (ha : trim a = a) (hb : trim b = b) :
    trim (a ++ "/" ++ b) = a ++ "/" ++ b := by
  have hne : a.toList ≠ [] := mt String.toList_eq_nil_iff.mp hne
  rw [trim, toList_append_slash, trimChars_eq_self, ← toList_append_slash, String.ofList_toList]
  · intro c hc
    rw [List.head?_append_of_ne_nil _ hne, ← trimChars_toList ha] at hc
    exact isBlank_head_trimChars hc
  · intro c hc
    rw [List.getLast?_append_of_ne_nil _ (List.cons_ne_nil _ _), List.getLast?_cons] at hc
    cases hlast : b.toList.getLast? with
    | none =>
        rw [hlast] at hc
        cases hc
        rfl
    | some d =>
        rw [hlast] at hc
        cases hc
        rw [← trimChars_toList hb] at hlast
        exact isBlank_getLast_trimChars hlast

theorem splitText_append_slash (a b : String) :
    splitText (a ++ "/" ++ b) = splitText a ++ splitText b := by
  rw [splitText, split, toList_append_slash, splitWhen_append_sep rfl, List.map_append]
  rfl

/-- What is written behind a path spells on. -/
theorem spelling_append (hne : a ≠ "") (ha : trim a = a) (hb : trim b = b) :
    spelling base (a ++ "/" ++ b) = spelling base a ++ splitText b := by
  have hhead : (a ++ "/" ++ b).toList.head? = a.toList.head? := by
    rw [String.append_assoc, String.toList_append,
      List.head?_append_of_ne_nil _ (mt String.toList_eq_nil_iff.mp hne)]
  have hroot : StartsAtRoot (a ++ "/" ++ b) ↔ StartsAtRoot a := by
    rw [StartsAtRoot, StartsAtRoot, hhead]
  rw [spelling, spelling, trim_append_slash hne ha hb, ha, splitText_append_slash]
  simp only [hroot]
  split
  · rfl
  · rw [List.append_assoc]

theorem spelling_of_relative (hb : trim b = b) (hrelative : ¬ StartsAtRoot b) :
    spelling base b = splitText base ++ splitText b := by
  rw [spelling, hb, if_neg hrelative]

/-- A path behind another leads on from where the first one ends. -/
theorem resolve_append (hne : a ≠ "") (ha : trim a = a) (hb : trim b = b) :
    resolve base (a ++ "/" ++ b) = ⟨descend (resolve base a).parts (splitText b)⟩ := by
  rw [resolve_eq, resolve_eq, spelling_append hne ha hb, descend_append]

theorem resolve_text (h : l.Clean) (hb : trim b = b) (hrelative : ¬ StartsAtRoot b) :
    resolve l.text b = ⟨descend l.parts (splitText b)⟩ := by
  rw [resolve_eq, spelling_of_relative hb hrelative, descend_append, descend_splitText_text h]

/-! ## Normal form -/

/-- A path in normal form: it starts at the root, ends with a separator only when it is the root, has no
backslash, and each of its segments is the name of a directory. -/
structure IsNormal (path : String) : Prop where
  absolute : path.toList.head? = some '/'
  no_backslash : '\\' ∉ path.toList
  no_trailing : path ≠ "/" → path.toList.getLast? ≠ some '/'
  segments : path ≠ "/" → ∀ part ∈ (split (· == '/') path).tail, part ≠ "" ∧ part ≠ "." ∧ part ≠ ".."

theorem text_root (h : l.parts = []) : l.text = "/" := by
  rw [text, h]
  rfl

theorem Clean.isNormal_text (h : l.Clean) : IsNormal l.text := by
  have htext : l.text.toList = '/' :: (join "/" l.parts).toList := by
    rw [text, String.toList_append]
    rfl
  refine ⟨?_, ?_, ?_, ?_⟩
  · rw [htext]
    rfl
  · rw [htext, List.mem_cons, not_or]
    refine ⟨by decide, fun hback => ?_⟩
    rcases mem_toList_join hback with hslash | ⟨part, hpart, hmem⟩
    · exact absurd hslash (by decide)
    · exact (h part hpart).no_backslash hmem
  · intro hne hlast
    rcases List.eq_nil_or_concat l.parts with hnil | ⟨front, part, hparts⟩
    · exact hne (text_root hnil)
    · have hpart : part ∈ l.parts := by
        rw [hparts, List.concat_eq_append]
        exact List.mem_append_right front List.mem_cons_self
      have hparts_ne : l.parts ≠ [] := List.ne_nil_of_mem hpart
      rw [text, slash_join hparts_ne, hparts, List.concat_eq_append, ← List.cons_append,
        getLast?_join "/" (h part hpart).ne_empty] at hlast
      exact (h part hpart).no_slash (List.mem_of_getLast? hlast)
  · intro hne part hpart
    have hparts : l.parts ≠ [] := fun hnil => hne (text_root hnil)
    rw [split_text h rfl fun _ hslash _ => beq_eq_false_iff_ne.mpr hslash, if_neg hparts,
      List.tail_cons] at hpart
    exact ⟨(h part hpart).ne_empty, (h part hpart).ne_dot, (h part hpart).ne_dots⟩

/-- Clean locations are told apart by their texts. -/
theorem text_inj (h : l.Clean) (h' : l'.Clean) (htext : l.text = l'.text) : l = l' := by
  have hparts : l.parts = l'.parts := by
    rw [← descend_splitText_text h, htext, descend_splitText_text h']
  cases l
  cases l'
  rw [Location.mk.injEq]
  exact hparts

/-- What a spelling of a location says of it.

The text of the location is in normal form.  The location is where the parts that are spelled lead from the
root, so two spellings give the same text if and only if they lead to the same place.  A relative path that
is read in the location leads on as it does when it is written behind the spelling, and two dots lead to the
location above, or stay at the root. -/
theorem resolve_folds (base a : String) :
    IsNormal (resolve base a).text ∧
    (∀ l, Leads root (spelling base a) l ↔ l = resolve base a) ∧
    (∀ base' a', (resolve base a).text = (resolve base' a').text ↔
      ∃ l, Leads root (spelling base a) l ∧ Leads root (spelling base' a') l) ∧
    (a ≠ "" → trim a = a →
      (∀ b, trim b = b → b.toList.head? ≠ some '/' → b.toList.head? ≠ some '\\' →
        resolve (resolve base a).text b = resolve base (a ++ "/" ++ b)) ∧
      (resolve base (a ++ "/..")).parts = (resolve base a).parts.dropLast) := by
  refine ⟨(clean_resolve base a).isNormal_text, fun l => leads_spelling_iff, ?_, ?_⟩
  · intro base' a'
    simp only [leads_spelling_iff, exists_eq_left]
    constructor
    · exact text_inj (clean_resolve base a) (clean_resolve base' a')
    · exact congrArg text
  · intro hne ha
    constructor
    · intro b hb hslash hback
      rw [resolve_append hne ha hb,
        resolve_text (clean_resolve base a) hb (not_or.mpr ⟨hslash, hback⟩)]
    · have hdots : a ++ "/.." = a ++ "/" ++ ".." := by
        rw [String.append_assoc]
        rfl
      have hsplit : splitText ".." = [".."] := by decide
      rw [hdots, resolve_append hne ha (by decide), hsplit, descend_dots]

theorem resolve_folds_sources :
    resolve (resolve "/work" "app/./src//x/..").text "../lib\\api/" = ⟨["work", "app", "lib", "api"]⟩ ∧
      (resolve "/" "..").text = (resolve "home" " /a/../.. ").text := by
  obtain ⟨-, -, -, hbehind⟩ := resolve_folds "/work" "app/./src//x/.."
  obtain ⟨-, -, hspellings, -⟩ := resolve_folds "/" ".."
  constructor
  · rw [(hbehind (by decide) (by decide)).1 "../lib\\api/" (by decide) (by decide) (by decide)]
    decide
  · refine (hspellings "home" " /a/../.. ").mpr ⟨root, ?_, ?_⟩
    · exact leads_spelling_iff.mpr (by decide)
    · exact leads_spelling_iff.mpr (by decide)

end RouteWorks.Location
