import RouteWorks.Proofs.Text.Joined
import RouteWorks.Proofs.Text.Literal

/-!
# Lines

Generated text is put together from lines.  Its lines are the ones that were put together if and only if
none of them has a line feed of its own (`flatMap_lineParts_eq_iff`); text between double quotes never has
one (`unbroken_quote`).
-/

namespace RouteWorks.Text

/-! ## Texts without line feeds -/

/-- A text stays on its line. -/
def Unbroken (s : String) : Prop := '\n' ∉ s.toList

instance (s : String) : Decidable (Unbroken s) := inferInstanceAs (Decidable ('\n' ∉ s.toList))

/-- A text that is written out is looked through. -/
theorem unbroken_ofList {cs : List Char} (h : cs.all (· != '\n') = true) :
    Unbroken (String.ofList cs) := by
  rw [Unbroken, String.toList_ofList]
  intro hmem
  exact absurd (List.all_eq_true.mp h _ hmem) (by decide)

@[simp] theorem unbroken_append (a b : String) : Unbroken (a ++ b) ↔ Unbroken a ∧ Unbroken b := by
  rw [Unbroken, String.toList_append, List.mem_append, not_or]
  rfl

theorem unbroken_flatten {texts : List String} :
    Unbroken (String.join texts) ↔ ∀ t ∈ texts, Unbroken t := by
  rw [Unbroken, String.toList_join, List.mem_flatMap]
  simp only [Unbroken, not_exists, not_and]

theorem unbroken_join {sep : String} (hsep : Unbroken sep) {parts : List String}
    (h : ∀ part ∈ parts, Unbroken part) : Unbroken (join sep parts) := by
  induction parts with
  | nil => exact unbroken_ofList rfl
  | cons part parts ih =>
      have hpart := h part List.mem_cons_self
      have hrest := ih fun p hp => h p (List.mem_cons_of_mem part hp)
      cases parts with
      | nil => exact hpart
      | cons next parts =>
          rw [join_cons_cons, unbroken_append, unbroken_append]
          exact ⟨⟨hpart, hsep⟩, hrest⟩

theorem not_mem_escapeChar (c : Char) : '\n' ∉ escapeChar c := by
  by_cases hshort : c ∈ shortEscapes
  · simp only [shortEscapes, List.mem_cons, List.not_mem_nil, or_false] at hshort
    rcases hshort with rfl | rfl | rfl | rfl | rfl | rfl <;> decide
  · have hne : '\n' ≠ c := by
      rintro rfl
      exact hshort (by decide)
    rcases escapeChar_of_not_short hshort with hself | hcode
    · rw [hself, List.mem_singleton]
      exact hne
    · have hdigits : '\n' ∉ hex c.toNat := fun h => absurd ((hexNumber?_hex c.toNat).2 _ h) (by decide)
      rw [hcode]
      simp [hdigits]

/-- Line feeds are escaped between quotes. -/
theorem unbroken_quote (s : String) : Unbroken (quote s) := by
  have hchars : '\n' ∉ s.toList.flatMap escapeChar := by
    rw [List.mem_flatMap]
    rintro ⟨c, -, hc⟩
    exact not_mem_escapeChar c hc
  rw [Unbroken, quote, String.toList_ofList]
  simp [hchars]

/-- What is read as a line is one. -/
theorem unbroken_of_mem_lines {s line : String} (h : line ∈ lines s) : Unbroken line := by
  have hpart : ∀ part ∈ splitWhen (· == '\n') s.toList, '\n' ∉ part := by
    intro part hpart hmem
    exact absurd (not_sep_of_mem_splitWhen hpart hmem) (by decide)
  obtain ⟨chars, hchars, rfl⟩ := List.mem_map.mp h
  rw [Unbroken, String.toList_ofList]
  rcases List.mem_append.mp hchars with hchars | hchars
  · obtain ⟨part, hmem, rfl⟩ := List.mem_map.mp hchars
    have hfree := hpart part (List.dropLast_subset _ hmem)
    split
    · exact fun hfeed => hfree (List.dropLast_subset _ hfeed)
    · exact hfree
  · rw [Option.mem_toList, Option.filter_eq_some_iff] at hchars
    exact hpart chars (List.mem_of_getLast? hchars.1)

/-! ## The lines of a text -/

/-- The parts of a text between line feeds. -/
def lineParts (s : String) : List String := split (· == '\n') s

theorem lineParts_ne_nil (s : String) : lineParts s ≠ [] := by
  rw [lineParts, split, ne_eq, List.map_eq_nil_iff]
  exact splitWhen_ne_nil s.toList

theorem unbroken_of_mem_lineParts {s line : String} (h : line ∈ lineParts s) : Unbroken line := by
  obtain ⟨chars, hchars, rfl⟩ := List.mem_map.mp h
  rw [Unbroken, String.toList_ofList]
  intro hmem
  have hfeed := not_sep_of_mem_splitWhen hchars hmem
  exact absurd hfeed (by decide)

theorem lineParts_eq_self_iff {s : String} : lineParts s = [s] ↔ Unbroken s := by
  constructor
  · intro h
    exact unbroken_of_mem_lineParts (h ▸ List.mem_singleton_self s)
  · intro h
    rw [lineParts, split, splitWhen_of_forall_not (beq_eq_false_of_not_mem h), List.map_singleton,
      String.ofList_toList]

/-- A line feed ends one line and starts the next. -/
theorem lineParts_append (a b : String) :
    lineParts (a ++ "\n" ++ b) = lineParts a ++ lineParts b := by
  have htext : (a ++ "\n" ++ b).toList = a.toList ++ '\n' :: b.toList := by
    rw [String.toList_append, String.toList_append, List.append_assoc]
    rfl
  rw [lineParts, split, htext, splitWhen_append_sep (by decide), List.map_append]
  rfl

theorem lineParts_join {lines : List String} (h : lines ≠ []) :
    lineParts (join "\n" lines) = lines.flatMap lineParts := by
  induction lines with
  | nil => exact absurd rfl h
  | cons line lines ih =>
      cases lines with
      | nil => rw [join_singleton, List.flatMap_singleton]
      | cons next lines =>
          rw [join_cons_cons, lineParts_append, ih (List.cons_ne_nil next lines),
            ← List.flatMap_cons]

/-- The lines of a text in which every line is ended, and of what stands behind it. -/
theorem lineParts_ended (lines : List String) (rest : String) :
    lineParts (String.join (lines.map (· ++ "\n")) ++ rest) =
      lines.flatMap lineParts ++ lineParts rest := by
  induction lines with
  | nil => rw [List.map_nil, String.join_nil, String.empty_append, List.flatMap_nil, List.nil_append]
  | cons line lines ih =>
      rw [List.map_cons, String.join_cons, String.append_assoc, lineParts_append, ih, List.flatMap_cons,
        List.append_assoc]

theorem flatMap_lineParts {lines : List String} (h : ∀ line ∈ lines, Unbroken line) :
    lines.flatMap lineParts = lines := by
  induction lines with
  | nil => rfl
  | cons line lines ih =>
      rw [List.flatMap_cons, lineParts_eq_self_iff.mpr (h line List.mem_cons_self),
        ih fun l hl => h l (List.mem_cons_of_mem line hl), List.singleton_append]

/-- Lines without line feeds are read as they were written, up to a line that is looked for. -/
theorem lineParts_above {above : List String} {head : String} (habove : ∀ line ∈ above, Unbroken line)
    (hhead : Unbroken head) (below : List String) (last : String) :
    lineParts (String.join ((above ++ head :: below).map (· ++ "\n")) ++ last) =
      above ++ head :: (below.flatMap lineParts ++ lineParts last) := by
  rw [lineParts_ended, List.flatMap_append, flatMap_lineParts habove, List.flatMap_cons,
    lineParts_eq_self_iff.mpr hhead]
  simp only [List.append_assoc, List.cons_append, List.nil_append]

/-- A line that is ended is read, whatever stands around it. -/
theorem mem_lineParts_ended {lines : List String} {line : String} (hmem : line ∈ lines)
    (hline : Unbroken line) (rest : String) :
    line ∈ lineParts (String.join (lines.map (· ++ "\n")) ++ rest) := by
  rw [lineParts_ended]
  refine List.mem_append_left _ (List.mem_flatMap.mpr ⟨line, hmem, ?_⟩)
  rw [lineParts_eq_self_iff.mpr hline]
  exact List.mem_singleton_self line

theorem length_le_flatMap_lineParts (lines : List String) :
    lines.length ≤ (lines.flatMap lineParts).length := by
  induction lines with
  | nil => exact Nat.le_refl 0
  | cons line lines ih =>
      have hline := List.length_pos_iff.mpr (lineParts_ne_nil line)
      rw [List.flatMap_cons, List.length_append, List.length_cons]
      omega

/-- Lines are read back as they were written if and only if none of them has a line feed of its own. -/
theorem flatMap_lineParts_eq_iff {lines : List String} :
    lines.flatMap lineParts = lines ↔ ∀ line ∈ lines, Unbroken line := by
  refine ⟨?_, flatMap_lineParts⟩
  induction lines with
  | nil => exact fun _ line hline => absurd hline List.not_mem_nil
  | cons line lines ih =>
      intro h
      rw [List.flatMap_cons] at h
      obtain ⟨part, parts, hparts⟩ := List.exists_cons_of_ne_nil (lineParts_ne_nil line)
      rw [hparts, List.cons_append] at h
      obtain ⟨rfl, hrest⟩ := List.cons.inj h
      -- the other lines fill their places already, so the first one has no second part
      have hnone : parts = [] := by
        have hlength := congrArg List.length hrest
        have hle := length_le_flatMap_lineParts lines
        rw [List.length_append] at hlength
        exact List.eq_nil_of_length_eq_zero (by omega)
      rw [hnone] at hparts
      rw [hnone, List.nil_append] at hrest
      intro l hl
      rcases List.mem_cons.mp hl with rfl | hl
      · exact lineParts_eq_self_iff.mp hparts
      · exact ih hrest l hl

end RouteWorks.Text
