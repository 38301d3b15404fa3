import Mathlib.Data.List.DropRight
import Mathlib.Data.List.TakeWhile
import RouteWorks.Text.Blank

/-!
# Trimmed texts

Trimming takes blank characters off both ends of a text and nothing else.  What is left has no blank
character at an end, so trimming it again changes nothing.
-/

namespace RouteWorks.Text

variable {cs : List Char} {s : String}

theorem dropEndWhile_eq (p : Char → Bool) (cs : List Char) :
    dropEndWhile p cs = cs.rdropWhile p := rfl

theorem trimChars_prefix_dropWhile (cs : List Char) : trimChars cs <+: cs.dropWhile isBlank :=
  List.rdropWhile_prefix isBlank _

/-- A trimmed text is a part of the text. -/
theorem trimChars_infix_self (cs : List Char) : trimChars cs <:+: cs :=
  (trimChars_prefix_dropWhile cs).isInfix.trans (List.dropWhile_suffix isBlank).isInfix

theorem mem_of_mem_trimChars {c : Char} (h : c ∈ trimChars cs) : c ∈ cs :=
  (trimChars_infix_self cs).subset h

/-- Trimming keeps what is not blank. -/
theorem mem_trimChars {c : Char} (hc : c ∈ cs) (hblank : isBlank c = false) : c ∈ trimChars cs := by
  have hnot : ∀ xs : List Char, c ∉ xs.takeWhile isBlank := by
    intro xs hmem
    rw [List.mem_takeWhile_imp hmem] at hblank
    cases hblank
  have hkeep : ∀ xs : List Char, c ∈ xs → c ∈ xs.dropWhile isBlank := by
    intro xs hmem
    rw [← List.takeWhile_append_dropWhile (p := isBlank) (l := xs)] at hmem
    exact (List.mem_append.mp hmem).resolve_left (hnot xs)
  rw [trimChars, stripWhile, dropEndWhile, List.mem_reverse]
  exact hkeep _ (List.mem_reverse.mpr (hkeep cs hc))

/-! ## The ends -/

theorem isBlank_head_trimChars {c : Char} (h : (trimChars cs).head? = some c) :
    isBlank c = false := by
  obtain ⟨rest, hrest⟩ := trimChars_prefix_dropWhile cs
  have hhead : (cs.dropWhile isBlank).head? = some c := by
    rw [← hrest, List.head?_append, h]
    rfl
  have hnot := List.head?_dropWhile_not isBlank cs
  rw [hhead] at hnot
  simpa using hnot

theorem isBlank_getLast_trimChars {c : Char} (h : (trimChars cs).getLast? = some c) :
    isBlank c = false := by
  have hne : trimChars cs ≠ [] := by
    intro hnil
    rw [hnil] at h
    cases h
  have hlast : isBlank ((trimChars cs).getLast hne) ≠ true :=
    List.rdropWhile_last_not isBlank (cs.dropWhile isBlank) hne
  rw [List.getLast?_eq_some_getLast hne] at h
  rw [← Option.some.inj h]
  simpa using hlast

/-- Trimming keeps what is in front unless it is blank. -/
theorem head?_trimChars {c : Char} (cs : List Char) (hc : isBlank c = false) :
    (trimChars (c :: cs)).head? = some c := by
  have hmem : c ∈ trimChars (c :: cs) := mem_trimChars List.mem_cons_self hc
  obtain ⟨rest, hrest⟩ := trimChars_prefix_dropWhile (c :: cs)
  rw [List.dropWhile_cons, hc, if_neg Bool.false_ne_true] at hrest
  cases htrim : trimChars (c :: cs) with
  | nil =>
      rw [htrim] at hmem
      cases hmem
  | cons d ds =>
      rw [htrim, List.cons_append, List.cons.injEq] at hrest
      rw [hrest.1, List.head?_cons]

/-- Nothing is stripped off a text when both ends stay. -/
theorem stripWhile_eq_self {p : Char → Bool} (hhead : ∀ c, cs.head? = some c → p c = false)
    (hlast : ∀ c, cs.getLast? = some c → p c = false) : stripWhile p cs = cs := by
  have hfront : cs.dropWhile p = cs := by
    cases cs with
    | nil => rfl
    | cons c rest => rw [List.dropWhile_cons, hhead c rfl, if_neg Bool.false_ne_true]
  have hback : cs.rdropWhile p = cs := by
    rw [List.rdropWhile_eq_self_iff]
    intro hne
    rw [hlast _ (List.getLast?_eq_some_getLast hne)]
    exact Bool.false_ne_true
  rw [stripWhile, hfront, dropEndWhile_eq, hback]

/-- What is stripped off can stand at both ends of a text. -/
theorem stripWhile_append {p : Char → Bool} {front back : List Char}
    (hfront : ∀ c ∈ front, p c = true) (hback : ∀ c ∈ back, p c = true) (cs : List Char) :
    stripWhile p (front ++ cs ++ back) = stripWhile p cs := by
  have hend : ∀ xs : List Char, (xs ++ back).rdropWhile p = xs.rdropWhile p := by
    intro xs
    rw [List.rdropWhile, List.reverse_append, List.dropWhile_append_of_pos (by simpa using hback),
      List.rdropWhile]
  rw [stripWhile, stripWhile, dropEndWhile_eq, dropEndWhile_eq, List.append_assoc,
    List.dropWhile_append_of_pos hfront, List.dropWhile_append]
  split
  · -- nothing of the text stays, and nothing behind it either
    rename_i hnone
    rw [List.isEmpty_iff.mp hnone, List.dropWhile_eq_nil_iff.mpr hback]
  · exact hend _

/-- A text whose ends are not blank is trimmed already. -/
theorem trimChars_eq_self (hhead : ∀ c, cs.head? = some c → isBlank c = false)
    (hlast : ∀ c, cs.getLast? = some c → isBlank c = false) : trimChars cs = cs :=
  stripWhile_eq_self hhead hlast

theorem trimChars_of_forall_not (h : ∀ c ∈ cs, isBlank c = false) : trimChars cs = cs :=
  trimChars_eq_self (fun c hc => h c (List.mem_of_head? hc)) fun c hc => h c (List.mem_of_getLast? hc)

@[simp]
theorem trimChars_trimChars (cs : List Char) : trimChars (trimChars cs) = trimChars cs :=
  trimChars_eq_self (fun _ => isBlank_head_trimChars) fun _ => isBlank_getLast_trimChars

/-- The characters of a trimmed text are trimmed. -/
theorem trimChars_toList (h : trim s = s) : trimChars s.toList = s.toList := by
  rw [← String.toList_ofList (l := trimChars s.toList)]
  exact congrArg String.toList h

/-! ## Nothing left -/

theorem trimChars_eq_nil_iff : trimChars cs = [] ↔ ∀ c ∈ cs, isBlank c = true := by
  rw [trimChars, stripWhile, dropEndWhile_eq, List.rdropWhile_eq_nil_iff]
  constructor
  · intro h
    -- were something left in front, its first character would not be blank
    have hnil : cs.dropWhile isBlank = [] := by
      cases hrest : cs.dropWhile isBlank with
      | nil => rfl
      | cons c rest =>
          have hnot := List.head?_dropWhile_not isBlank cs
          have hblank := h c (by rw [hrest]; exact List.mem_cons_self)
          rw [hrest] at hnot
          simp [hblank] at hnot
    exact List.dropWhile_eq_nil_iff.mp hnil
  · intro h c hc
    exact h c ((List.dropWhile_suffix isBlank).subset hc)

theorem isBlankText_iff : isBlankText s = true ↔ ∀ c ∈ s.toList, isBlank c = true :=
  List.all_eq_true

theorem trim_eq_empty_iff : trim s = "" ↔ isBlankText s = true := by
  rw [trim, isBlankText_iff, ← trimChars_eq_nil_iff, ← String.toList_inj, String.toList_ofList,
    String.toList_empty]

@[simp]
theorem trim_trim (s : String) : trim (trim s) = trim s := by
  rw [trim, trim, String.toList_ofList, trimChars_trimChars]

@[simp]
theorem isBlankText_trim (s : String) : isBlankText (trim s) = isBlankText s := by
  rw [Bool.eq_iff_iff, ← trim_eq_empty_iff, ← trim_eq_empty_iff, trim_trim]

end RouteWorks.Text
