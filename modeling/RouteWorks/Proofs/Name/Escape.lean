import RouteWorks.Proofs.Name.Snake

/-!
# Reserved words and identifiers

A name in snake case becomes an identifier of the generated language by `escape`.  The mark of a raw
name and the underscore behind a word that has no raw form cannot be part of snake case, so no two
names become the same identifier (`escape_inj`).
-/

namespace RouteWorks

namespace Name

variable {a b : String} {cs : List Char}

/-- No name in snake case ends with an underscore. -/
theorem getLast?_snakeChars (cs : List Char) : (snakeChars cs).getLast? ≠ some '_' := by
  intro hlast
  have hne : snakeChars cs ≠ [] := by
    intro hnil
    rw [hnil] at hlast
    cases hlast
  rw [List.getLast?_eq_some_getLast hne, Option.some.injEq] at hlast
  have hkept : (snakeChars cs).rdropWhile (· == '_') = snakeChars cs := by
    rw [snakeChars_eq, List.rdropWhile_idempotent]
  exact List.rdropWhile_eq_self_iff.mp hkept hne (by rw [hlast]; rfl)

/-! ## Escaped names -/

/-- A text that can be a name in snake case. -/
structure IsWritten (name : String) : Prop where
  chars : ∀ c ∈ name.toList, isSnakeChar c = true
  last : name.toList.getLast? ≠ some '_'

theorem isWritten_snake (s : String) : IsWritten (snake s) where
  chars := by
    intro c hc
    rw [snake, String.toList_ofList] at hc
    exact isSnakeChar_of_mem_snakeChars hc
  last := by
    rw [snake, String.toList_ofList]
    exact getLast?_snakeChars s.toList

theorem isSnakeChar_of_mem_escape (h : IsWritten a) {c : Char} (hc : c ∈ (escape a).toList) :
    isSnakeChar c = true ∨ c = '#' := by
  rw [escape] at hc
  split at hc
  · rw [String.toList_append, List.mem_append] at hc
    rcases hc with hc | hc
    · exact Or.inl (h.chars c hc)
    · rw [List.mem_singleton.mp hc]
      exact Or.inl (by decide)
  · split at hc
    · rw [String.toList_append, List.mem_append] at hc
      rcases hc with hc | hc
      · rcases List.mem_cons.mp hc with rfl | hc
        · exact Or.inl (by decide)
        · exact Or.inr (List.mem_singleton.mp hc)
      · exact Or.inl (h.chars c hc)
    · exact Or.inl (h.chars c hc)

/-- The name that an identifier was escaped from. -/
def unescape (ident : String) : List Char :=
  ((Text.stripStart? "r#".toList ident.toList).getD ident.toList).rdropWhile (· == '_')

theorem stripStart?_mark (h : '#' ∉ cs) : Text.stripStart? "r#".toList cs = none :=
  Text.stripStart?_eq_none_of_mem (a := '#') (by decide) h

theorem unescape_escape (h : IsWritten a) : unescape (escape a) = a.toList := by
  have hmark : '#' ∉ a.toList := fun hmem => absurd (h.chars '#' hmem) (by decide)
  have hkeep := rdropWhile_underscore h.last
  rw [escape]
  split
  · have hfree : '#' ∉ (a ++ "_").toList := by
      rw [String.toList_append, List.mem_append, not_or]
      exact ⟨hmark, by decide⟩
    rw [unescape, stripStart?_mark hfree, Option.getD_none, String.toList_append]
    exact (List.rdropWhile_concat_pos _ _ _ rfl).trans hkeep
  · split
    · rw [unescape, String.toList_append, Text.stripStart?_append, Option.getD_some, hkeep]
    · rw [unescape, stripStart?_mark hmark, Option.getD_none, hkeep]

/-- No two names become the same identifier. -/
theorem escape_inj (ha : IsWritten a) (hb : IsWritten b) : escape a = escape b ↔ a = b := by
  constructor
  · intro h
    rw [← String.toList_inj, ← unescape_escape ha, ← unescape_escape hb, h]
  · exact congrArg escape

end Name

end RouteWorks
