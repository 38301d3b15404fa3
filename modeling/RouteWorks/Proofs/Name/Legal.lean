import RouteWorks.Proofs.Field.Companion

/-!
# Legal identifiers

A name in snake case has the shape of an identifier, so it is one unless it is a reserved word of the
generated language.  Names of modules and functions are written as they are, names of fields are
escaped.  Both go by the words of `keywords`, which are not all: the reserved words in `unmarked` pass
the test for module names and are not escaped.
-/

namespace RouteWorks

namespace Name

variable {name : String} {cs : List Char}

/-! ## Identifiers of the generated language -/

/-- The strict and the reserved words of the 2021 edition. -/
def reserved : List String :=
  ["as", "async", "await", "break", "const", "continue", "crate", "dyn", "else", "enum",
   "extern", "false", "fn", "for", "if", "impl", "in", "let", "loop", "match", "mod", "move",
   "mut", "pub", "ref", "return", "self", "Self", "static", "struct", "super", "trait", "true",
   "type", "unsafe", "use", "where", "while",
   "abstract", "become", "box", "do", "final", "macro", "override", "priv", "try", "typeof",
   "unsized", "virtual", "yield"]

/-- The reserved words that count as plain names. -/
def unmarked : List String :=
  ["abstract", "become", "box", "do", "final", "macro", "override", "priv", "typeof", "unsized",
   "virtual"]

/-- Letters, digits and underscores, with no digit in front. -/
structure IsWord (name : String) : Prop where
  head : ∃ c rest, name.toList = c :: rest ∧ (c.isAlpha = true ∨ c = '_')
  chars : ∀ c ∈ name.toList, c.isAlphanum = true ∨ c = '_'
  ne_underscore : name ≠ "_"

/-- A plain identifier. -/
def IsIdent (name : String) : Prop := IsWord name ∧ name ∉ reserved

/-- An identifier that can name a field: a plain one, or a marked word that may be marked. -/
inductive IsFieldIdent : String → Prop
  | plain {name : String} (h : IsIdent name) : IsFieldIdent name
  | raw {name : String} (hword : IsWord name) (h : name ∉ unescapable) : IsFieldIdent ("r#" ++ name)

theorem isModuleName_iff (h : IsWord name) : isModuleName name = true ↔ name ∉ keywords := by
  obtain ⟨c, rest, hname, hc⟩ := h.head
  have hhead : (c.isAlpha || c == '_') = true := by simpa using hc
  have hrest : rest.all (fun d => d.isAlphanum || d == '_') = true := by
    rw [List.all_eq_true]
    intro d hd
    simpa using h.chars d (hname ▸ List.mem_cons_of_mem c hd)
  rw [isModuleName, hname]
  dsimp only
  rw [hhead, hrest]
  simp [h.ne_underscore]

theorem isWord_of_isSnake (h : IsSnake name.toList) : IsWord name where
  head := by
    obtain ⟨c, rest, hname, hc⟩ := h.letter
    exact ⟨c, rest, hname, Or.inl (Text.isAlpha_iff.mpr (Or.inr hc))⟩
  chars := by
    intro c hc
    rcases h.chars c hc with hlower | hdigit | rfl
    · exact Or.inl (Text.isAlphanum_iff.mpr (Or.inr (Or.inl hlower)))
    · exact Or.inl (Text.isAlphanum_iff.mpr (Or.inr (Or.inr hdigit)))
    · exact Or.inr rfl
  ne_underscore := by
    rintro rfl
    exact h.last (by decide)

theorem IsWord.append_underscore (h : IsWord name) : IsWord (name ++ "_") where
  head := by
    obtain ⟨c, rest, hname, hc⟩ := h.head
    exact ⟨c, rest ++ ['_'], by rw [String.toList_append, hname]; rfl, hc⟩
  chars := by
    intro c hc
    rw [String.toList_append, List.mem_append] at hc
    rcases hc with hc | hc
    · exact h.chars c hc
    · exact Or.inr (List.mem_singleton.mp hc)
  ne_underscore := by
    intro heq
    obtain ⟨c, rest, hname, -⟩ := h.head
    have hlength := congrArg (fun s : String => s.toList.length) heq
    rw [String.toList_append, hname] at hlength
    simp at hlength

theorem IsFieldIdent.isIdent (h : IsFieldIdent name) (hword : IsWord name) : IsIdent name := by
  cases h with
  | plain h => exact h
  | raw _ _ =>
      rename_i plain _ _
      have hmark : '#' ∈ ("r#" ++ plain).toList := by
        rw [String.toList_append]
        exact List.mem_append_left _ (by decide)
      rcases hword.chars '#' hmark with h | h
      · exact absurd h (by decide)
      · exact absurd h (by decide)

/-- A word is escaped to an identifier of a field unless it is reserved and counts as a plain name. -/
theorem isFieldIdent_escape_iff (h : IsWord name) :
    IsFieldIdent (escape name) ↔ name ∉ unmarked := by
  have hplain : ∀ word ∈ unescapable ++ keywords, word ∉ unmarked := by decide
  have hreserved : ∀ word ∈ reserved, word ∈ unescapable ++ keywords ∨ word ∈ unmarked := by decide
  have hmarked : ∀ word ∈ unmarked, word ∈ reserved := by decide
  -- a word gets an underscore, or a mark, or stays as it is
  rw [escape]
  split
  · rename_i hmem
    have hmem : name ∈ unescapable := by simpa using hmem
    have hfree : name ++ "_" ∉ reserved := by
      intro hword
      have hlast : ∀ word ∈ reserved, word.toList.getLast? ≠ some '_' := by decide
      refine hlast _ hword ?_
      rw [String.toList_append]
      exact List.getLast?_concat
    exact iff_of_true (.plain ⟨h.append_underscore, hfree⟩)
      (hplain name (List.mem_append_left _ hmem))
  · rename_i hraw
    have hraw : name ∉ unescapable := by simpa using hraw
    split
    · rename_i hmem
      have hmem : name ∈ keywords := by simpa using hmem
      exact iff_of_true (.raw h hraw) (hplain name (List.mem_append_right _ hmem))
    · rename_i hkeyword
      have hkeyword : name ∉ keywords := by simpa using hkeyword
      constructor
      · intro hident hmem
        exact (hident.isIdent h).2 (hmarked name hmem)
      · intro hfree
        refine .plain ⟨h, fun hmem => ?_⟩
        rcases hreserved name hmem with hmem | hmem
        · exact (List.mem_append.mp hmem).elim hraw hkeyword
        · exact hfree hmem

/-! ## Identifiers of ASCII names -/

variable {i : Identifier}

theorem isWord_snake (h : IsCamel i.canonical.toList) : IsWord i.snake := by
  apply isWord_of_isSnake
  rw [Identifier.toList_snake]
  exact h.isSnake_snakeChars

theorem IsCamel.isWord (h : IsCamel name.toList) : IsWord name where
  head := by
    obtain ⟨c, rest, hname, hc⟩ := h.capital
    exact ⟨c, rest, hname, Or.inl (Text.isAlpha_iff.mpr (Or.inl hc))⟩
  chars := fun c hc => Or.inl (h.alphanum c hc)
  ne_underscore := by
    rintro rfl
    obtain ⟨c, rest, hname, hc⟩ := h.capital
    obtain ⟨rfl, -⟩ := List.cons.inj hname
    exact absurd hc (by decide)

/-- Only one of the reserved words starts with a capital. -/
theorem IsCamel.isIdent_iff (h : IsCamel name.toList) : IsIdent name ↔ name ≠ "Self" := by
  have hlower : ∀ word ∈ reserved, word = "Self" ∨
      (word.toList.head?.map Char.isUpper).getD false = false := by
    decide
  constructor
  · rintro ⟨-, hfree⟩ rfl
    exact hfree (by decide)
  · intro hne
    refine ⟨h.isWord, fun hmem => ?_⟩
    obtain ⟨c, rest, hname, hc⟩ := h.capital
    rcases hlower name hmem with heq | hfirst
    · exact hne heq
    · rw [hname] at hfirst
      exact absurd hc (by simpa using hfirst)

/-- The name of a companion is a plain identifier. -/
theorem isIdent_companion (h : IsCamel i.canonical.toList) (kind : UploadKind) :
    IsIdent (snake (i.canonical ++ kind.suffix)) := by
  have hcamel : IsCamel (i.canonical ++ kind.suffix).toList := by
    obtain ⟨c, rest, hname, hc⟩ := h.capital
    have hsuffix : ∀ d ∈ kind.suffix.toList, d.isAlphanum = true := by
      cases kind with
      | single => exact List.all_eq_true.mp (by decide)
      | multi => exact List.all_eq_true.mp (by decide)
    rw [String.toList_append]
    refine ⟨⟨c, rest ++ kind.suffix.toList, by rw [hname]; rfl, hc⟩, ?_⟩
    intro d hd
    exact (List.mem_append.mp hd).elim (h.alphanum d) (hsuffix d)
  have hword : ∀ word ∈ reserved, ¬(snake kind.suffix).toList <:+ word.toList := by
    cases kind <;> decide
  refine ⟨isWord_of_isSnake ?_, UploadKind.snake_append_not_mem hword i.canonical⟩
  rw [snake, String.toList_ofList]
  exact hcamel.isSnake_snakeChars

end Name

end RouteWorks
