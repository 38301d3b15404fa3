import RouteWorks.Field.Declaration
import RouteWorks.Proofs.Name.Escape

/-!
# Names of companions

The companion of an upload field is named after the field, with a suffix.  The suffix starts a word
of its own, so snake case puts it behind the snake case of the field and nothing in front of it
changes but an underscore.  Companions of fields with different names therefore have different names.
-/

namespace RouteWorks

namespace Name

variable {u prev : Char} {cs out rest ls : List Char}

/-- What is not lowercase may follow a name without changing what is written for it. -/
theorem exists_snakeInto_append (hu : Text.isLowercase u = false) (prev : Option Char)
    (out cs rest : List Char) :
    ∃ last, snakeInto prev out (cs ++ u :: rest) =
      snakeInto last (snakeInto prev out cs) (u :: rest) := by
  induction cs generalizing prev out with
  | nil => exact ⟨prev, rfl⟩
  | cons c cs ih =>
      -- of what follows, only a lowercase character matters, and neither `u` nor the end is one
      have hnext : ∀ p, startsWord p (cs ++ u :: rest).head? = startsWord p cs.head? := by
        intro p
        cases cs with
        | nil => simp [startsWord, hu]
        | cons d ds => rfl
      rw [List.cons_append, snakeInto, snakeInto]
      simp only [hnext]
      split
      · exact ih (some c) (breakWord out)
      · exact ih (some c) _

theorem dropWhile_breakWord (out : List Char) :
    (breakWord out).dropWhile (· == '_') = out.dropWhile (· == '_') := by
  unfold breakWord
  split
  · rfl
  · rfl
  · exact List.dropWhile_cons_of_pos rfl

theorem isChain_of_forall_ne (h : ∀ c ∈ cs, c ≠ '_') : cs.IsChain Apart := by
  induction cs with
  | nil => exact .nil
  | cons c cs ih =>
      have hrest := ih fun d hd => h d (List.mem_cons_of_mem c hd)
      cases cs with
      | nil => exact .singleton c
      | cons d ds => exact .cons_cons (fun heq => absurd heq (h c List.mem_cons_self)) hrest

/-- A word that starts with a capital starts behind what is written so far, or behind an underscore
after it. -/
theorem exists_snakeInto_word (hlower : ∀ c ∈ ls, c.isLower = true) (last : Option Char)
    (out : List Char) :
    ∃ out', (out' = out ∨ out' = breakWord out) ∧
      snakeInto last out ('U' :: ls) = ls.reverse ++ 'u' :: out' := by
  have hletters : ∀ c ∈ 'u' :: ls, c.isLower = true :=
    List.forall_mem_cons.mpr ⟨by decide, hlower⟩
  have hword : ∀ out', snakeInto (some 'U') ('u' :: out') ls = ls.reverse ++ 'u' :: out' := by
    intro out'
    refine snakeInto_of_isChain (fun c hc => Or.inl (hlower c hc)) (isChain_of_forall_ne ?_)
    intro c hc
    exact Text.ne_underscore_of_isAlphanum
      (Text.isAlphanum_iff.mpr (Or.inr (Or.inl (hletters c hc))))
  have hcapital : Text.isAlphanumeric 'U' = true := by decide
  have hu : (Text.lower 'U').reverse = ['u'] := by decide
  rw [snakeInto, hcapital, hu, if_neg (by decide)]
  dsimp only
  split
  · exact ⟨breakWord out, Or.inr rfl, hword _⟩
  · exact ⟨out, Or.inl rfl, hword _⟩

/-- Snake case puts a suffix of one word behind the name.  In front of it there is the snake case of
the name, up to underscores at the end. -/
theorem exists_snakeChars_append (hlower : ∀ c ∈ ls, c.isLower = true) (cs : List Char) :
    ∃ front, snakeChars (cs ++ 'U' :: ls) = front ++ 'u' :: ls ∧
      front.rdropWhile (· == '_') = snakeChars cs := by
  obtain ⟨last, hpass⟩ := exists_snakeInto_append (u := 'U') (by decide) none [] cs ls
  obtain ⟨out, hout, hword⟩ := exists_snakeInto_word hlower last (snakeInto none [] cs)
  refine ⟨out.reverse, ?_, ?_⟩
  · have hlast : (out.reverse ++ 'u' :: ls).getLast? ≠ some '_' := by
      rw [List.getLast?_append_of_ne_nil _ (List.cons_ne_nil 'u' ls)]
      intro hmark
      rcases List.mem_cons.mp (List.mem_of_getLast? hmark) with hmem | hmem
      · exact absurd hmem (by decide)
      · exact absurd (hlower '_' hmem) (by decide)
    have hrev : (ls.reverse ++ 'u' :: out).reverse = out.reverse ++ 'u' :: ls := by simp
    rw [snakeChars_eq, hpass, hword, hrev, rdropWhile_underscore hlast]
  · have hdrop : out.dropWhile (· == '_') = (snakeInto none [] cs).dropWhile (· == '_') := by
      rcases hout with rfl | rfl
      · rfl
      · exact dropWhile_breakWord _
    rw [List.rdropWhile, List.reverse_reverse, hdrop, snakeChars]

end Name

/-! ## Companions -/

/-- What the name of a companion ends with. -/
def UploadKind.suffix : UploadKind → String
  | single => "Url"
  | multi => "Urls"

/-- The type of a companion. -/
def UploadKind.companionType : UploadKind → String
  | single => "String"
  | multi => "Vec<String>"

namespace UploadKind

/-- The suffix of a companion in snake case is a word. -/
theorem exists_snake_append (kind : UploadKind) (name : String) :
    ∃ front, (Name.snake (name ++ kind.suffix)).toList =
        front ++ (Name.snake kind.suffix).toList ∧
      front.rdropWhile (· == '_') = (Name.snake name).toList := by
  cases kind with
  | single =>
      have hlower : ∀ c ∈ ['r', 'l'], c.isLower = true := List.all_eq_true.mp (by decide)
      obtain ⟨front, hfront, hname⟩ := Name.exists_snakeChars_append hlower name.toList
      refine ⟨front, ?_, ?_⟩
      · rw [Name.snake, String.toList_ofList, String.toList_append]
        exact hfront
      · rw [hname, Name.snake, String.toList_ofList]
  | multi =>
      have hlower : ∀ c ∈ ['r', 'l', 's'], c.isLower = true := List.all_eq_true.mp (by decide)
      obtain ⟨front, hfront, hname⟩ := Name.exists_snakeChars_append hlower name.toList
      refine ⟨front, ?_, ?_⟩
      · rw [Name.snake, String.toList_ofList, String.toList_append]
        exact hfront
      · rw [hname, Name.snake, String.toList_ofList]

/-- The name of a companion tells the kind of upload and the name of the field. -/
theorem companion_inj {kind kind' : UploadKind} {name name' : String}
    (h : Name.snake (name ++ kind.suffix) = Name.snake (name' ++ kind'.suffix)) :
    kind = kind' ∧ Name.snake name = Name.snake name' := by
  obtain ⟨front, htext, hname⟩ := kind.exists_snake_append name
  obtain ⟨front', htext', hname'⟩ := kind'.exists_snake_append name'
  rw [h, htext'] at htext
  have hne : ∀ kind : UploadKind, (Name.snake kind.suffix).toList ≠ [] := by
    intro kind
    cases kind <;> decide
  -- the suffixes end with different letters
  have hkind : kind = kind' := by
    have hlast := congrArg List.getLast? htext
    rw [List.getLast?_append_of_ne_nil _ (hne kind), List.getLast?_append_of_ne_nil _ (hne kind')]
      at hlast
    cases kind <;> cases kind'
    · rfl
    · exact absurd hlast (by decide)
    · exact absurd hlast (by decide)
    · rfl
  subst hkind
  refine ⟨rfl, ?_⟩
  rw [← String.toList_inj, ← hname, ← hname', List.append_cancel_right htext]

/-- A word that does not end like a companion is not the name of one. -/
theorem snake_append_not_mem {kind : UploadKind} {words : List String}
    (h : ∀ word ∈ words, ¬(Name.snake kind.suffix).toList <:+ word.toList) (name : String) :
    Name.snake (name ++ kind.suffix) ∉ words := by
  obtain ⟨front, htext, -⟩ := kind.exists_snake_append name
  exact fun hmem => h _ hmem ⟨front, htext.symm⟩

theorem escape_companion (kind : UploadKind) (name : String) :
    Name.escape (Name.snake (name ++ kind.suffix)) = Name.snake (name ++ kind.suffix) := by
  have hword : ∀ word ∈ Name.unescapable ++ Name.keywords,
      ¬(Name.snake kind.suffix).toList <:+ word.toList := by
    cases kind <;> decide
  have hfree := snake_append_not_mem hword name
  rw [List.mem_append, not_or] at hfree
  rw [Name.escape, if_neg (by simpa using hfree.1), if_neg (by simpa using hfree.2)]

end UploadKind

end RouteWorks
