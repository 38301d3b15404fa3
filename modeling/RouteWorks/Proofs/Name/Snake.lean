import RouteWorks.Proofs.Name.Camel

/-!
# Snake case of ASCII names

Snake case is written backwards onto what is written so far.  Behind a letter or digit this is a
function of the character before and of what follows (`snakeFrom`), and nothing that is written
already is looked at again.  The round trip through camel case keeps exactly the capitals that an
underscore was written for (`recaseFrom`); the others were inside a word, and lowering them moves
no boundary.
-/

namespace RouteWorks

namespace Name

variable {c o prev prev' : Char} {cs os out : List Char}

/-- Two neighbours in snake case: no underscore is doubled. -/
def Apart (a b : Char) : Prop := a = '_' → b ≠ '_'

/-- The form of a name in snake case. -/
structure IsSnake (cs : List Char) : Prop where
  letter : ∃ c rest, cs = c :: rest ∧ c.isLower = true
  chars : ∀ c ∈ cs, c.isLower = true ∨ c.isDigit = true ∨ c = '_'
  apart : cs.IsChain Apart
  last : cs.getLast? ≠ some '_'

/-- What follows `prev` in snake case, where both are letters and digits. -/
def snakeFrom (prev : Char) : List Char → List Char
  | [] => []
  | c :: cs =>
    (if c.isUpper && startsWord prev cs.head? then ['_'] else []) ++ c.toLower :: snakeFrom c cs

/-! ## One pass backwards -/

/-- Underscores at the end are what snake case drops. -/
theorem snakeChars_eq (cs : List Char) :
    snakeChars cs = (snakeInto none [] cs).reverse.rdropWhile (· == '_') := by
  rw [List.rdropWhile, List.reverse_reverse, snakeChars]

theorem rdropWhile_underscore (h : cs.getLast? ≠ some '_') : cs.rdropWhile (· == '_') = cs := by
  rw [List.rdropWhile_eq_self_iff]
  intro hne heq
  rw [List.getLast?_eq_some_getLast hne, eq_of_beq heq] at h
  exact h rfl

theorem breakWord_cons (ho : o ≠ '_') : breakWord (o :: os) = '_' :: o :: os := by
  unfold breakWord
  split
  · contradiction
  · rename_i h
    exact absurd (List.cons.inj h).1 ho
  · rfl

theorem snakeInto_cons_of_isAlphanum (hc : c.isAlphanum = true) :
    snakeInto (some prev) out (c :: cs) =
      snakeInto (some c)
        (c.toLower :: if c.isUpper && startsWord prev cs.head? then breakWord out else out) cs := by
  have hascii := Text.isAscii_of_isAlphanum hc
  rw [snakeInto, Text.isAlphanumeric_of_isAscii hascii, hc, Text.isUppercase_of_isAscii hascii,
    Text.lower_of_isAscii hascii]
  rfl

/-- Behind a letter or digit the pass writes `snakeFrom`. -/
theorem snakeInto_eq (h : ∀ c ∈ cs, c.isAlphanum = true) (ho : o ≠ '_') :
    snakeInto (some prev) (o :: os) cs = (snakeFrom prev cs).reverse ++ o :: os := by
  induction cs generalizing prev o os with
  | nil => rfl
  | cons c cs ih =>
      have hc : c.isAlphanum = true := h c List.mem_cons_self
      have hlower : c.toLower ≠ '_' :=
        Text.ne_underscore_of_isAlphanum (Text.isAlphanum_toLower hc)
      -- what is written so far ends with a letter or digit, so a boundary always gets an underscore
      rw [snakeInto_cons_of_isAlphanum hc, breakWord_cons ho,
        ih (fun d hd => h d (List.mem_cons_of_mem c hd)) hlower, snakeFrom]
      split <;> simp

theorem snakeInto_cons_none (hc : c.isAlphanum = true) :
    snakeInto none [] (c :: cs) = snakeInto (some c) [c.toLower] cs := by
  have hascii := Text.isAscii_of_isAlphanum hc
  rw [snakeInto, Text.isAlphanumeric_of_isAscii hascii, hc, Text.lower_of_isAscii hascii]
  simp

/-! ## What the pass writes -/

theorem chars_of_mem_snakeFrom (h : ∀ c ∈ cs, c.isAlphanum = true) {d : Char}
    (hd : d ∈ snakeFrom prev cs) : d.isLower = true ∨ d.isDigit = true ∨ d = '_' := by
  induction cs generalizing prev with
  | nil => cases hd
  | cons c cs ih =>
      rw [snakeFrom, List.mem_append, List.mem_cons] at hd
      rcases hd with hd | rfl | hd
      · split at hd
        · exact Or.inr (Or.inr (List.mem_singleton.mp hd))
        · cases hd
      · have hc := h c List.mem_cons_self
        have hlower := Text.isAlphanum_iff.mp (Text.isAlphanum_toLower hc)
        rw [Text.isUpper_toLower (Text.isAscii_of_isAlphanum hc)] at hlower
        rcases hlower with hupper | hlower | hdigit
        · cases hupper
        · exact Or.inl hlower
        · exact Or.inr (Or.inl hdigit)
      · exact ih (fun d hd => h d (List.mem_cons_of_mem c hd)) hd

theorem isChain_snakeFrom (h : ∀ c ∈ cs, c.isAlphanum = true) (ho : o ≠ '_') :
    (o :: snakeFrom prev cs).IsChain Apart := by
  induction cs generalizing prev o with
  | nil => exact List.IsChain.singleton o
  | cons c cs ih =>
      have hc : c.toLower ≠ '_' :=
        Text.ne_underscore_of_isAlphanum (Text.isAlphanum_toLower (h c List.mem_cons_self))
      have hrest : (c.toLower :: snakeFrom c cs).IsChain Apart :=
        ih (fun d hd => h d (List.mem_cons_of_mem c hd)) hc
      rw [snakeFrom]
      split
      · exact List.IsChain.cons_cons (fun heq => absurd heq ho)
          (List.IsChain.cons_cons (fun _ => hc) hrest)
      · exact List.IsChain.cons_cons (fun _ => hc) hrest

theorem getLast?_snakeFrom (h : ∀ c ∈ cs, c.isAlphanum = true) (ho : o ≠ '_') :
    (o :: snakeFrom prev cs).getLast? ≠ some '_' := by
  induction cs generalizing prev o with
  | nil =>
      intro hlast
      exact ho (Option.some.inj hlast)
  | cons c cs ih =>
      have hc : c.toLower ≠ '_' :=
        Text.ne_underscore_of_isAlphanum (Text.isAlphanum_toLower (h c List.mem_cons_self))
      have hrest : (c.toLower :: snakeFrom c cs).getLast? ≠ some '_' :=
        ih (fun d hd => h d (List.mem_cons_of_mem c hd)) hc
      rw [snakeFrom, ← List.cons_append, List.getLast?_append_of_ne_nil _ (List.cons_ne_nil _ _)]
      exact hrest

/-- Without the underscores, snake case spells the name in lower case. -/
theorem filter_snakeFrom (h : ∀ c ∈ cs, c.isAlphanum = true) :
    (snakeFrom prev cs).filter (· ≠ '_') = cs.map Char.toLower := by
  induction cs generalizing prev with
  | nil => rfl
  | cons c cs ih =>
      have hc : c.toLower ≠ '_' :=
        Text.ne_underscore_of_isAlphanum (Text.isAlphanum_toLower (h c List.mem_cons_self))
      have hmark : (if c.isUpper && startsWord prev cs.head? then ['_'] else []).filter (· ≠ '_') =
          [] := by
        split <;> rfl
      rw [snakeFrom, List.filter_append, hmark, List.nil_append,
        List.filter_cons_of_pos (by simpa using hc),
        ih fun d hd => h d (List.mem_cons_of_mem c hd), List.map_cons]

/-- The snake case of a name in camel case. -/
theorem snakeChars_cons (h : ∀ d ∈ c :: cs, d.isAlphanum = true) :
    snakeChars (c :: cs) = c.toLower :: snakeFrom c cs := by
  have hc : c.isAlphanum = true := h c List.mem_cons_self
  have hcs : ∀ d ∈ cs, d.isAlphanum = true := fun d hd => h d (List.mem_cons_of_mem c hd)
  have hlower : c.toLower ≠ '_' := Text.ne_underscore_of_isAlphanum (Text.isAlphanum_toLower hc)
  have hrev : ((snakeFrom c cs).reverse ++ [c.toLower]).reverse = c.toLower :: snakeFrom c cs := by
    simp
  rw [snakeChars_eq, snakeInto_cons_none hc, snakeInto_eq hcs hlower, hrev,
    rdropWhile_underscore (getLast?_snakeFrom hcs hlower)]

theorem IsCamel.isSnake_snakeChars (h : IsCamel cs) : IsSnake (snakeChars cs) := by
  obtain ⟨c, rest, rfl, hc⟩ := h.capital
  have hrest : ∀ d ∈ rest, d.isAlphanum = true := fun d hd => h.alphanum d (List.mem_cons_of_mem c hd)
  have hlower : c.toLower ≠ '_' :=
    Text.ne_underscore_of_isAlphanum (Text.isAlphanum_toLower (Text.isAlphanum_of_isUpper hc))
  rw [snakeChars_cons h.alphanum]
  refine ⟨⟨c.toLower, _, rfl, Text.isLower_toLower hc⟩, ?_, isChain_snakeFrom hrest hlower,
    getLast?_snakeFrom hrest hlower⟩
  intro d hd
  rcases List.mem_cons.mp hd with rfl | hd
  · exact Or.inl (Text.isLower_toLower hc)
  · exact chars_of_mem_snakeFrom hrest hd

theorem IsCamel.filter_snakeChars (h : IsCamel cs) :
    (snakeChars cs).filter (· ≠ '_') = cs.map Char.toLower := by
  obtain ⟨c, rest, rfl, hc⟩ := h.capital
  have hlower : c.toLower ≠ '_' :=
    Text.ne_underscore_of_isAlphanum (Text.isAlphanum_toLower (Text.isAlphanum_of_isUpper hc))
  rw [snakeChars_cons h.alphanum, List.filter_cons_of_pos (by simpa using hlower),
    filter_snakeFrom fun d hd => h.alphanum d (List.mem_cons_of_mem c hd), List.map_cons]

/-! ## Snake case of a name in snake case -/

theorem IsSnake.isAscii_and_not_blank (h : IsSnake cs) :
    ∀ c ∈ cs, Text.isAscii c = true ∧ Text.isBlank c = false := by
  intro c hc
  by_cases hmark : c = '_'
  · subst hmark
    decide
  · have halnum : c.isAlphanum = true := by
      have := h.chars c hc
      rw [Text.isAlphanum_iff]
      tauto
    exact ⟨Text.isAscii_of_isAlphanum halnum, Text.isBlank_of_isAlphanum halnum⟩

/-- The pass writes a text without capitals and without doubled underscores as it is. -/
theorem snakeInto_of_isChain (hchars : ∀ c ∈ cs, c.isLower = true ∨ c.isDigit = true ∨ c = '_')
    (hapart : (o :: cs).IsChain Apart) :
    snakeInto (some prev) (o :: os) cs = cs.reverse ++ o :: os := by
  induction cs generalizing prev o os with
  | nil => rfl
  | cons c cs ih =>
      have hrest := fun d hd => hchars d (List.mem_cons_of_mem c hd)
      rw [List.isChain_cons_cons] at hapart
      by_cases hc : c = '_'
      · -- an underscore breaks the word, and the character before it was none
        subst hc
        have ho : o ≠ '_' := fun heq => hapart.1 heq rfl
        have hsep : Text.isAlphanumeric '_' = false := by decide
        rw [snakeInto, hsep, breakWord_cons ho, if_pos (by rfl), ih hrest hapart.2]
        simp
      · -- a small letter or a digit starts no word and is written as it is
        have hclass : c.isLower = true ∨ c.isDigit = true := by
          have := hchars c List.mem_cons_self
          tauto
        have halnum : c.isAlphanum = true := Text.isAlphanum_iff.mpr (Or.inr hclass)
        have hupper := Text.isUpper_eq_false hclass
        rw [snakeInto_cons_of_isAlphanum halnum, hupper,
          Text.toLower_of_isUpper_eq_false hupper (Text.isAscii_of_isAlphanum halnum), ih hrest hapart.2]
        simp

/-- Snake case is stable. -/
theorem IsSnake.snakeChars_eq_self (h : IsSnake cs) : snakeChars cs = cs := by
  obtain ⟨c, rest, rfl, hc⟩ := h.letter
  have hupper := Text.isUpper_eq_false (Or.inl hc)
  have halnum : c.isAlphanum = true := Text.isAlphanum_iff.mpr (Or.inr (Or.inl hc))
  have hrev : (rest.reverse ++ [c]).reverse = c :: rest := by simp
  rw [snakeChars_eq, snakeInto_cons_none halnum,
    Text.toLower_of_isUpper_eq_false hupper (Text.isAscii_of_isAlphanum halnum),
    snakeInto_of_isChain (fun d hd => h.chars d (List.mem_cons_of_mem c hd)) h.apart, hrev,
    rdropWhile_underscore h.last]

/-! ## The round trip through camel case -/

/-- What follows `prev` when a name goes through snake case and back: a capital stays where a word
starts. -/
def recaseFrom (prev : Char) : List Char → List Char
  | [] => []
  | c :: cs =>
    (if c.isUpper && startsWord prev cs.head? then c else c.toLower) :: recaseFrom c cs

theorem camelFrom_snakeFrom (h : ∀ c ∈ cs, c.isAlphanum = true) :
    camelFrom false (snakeFrom prev cs) = recaseFrom prev cs := by
  induction cs generalizing prev with
  | nil => rfl
  | cons c cs ih =>
      have hc := h c List.mem_cons_self
      have hrest : camelFrom false (snakeFrom c cs) = recaseFrom c cs :=
        ih fun d hd => h d (List.mem_cons_of_mem c hd)
      have hlower := Text.isAlphanum_toLower hc
      rw [snakeFrom, recaseFrom]
      by_cases hword : (c.isUpper && startsWord prev cs.head?) = true
      · -- the underscore is dropped, and the letter behind it becomes a capital again
        have hupper : c.isUpper = true := (Bool.and_eq_true_iff.mp hword).1
        rw [if_pos hword, if_pos hword, List.singleton_append,
          camelFrom_cons_of_neg (c := '_') (by decide), camelFrom_cons_of_pos hlower, hrest,
          if_pos rfl, Text.toUpper_toLower (Text.isAscii_of_isAlphanum hc),
          Text.toUpper_of_isUpper hupper]
      · rw [if_neg hword, if_neg hword, List.nil_append, camelFrom_cons_of_pos hlower, hrest]
        rfl

/-- What starts a word behind a character starts one behind its lowercase image, and it is enough
that what follows is still lowercase if it was. -/
theorem startsWord_recase {next next' : Option Char} (hascii : Text.isAscii prev = true)
    (hprev : prev' = prev ∨ prev' = prev.toLower)
    (hnext : (next.map Text.isLowercase).getD false = true →
      (next'.map Text.isLowercase).getD false = true)
    (h : startsWord prev next = true) : startsWord prev' next' = true := by
  by_cases heq : prev' = prev
  · subst heq
    simp only [startsWord, Bool.or_eq_true, Bool.and_eq_true] at h ⊢
    tauto
  · -- only a capital is changed, and behind a small letter every capital starts a word
    have hlower : prev' = prev.toLower := hprev.resolve_left heq
    have hupper : prev.isUpper = true := by
      by_contra hupper
      rw [Text.toLower_of_isUpper_eq_false (by simpa using hupper) hascii] at hlower
      exact heq hlower
    have hstart : Text.isLowercase prev' = true := by
      have hlow := Text.isLower_toLower hupper
      rw [hlower, Text.isLowercase_of_isAscii]
      · exact hlow
      · exact Text.isAscii_of_isAlphanum (Text.isAlphanum_iff.mpr (Or.inr (Or.inl hlow)))
    rw [startsWord, hstart, Bool.true_or, Bool.true_or]

theorem head?_recaseFrom (h : ∀ c ∈ cs, c.isAlphanum = true)
    (hlower : (cs.head?.map Text.isLowercase).getD false = true) :
    ((recaseFrom prev cs).head?.map Text.isLowercase).getD false = true := by
  cases cs with
  | nil => cases hlower
  | cons c cs =>
      have hascii := Text.isAscii_of_isAlphanum (h c List.mem_cons_self)
      have hc : c.isLower = true := by
        rw [← Text.isLowercase_of_isAscii hascii]
        exact hlower
      have hupper := Text.isUpper_eq_false (Or.inl hc)
      rw [recaseFrom, hupper, Text.toLower_of_isUpper_eq_false hupper hascii]
      simpa using hlower

/-- The words of a name are found again in what comes back. -/
theorem snakeFrom_recaseFrom (h : ∀ c ∈ cs, c.isAlphanum = true)
    (hascii : Text.isAscii prev = true) (hprev : prev' = prev ∨ prev' = prev.toLower) :
    snakeFrom prev' (recaseFrom prev cs) = snakeFrom prev cs := by
  induction cs generalizing prev prev' with
  | nil => rfl
  | cons c cs ih =>
      have hc := Text.isAscii_of_isAlphanum (h c List.mem_cons_self)
      have hcs : ∀ d ∈ cs, d.isAlphanum = true := fun d hd => h d (List.mem_cons_of_mem c hd)
      rw [recaseFrom, snakeFrom.eq_def prev (c :: cs)]
      by_cases hword : (c.isUpper && startsWord prev cs.head?) = true
      · have hstarts : startsWord prev' (recaseFrom c cs).head? = true :=
          startsWord_recase hascii hprev (head?_recaseFrom hcs) (Bool.and_eq_true_iff.mp hword).2
        have hagain : (c.isUpper && startsWord prev' (recaseFrom c cs).head?) = true :=
          Bool.and_eq_true_iff.mpr ⟨(Bool.and_eq_true_iff.mp hword).1, hstarts⟩
        simp only [if_pos hword]
        rw [snakeFrom, if_pos hagain, ih hcs hc (Or.inl rfl)]
      · -- what was lowered is no capital any more, so it starts no word
        have hstill : ¬(c.toLower.isUpper && startsWord prev' (recaseFrom c cs).head?) = true := by
          rw [Text.isUpper_toLower hc]
          exact Bool.false_ne_true
        simp only [if_neg hword]
        rw [snakeFrom, if_neg hstill, ih hcs hc (Or.inr rfl), Text.toLower_toLower hc]

/-- A name in snake case is read as a name with the same snake case. -/
theorem IsCamel.camelFrom_snakeChars (h : IsCamel cs) :
    IsCamel (camelFrom true (snakeChars cs)) ∧
      snakeChars (camelFrom true (snakeChars cs)) = snakeChars cs := by
  obtain ⟨c, rest, rfl, hc⟩ := h.capital
  have halnum : c.isAlphanum = true := h.alphanum c List.mem_cons_self
  have hascii := Text.isAscii_of_isAlphanum halnum
  have hrest : ∀ d ∈ rest, d.isAlphanum = true := fun d hd => h.alphanum d (List.mem_cons_of_mem c hd)
  have hback : camelFrom true (snakeChars (c :: rest)) = c :: recaseFrom c rest := by
    rw [snakeChars_cons h.alphanum, camelFrom_cons_of_pos (Text.isAlphanum_toLower halnum),
      if_pos rfl, Text.toUpper_toLower hascii, Text.toUpper_of_isUpper hc, camelFrom_snakeFrom hrest]
  have hcamel : IsCamel (c :: recaseFrom c rest) :=
    ⟨⟨c, _, rfl, hc⟩, fun d hd => isAlphanum_of_mem_camelFrom (hback ▸ hd)⟩
  rw [hback]
  refine ⟨hcamel, ?_⟩
  rw [snakeChars_cons hcamel.alphanum, snakeFrom_recaseFrom hrest hascii (Or.inl rfl),
    snakeChars_cons h.alphanum]

end Name

/-! ## Names that are read -/

namespace Identifier

variable {raw : String} {i : Identifier}

theorem toList_snake (i : Identifier) : i.snake.toList = Name.snakeChars i.canonical.toList :=
  String.toList_ofList

theorem exists_ofName_snake (h : Name.IsCamel i.canonical.toList) :
    ∃ j, ofName i.snake = .ok j ∧ j.snake = i.snake := by
  obtain ⟨hcamel, hsnake⟩ := h.camelFrom_snakeChars
  have hform : Name.IsSnake i.snake.toList := by
    rw [toList_snake]
    exact h.isSnake_snakeChars
  have hread : (Name.camel (Text.trim i.snake)).toList =
      Name.camelFrom true (Name.snakeChars i.canonical.toList) := by
    rw [toList_camel_trim fun c hc => (hform.isAscii_and_not_blank c hc).1,
      Text.trimChars_of_forall_not fun c hc => (hform.isAscii_and_not_blank c hc).2, toList_snake]
  have hcapital : ((Name.camel (Text.trim i.snake)).toList.head?.map Char.isUpper).getD false = true := by
    obtain ⟨c, rest, hcons, hc⟩ := hcamel.capital
    rw [hread, hcons]
    exact hc
  obtain ⟨j, hj⟩ := exists_ofName_iff.mpr hcapital
  refine ⟨j, hj, ?_⟩
  rw [← String.toList_inj, toList_snake, toList_snake, ofName_eq_ok_iff.mp hj, hread, hsnake]

/-- Reading an ASCII name.  It is accepted exactly when the first of its letters and digits is a
letter.  The canonical name keeps the letters and digits in their order and is read as itself; its
snake case spells it in lower case, is stable, and is read as a name with the same snake case. -/
theorem ofName_ascii (hascii : ∀ c ∈ raw.toList, Text.isAscii c = true) :
    ((∃ i, ofName raw = .ok i) ↔
      ∃ c, raw.toList.find? Char.isAlphanum = some c ∧ c.isAlpha = true) ∧
    ((¬∃ i, ofName raw = .ok i) → ofName raw = .error (.invalidName raw)) ∧
    ∀ i, ofName raw = .ok i →
      Name.IsCamel i.canonical.toList ∧
      i.canonical.toList.map Char.toLower =
        (raw.toList.filter Char.isAlphanum).map Char.toLower ∧
      ofName i.canonical = .ok i ∧
      Name.IsSnake i.snake.toList ∧
      i.snake.toList.filter (· ≠ '_') = i.canonical.toList.map Char.toLower ∧
      Name.snake i.snake = i.snake ∧
      ∃ j, ofName i.snake = .ok j ∧ j.snake = i.snake := by
  refine ⟨exists_ofName_eq_ok_iff hascii, ofName_eq_error, ?_⟩
  intro i hi
  have hcamel := isCamel_of_ofName hascii hi
  have hsnake : Name.IsSnake i.snake.toList := by
    rw [toList_snake]
    exact hcamel.isSnake_snakeChars
  refine ⟨hcamel, ?_, ofName_canonical hcamel, hsnake, ?_, ?_, exists_ofName_snake hcamel⟩
  · rw [ofName_eq_ok_iff.mp hi, toList_camel_trim hascii, Name.map_toLower_camelFrom,
      Text.filter_trimChars]
  · rw [toList_snake, hcamel.filter_snakeChars]
  · rw [Name.snake, hsnake.snakeChars_eq_self, String.ofList_toList]

/-- A name with an acronym, a digit and characters that are neither letter nor digit. -/
theorem ofName_ascii_acronym :
    (∀ c ∈ " HTTP-server 2Go!".toList, Text.isAscii c = true) ∧
    ∃ i, ofName " HTTP-server 2Go!" = .ok i ∧ i.canonical = "HTTPServer2Go" ∧
      i.snake = "http_server2_go" ∧ ∃ j, ofName "http_server2_go" = .ok j ∧ j.snake = i.snake := by
  have hascii : ∀ c ∈ " HTTP-server 2Go!".toList, Text.isAscii c = true :=
    List.all_eq_true.mp (by decide)
  obtain ⟨hiff, -, hread⟩ := ofName_ascii hascii
  obtain ⟨i, hi⟩ := hiff.mpr ⟨'H', by decide, by decide⟩
  have hcanonical : i.canonical = "HTTPServer2Go" := by
    rw [ofName_eq_ok_iff.mp hi]
    decide
  have hsnake : i.snake = "http_server2_go" := by
    rw [snake, hcanonical]
    decide
  obtain ⟨-, -, -, -, -, -, j, hj, hsame⟩ := hread i hi
  exact ⟨hascii, i, hi, hcanonical, hsnake, j, hsnake ▸ hj, hsame⟩

end Identifier

end RouteWorks
