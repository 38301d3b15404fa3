import RouteWorks.Name
import RouteWorks.Proofs.Text.Ascii
import RouteWorks.Proofs.Text.Blank
import RouteWorks.Proofs.Text.Joined

/-!
# Camel case of ASCII names

Camel case is defined on words: a name is cut, every word is capitalized, and the words are put
together.  On ASCII characters this is one pass that remembers whether a word is about to start
(`camelFrom`), and that is the form the properties of canonical names are proved on.
-/

namespace RouteWorks

/-! ## Trimming and what is kept -/

namespace Text

theorem filter_dropWhile {p q : Char → Bool} (hpq : ∀ c, p c = true → q c = false)
    (cs : List Char) : (cs.dropWhile q).filter p = cs.filter p := by
  induction cs with
  | nil => rfl
  | cons c cs ih =>
      by_cases hq : q c = true
      · have hp : p c = false := by
          by_contra hp
          rw [hpq c (by simpa using hp)] at hq
          cases hq
        rw [List.dropWhile_cons_of_pos hq, ih, List.filter_cons_of_neg (by simp [hp])]
      · rw [List.dropWhile_cons_of_neg hq]

/-- Trimming takes no letter and no digit away. -/
theorem filter_trimChars (cs : List Char) :
    (trimChars cs).filter Char.isAlphanum = cs.filter Char.isAlphanum := by
  have hdrop := filter_dropWhile (p := Char.isAlphanum) (q := isBlank)
    fun _ => isBlank_of_isAlphanum
  rw [trimChars, stripWhile, dropEndWhile, List.filter_reverse, hdrop, ← List.filter_reverse,
    List.reverse_reverse, hdrop]

end Text

namespace Name

variable {c : Char} {cs : List Char} {start : Bool}

/-- Camel case of ASCII characters in one pass.  `start` says whether a word starts at the next
letter or digit. -/
def camelFrom (start : Bool) : List Char → List Char
  | [] => []
  | c :: cs =>
    if c.isAlphanum then (if start then c.toUpper else c) :: camelFrom false cs
    else camelFrom true cs

theorem camelFrom_cons_of_pos (hc : c.isAlphanum = true) :
    camelFrom start (c :: cs) = (if start then c.toUpper else c) :: camelFrom false cs :=
  if_pos hc

theorem camelFrom_cons_of_neg (hc : c.isAlphanum = false) :
    camelFrom start (c :: cs) = camelFrom true cs :=
  if_neg (by simp [hc])

/-- The pass meets the words of the name one after the other; it may start inside the first. -/
theorem exists_splitWords (hascii : ∀ c ∈ cs, Text.isAscii c = true) :
    ∃ word words, camelChars.splitWords cs = word :: words ∧
      ∀ start, camelFrom start cs =
        (if start then capitalize word else word) ++ words.flatMap capitalize := by
  induction cs with
  | nil => exact ⟨[], [], rfl, fun start => by cases start <;> rfl⟩
  | cons c cs ih =>
      obtain ⟨word, words, hwords, hpass⟩ :=
        ih fun d hd => hascii d (List.mem_cons_of_mem c hd)
      have hc : Text.isAscii c = true := hascii c List.mem_cons_self
      rw [camelChars.splitWords, Text.splitWhen_cons, Text.isAlphanumeric_of_isAscii hc]
      rw [camelChars.splitWords] at hwords
      by_cases halnum : c.isAlphanum = true
      · -- a letter or digit stands in front of the first word
        refine ⟨c :: word, words, by simp [halnum, hwords], ?_⟩
        intro start
        rw [camelFrom_cons_of_pos halnum, hpass false]
        cases start
        · simp
        · simp [capitalize, Text.upper_of_isAscii hc]
      · -- anything else stands between words, so the first one is empty
        refine ⟨[], word :: words, by simp [halnum, hwords], ?_⟩
        intro start
        rw [camelFrom_cons_of_neg (by simpa using halnum), hpass true]
        cases start <;> simp [capitalize]

theorem camelChars_eq (hascii : ∀ c ∈ cs, Text.isAscii c = true) :
    camelChars cs = camelFrom true cs := by
  obtain ⟨word, words, hwords, hpass⟩ := exists_splitWords hascii
  rw [camelChars, hwords, hpass true, List.flatMap_cons, if_pos rfl]

/-! ## What a canonical name is made of -/

theorem isAlphanum_of_mem_camelFrom {d : Char} (hd : d ∈ camelFrom start cs) :
    d.isAlphanum = true := by
  induction cs generalizing start with
  | nil => cases hd
  | cons c cs ih =>
      by_cases hc : c.isAlphanum = true
      · rw [camelFrom_cons_of_pos hc] at hd
        rcases List.mem_cons.mp hd with rfl | hd
        · cases start
          · exact hc
          · exact Text.isAlphanum_toUpper hc
        · exact ih hd
      · rw [camelFrom_cons_of_neg (by simpa using hc)] at hd
        exact ih hd

/-- Up to case, camel case keeps the letters and digits in their order and nothing else. -/
theorem map_toLower_camelFrom (start : Bool) (cs : List Char) :
    (camelFrom start cs).map Char.toLower = (cs.filter Char.isAlphanum).map Char.toLower := by
  induction cs generalizing start with
  | nil => rfl
  | cons c cs ih =>
      by_cases hc : c.isAlphanum = true
      · rw [camelFrom_cons_of_pos hc, List.filter_cons_of_pos hc, List.map_cons, List.map_cons, ih]
        cases start
        · rfl
        · rw [if_pos rfl, Text.toLower_toUpper (Text.isAscii_of_isAlphanum hc)]
      · rw [camelFrom_cons_of_neg (by simpa using hc), List.filter_cons_of_neg hc, ih]

/-- A canonical name starts with the first letter or digit of the name. -/
theorem head?_camelFrom (cs : List Char) :
    (camelFrom true cs).head? = (cs.find? Char.isAlphanum).map Char.toUpper := by
  induction cs with
  | nil => rfl
  | cons c cs ih =>
      by_cases hc : c.isAlphanum = true
      · rw [camelFrom_cons_of_pos hc, List.find?_cons_of_pos hc]
        rfl
      · rw [camelFrom_cons_of_neg (by simpa using hc), List.find?_cons_of_neg hc, ih]

theorem camelFrom_false (h : ∀ c ∈ cs, c.isAlphanum = true) : camelFrom false cs = cs := by
  induction cs with
  | nil => rfl
  | cons c cs ih =>
      rw [camelFrom_cons_of_pos (h c List.mem_cons_self),
        ih fun d hd => h d (List.mem_cons_of_mem c hd)]
      rfl

/-- The form of a canonical name: letters and digits, the first of them a capital. -/
structure IsCamel (cs : List Char) : Prop where
  capital : ∃ c rest, cs = c :: rest ∧ c.isUpper = true
  alphanum : ∀ c ∈ cs, c.isAlphanum = true

theorem IsCamel.isAscii (h : IsCamel cs) : ∀ c ∈ cs, Text.isAscii c = true :=
  fun c hc => Text.isAscii_of_isAlphanum (h.alphanum c hc)

/-- What is in camel case is one word. -/
theorem IsCamel.camelFrom_eq_self (h : IsCamel cs) : camelFrom true cs = cs := by
  obtain ⟨c, rest, rfl, hc⟩ := h.capital
  rw [camelFrom_cons_of_pos (Text.isAlphanum_of_isUpper hc),
    camelFrom_false fun d hd => h.alphanum d (List.mem_cons_of_mem c hd), if_pos rfl,
    Text.toUpper_of_isUpper hc]

end Name

/-! ## Reading a name -/

namespace Identifier

variable {raw : String} {i : Identifier}

/-- The canonical name that a text is read as, whether or not it is accepted. -/
theorem toList_camel_trim (hascii : ∀ c ∈ raw.toList, Text.isAscii c = true) :
    (Name.camel (Text.trim raw)).toList = Name.camelFrom true (Text.trimChars raw.toList) := by
  rw [Name.camel, Text.trim, String.toList_ofList, String.toList_ofList]
  exact Name.camelChars_eq fun c hc => hascii c (Text.mem_of_mem_trimChars hc)

theorem ext {i j : Identifier} (h : i.canonical = j.canonical) : i = j := by
  cases i
  cases j
  cases h
  rfl

/-- A text is read as the identifier whose name is its camel case. -/
theorem ofName_eq_ok_iff : ofName raw = .ok i ↔ i.canonical = Name.camel (Text.trim raw) := by
  constructor
  · intro h
    rw [ofName] at h
    split at h
    · rw [← Except.ok.inj h]
    · cases h
  · intro h
    have hcapital : ((Name.camel (Text.trim raw)).toList.head?.map Char.isUpper).getD false = true :=
      h ▸ i.capital
    rw [ofName, dif_pos hcapital]
    exact congrArg Except.ok (ext h.symm)

/-- A text is read as an identifier exactly when its camel case starts with a capital. -/
theorem exists_ofName_iff :
    (∃ i, ofName raw = .ok i) ↔
      ((Name.camel (Text.trim raw)).toList.head?.map Char.isUpper).getD false = true := by
  constructor
  · rintro ⟨i, hi⟩
    rw [← ofName_eq_ok_iff.mp hi]
    exact i.capital
  · intro hcapital
    rw [ofName, dif_pos hcapital]
    exact ⟨_, rfl⟩

theorem ofName_eq_error (h : ¬∃ i, ofName raw = .ok i) : ofName raw = .error (.invalidName raw) := by
  rw [exists_ofName_iff] at h
  rw [ofName, dif_neg h]

/-- An identifier with an ASCII name is in camel case. -/
theorem isCamel (h : ∀ c ∈ i.canonical.toList, Text.isAscii c = true) :
    Name.IsCamel i.canonical.toList where
  capital := by
    have hcapital := i.capital
    cases hcs : i.canonical.toList with
    | nil =>
        rw [hcs] at hcapital
        cases hcapital
    | cons c rest =>
        rw [hcs] at hcapital
        exact ⟨c, rest, rfl, hcapital⟩
  alphanum := by
    intro c hc
    have hname := List.all_eq_true.mp i.nameChars c hc
    rw [Text.isNameChar, h c hc] at hname
    simpa using hname

/-- What an ASCII name is read as is in camel case. -/
theorem isCamel_of_ofName (hascii : ∀ c ∈ raw.toList, Text.isAscii c = true)
    (h : ofName raw = .ok i) : Name.IsCamel i.canonical.toList := by
  apply isCamel
  intro c hc
  rw [ofName_eq_ok_iff.mp h, toList_camel_trim hascii] at hc
  exact Text.isAscii_of_isAlphanum (Name.isAlphanum_of_mem_camelFrom hc)

/-- An ASCII name is accepted exactly when the first of its letters and digits is a letter. -/
theorem exists_ofName_eq_ok_iff (hascii : ∀ c ∈ raw.toList, Text.isAscii c = true) :
    (∃ i, ofName raw = .ok i) ↔
      ∃ c, raw.toList.find? Char.isAlphanum = some c ∧ c.isAlpha = true := by
  have hhead : (Name.camel (Text.trim raw)).toList.head? =
      (raw.toList.find? Char.isAlphanum).map Char.toUpper := by
    rw [toList_camel_trim hascii, Name.head?_camelFrom, ← List.head?_filter, ← List.head?_filter,
      Text.filter_trimChars]
  rw [exists_ofName_iff, hhead]
  constructor
  · intro hcapital
    cases hfind : raw.toList.find? Char.isAlphanum with
    | none =>
        rw [hfind] at hcapital
        cases hcapital
    | some c =>
        rw [hfind] at hcapital
        refine ⟨c, rfl, ?_⟩
        rw [← Text.isUpper_toUpper (hascii c (List.mem_of_find?_eq_some hfind))]
        exact hcapital
  · rintro ⟨c, hfind, halpha⟩
    rw [hfind]
    show c.toUpper.isUpper = true
    rw [Text.isUpper_toUpper (hascii c (List.mem_of_find?_eq_some hfind)), halpha]

/-- Reading a canonical name again gives the same identifier. -/
theorem ofName_canonical (h : Name.IsCamel i.canonical.toList) : ofName i.canonical = .ok i := by
  rw [ofName_eq_ok_iff, ← String.toList_inj, toList_camel_trim h.isAscii,
    Text.trimChars_of_forall_not fun c hc => Text.isBlank_of_isAlphanum (h.alphanum c hc),
    h.camelFrom_eq_self]

end Identifier

end RouteWorks
