import RouteWorks.Proofs.FileSystem.Walk
import RouteWorks.Proofs.Text.Blank
import RouteWorks.Upload.Basic

/-!
# Where uploaded files are stored

The name that a client gives goes through four filters: the last part, the characters, the dots in front,
the blanks at the ends.  Trimming is the last of them and can uncover a dot that was not in front before,
so a stored name starts with a dot if and only if blank characters hide one (`HidesDot`).  With this
exception every name that is tried is the name of a child of the upload directory
(`candidate_leads_below`); the exception leads out of it (`storedName_leads_above`).
-/

namespace RouteWorks.UploadedFile

open Location (IsPart)

/-- The characters of the last part of a name that may be in the name of a file. -/
def keptChars (name : List Char) : List Char :=
  ((Text.splitWhen (fun c => c == '/' || c == '\\') name).getLastD []).filter (!isUnsafe ·)

/-- Blank characters between the dots that open a name and another dot. -/
def HidesDot (cs : List Char) : Prop :=
  ∃ dots blanks rest, cs = dots ++ (blanks ++ '.' :: rest) ∧ (∀ c ∈ dots, c = '.') ∧
    blanks ≠ [] ∧ ∀ c ∈ blanks, Text.isBlank c = true

/-- A text with which nothing but its dots can be wrong as the name of a file. -/
structure IsStorable (name : String) : Prop where
  ne_empty : name ≠ ""
  no_separator : ∀ c ∈ name.toList, c ≠ '/' ∧ c ≠ '\\'
  no_control : ∀ c ∈ name.toList, Text.isControl c = false
  no_mark : ∀ c ∈ name.toList, c ∉ [':', '*', '?', '"', '<', '>', '|']
  trimmed : Text.trim name = name

/-! ## The stored name -/

section Stored

variable {c : Char} {cs : List Char}

theorem cleanName_eq (cs : List Char) :
    cleanName cs = Text.trimChars ((keptChars cs).dropWhile (· == '.')) := rfl

theorem isUnsafe_eq_false (h : isUnsafe c = false) :
    Text.isControl c = false ∧ c ∉ [':', '*', '?', '"', '<', '>', '|'] := by
  rw [isUnsafe, Bool.or_eq_false_iff] at h
  obtain ⟨hcontrol, hmark⟩ := h
  refine ⟨hcontrol, ?_⟩
  intro hmem
  rw [List.contains_iff_mem.mpr hmem] at hmark
  cases hmark

/-- The last part of a name has no separators. -/
theorem not_separator_of_mem_getLastD {name : List Char}
    (h : c ∈ (Text.splitWhen (fun c => c == '/' || c == '\\') name).getLastD []) :
    c ≠ '/' ∧ c ≠ '\\' := by
  have hne : Text.splitWhen (fun c => c == '/' || c == '\\') name ≠ [] := Text.splitWhen_ne_nil name
  rw [List.getLastD_eq_getLast?, List.getLast?_eq_some_getLast hne, Option.getD_some] at h
  have hsep := Text.not_sep_of_mem_splitWhen (List.getLast_mem hne) h
  simpa using hsep

theorem of_mem_cleanName (h : c ∈ cleanName cs) : (c ≠ '/' ∧ c ≠ '\\') ∧ isUnsafe c = false := by
  have hkept : c ∈ keptChars cs :=
    (List.dropWhile_suffix _).subset (Text.mem_of_mem_trimChars h)
  obtain ⟨hlast, hsafe⟩ := List.mem_filter.mp hkept
  exact ⟨not_separator_of_mem_getLastD hlast, by simpa using hsafe⟩

theorem storedName_cases (name : String) :
    (cleanName name.toList = [] ∧ storedName name = "upload") ∨
      (cleanName name.toList ≠ [] ∧ (storedName name).toList = cleanName name.toList) := by
  rw [storedName]
  cases h : cleanName name.toList with
  | nil => exact Or.inl ⟨rfl, rfl⟩
  | cons c rest => exact Or.inr ⟨List.cons_ne_nil c rest, String.toList_ofList⟩

theorem of_mem_storedName {name : String} (hc : c ∈ (storedName name).toList) :
    (c ≠ '/' ∧ c ≠ '\\') ∧ isUnsafe c = false := by
  rcases storedName_cases name with ⟨-, h⟩ | ⟨-, h⟩
  · have hupload : "upload".toList.all (fun c => c != '/' && c != '\\' && !isUnsafe c) = true := by
      decide
    rw [h] at hc
    simpa using List.all_eq_true.mp hupload c hc
  · rw [h] at hc
    exact of_mem_cleanName hc

theorem storedName_ne_empty (name : String) : storedName name ≠ "" := by
  rcases storedName_cases name with ⟨-, h⟩ | ⟨hne, h⟩
  · rw [h]
    decide
  · intro hempty
    rw [hempty] at h
    exact hne h.symm

theorem trim_storedName (name : String) : Text.trim (storedName name) = storedName name := by
  rcases storedName_cases name with ⟨-, h⟩ | ⟨-, h⟩
  · rw [h]
    decide
  · rw [Text.trim, h, cleanName_eq, Text.trimChars_trimChars, ← cleanName_eq, ← h,
      String.ofList_toList]

theorem isStorable_storedName (name : String) : IsStorable (storedName name) where
  ne_empty := storedName_ne_empty name
  no_separator := fun _ hc => (of_mem_storedName hc).1
  no_control := fun _ hc => (isUnsafe_eq_false (of_mem_storedName hc).2).1
  no_mark := fun _ hc => (isUnsafe_eq_false (of_mem_storedName hc).2).2
  trimmed := trim_storedName name

/-- Dropping the dots and then the blanks in front uncovers a dot when blanks hide one. -/
theorem hidesDot_iff :
    HidesDot cs ↔ ((cs.dropWhile (· == '.')).dropWhile Text.isBlank).head? = some '.' := by
  have hdot : Text.isBlank '.' = false := by decide
  constructor
  · rintro ⟨dots, blanks, rest, rfl, hdots, hne, hblanks⟩
    have hdots : ∀ c ∈ dots, (c == '.') = true := fun c hc => beq_of_eq (hdots c hc)
    have hstop : (blanks ++ '.' :: rest).dropWhile (· == '.') = blanks ++ '.' :: rest := by
      cases blanks with
      | nil => exact absurd rfl hne
      | cons b blanks =>
          have hb : (b == '.') = false := by
            rw [beq_eq_false_iff_ne]
            rintro rfl
            have := hblanks _ List.mem_cons_self
            rw [hdot] at this
            cases this
          rw [List.cons_append, List.dropWhile_cons, hb, if_neg Bool.false_ne_true]
    rw [List.dropWhile_append_of_pos hdots, hstop, List.dropWhile_append_of_pos hblanks,
      List.dropWhile_cons, hdot, if_neg Bool.false_ne_true]
    rfl
  · intro h
    obtain ⟨rest, hrest⟩ := List.head?_eq_some_iff.mp h
    obtain ⟨behind, hbehind⟩ : ∃ behind, cs.dropWhile (· == '.') = behind := ⟨_, rfl⟩
    rw [hbehind] at hrest
    have hsplit : behind.takeWhile Text.isBlank ++ '.' :: rest = behind := by
      rw [← hrest]
      exact List.takeWhile_append_dropWhile
    refine ⟨cs.takeWhile (· == '.'), behind.takeWhile Text.isBlank, rest, ?_, ?_, ?_, ?_⟩
    · rw [hsplit, ← hbehind]
      exact List.takeWhile_append_dropWhile.symm
    · intro c hc
      simpa using List.all_eq_true.mp List.all_takeWhile c hc
    · -- without blanks the dot would have been dropped with the others
      intro hnil
      rw [hnil, List.nil_append] at hsplit
      have hnot := List.head?_dropWhile_not (· == '.') cs
      rw [hbehind, ← hsplit] at hnot
      simp at hnot
    · intro c hc
      exact List.all_eq_true.mp List.all_takeWhile c hc

/-- The stored name starts with a dot exactly when blanks hide one. -/
theorem head?_storedName_iff (name : String) :
    (storedName name).toList.head? = some '.' ↔ HidesDot (keptChars name.toList) := by
  obtain ⟨rest, hrest⟩ := Text.trimChars_prefix_dropWhile ((keptChars name.toList).dropWhile (· == '.'))
  rw [← cleanName_eq] at hrest
  rw [hidesDot_iff, ← hrest, List.head?_append]
  rcases storedName_cases name with ⟨hnil, h⟩ | ⟨hne, h⟩
  · -- nothing is left but blanks
    have hdrop : ((keptChars name.toList).dropWhile (· == '.')).dropWhile Text.isBlank = [] :=
      List.dropWhile_eq_nil_iff.mpr (Text.trimChars_eq_nil_iff.mp hnil)
    rw [hnil, hdrop, List.nil_append] at hrest
    rw [h, hnil, hrest]
    decide
  · obtain ⟨c, tail, hcons⟩ := List.exists_cons_of_ne_nil hne
    rw [h, hcons]
    rfl

end Stored

/-! ## The names that are tried -/

section Candidates

variable {name : String}

theorem splitExtension_append (name : String) :
    (splitExtension name).1 ++ (splitExtension name).2 = name.toList := by
  rw [splitExtension]
  split
  · exact List.append_nil _
  · exact List.append_nil _
  · rename_i ext stem _ hcut
    obtain ⟨hreverse, -⟩ := Text.cutAt?_mark_eq_some_iff.mp hcut
    have hlist := congrArg List.reverse hreverse
    rw [List.reverse_reverse, List.reverse_append, List.reverse_cons] at hlist
    rw [hlist]
    simp

/-- A numbered name has the characters of the name, an underscore and digits. -/
theorem mem_candidate_succ {c : Char} {n : Nat} (h : c ∈ (candidate name (n + 1)).toList) :
    c ∈ name.toList ∨ c = '_' ∨ c.isDigit = true := by
  rw [candidate, String.toList_ofList, List.append_assoc, List.cons_append] at h
  rw [← splitExtension_append name]
  rcases List.mem_append.mp h with h | h
  · exact Or.inl (List.mem_append_left _ h)
  rcases List.mem_cons.mp h with h | h
  · exact Or.inr (Or.inl h)
  rcases List.mem_append.mp h with h | h
  · right; right
    rw [Nat.toString_eq_ofList_toDigits, String.toList_ofList] at h
    exact Nat.isDigit_of_mem_toDigits (by decide) (by decide) h
  · exact Or.inl (List.mem_append_right _ h)

theorem underscore_mem_candidate (name : String) (n : Nat) :
    '_' ∈ (candidate name (n + 1)).toList := by
  rw [candidate, String.toList_ofList, List.append_assoc, List.cons_append]
  exact List.mem_append_right _ List.mem_cons_self

theorem isPart_candidate_succ (h : IsStorable name) (n : Nat) :
    IsPart (candidate name (n + 1)) := by
  have hmark := underscore_mem_candidate name n
  have hother : ∀ text : String, '_' ∉ text.toList → candidate name (n + 1) ≠ text := by
    rintro text htext rfl
    exact htext hmark
  have hchars : ∀ c ∈ (candidate name (n + 1)).toList, c ≠ '/' ∧ c ≠ '\\' := by
    intro c hc
    rcases mem_candidate_succ hc with hname | rfl | hdigit
    · exact h.no_separator c hname
    · decide
    · refine ⟨?_, ?_⟩
      · rintro rfl
        exact absurd hdigit (by decide)
      · rintro rfl
        exact absurd hdigit (by decide)
  refine ⟨hother _ (by decide), hother _ (by decide), hother _ (by decide), ?_, ?_⟩
  · exact fun hslash => (hchars _ hslash).1 rfl
  · exact fun hback => (hchars _ hback).2 rfl

/-- Of the names that are tried, only the first can be no name of a file, and only if it starts with a
dot. -/
theorem isPart_candidate (h : IsStorable name) {n : Nat}
    (hdot : 0 < n ∨ name.toList.head? ≠ some '.') : IsPart (candidate name n) := by
  cases n with
  | succ n => exact isPart_candidate_succ h n
  | zero =>
      have hdot : name.toList.head? ≠ some '.' := hdot.resolve_left (lt_irrefl 0)
      refine ⟨h.ne_empty, ?_, ?_, ?_, ?_⟩
      · rintro rfl
        exact hdot rfl
      · rintro rfl
        exact hdot rfl
      · exact fun hslash => (h.no_separator _ hslash).1 rfl
      · exact fun hback => (h.no_separator _ hback).2 rfl

/-- A stored name has no separator, control character or mark in it and no blank at an end, and it
starts with a dot if and only if blanks hide one.  Every name that is tried for a file, unless it is such
a name itself, is that of a child of the directory. -/
theorem candidate_leads_below (name : String) :
    IsStorable (storedName name) ∧
    ((storedName name).toList.head? = some '.' ↔ HidesDot (keptChars name.toList)) ∧
    ∀ n, 0 < n ∨ ¬ HidesDot (keptChars name.toList) →
      IsPart (candidate (storedName name) n) ∧
      ∀ (fs : FileSystem) (cwd : Place) (dir : String),
        fs.locate? cwd (FilePath.append dir (candidate (storedName name) n)) =
          (fs.locate? cwd dir).bind fun place =>
            if fs.isDirectory place && FileSystem.isNameAllowed (candidate (storedName name) n) then
              some (place ++ [candidate (storedName name) n])
            else none := by
  have hstorable := isStorable_storedName name
  refine ⟨hstorable, head?_storedName_iff name, ?_⟩
  intro n hn
  have hpart : IsPart (candidate (storedName name) n) :=
    isPart_candidate hstorable (hn.imp_right (mt (head?_storedName_iff name).mp))
  exact ⟨hpart, fun fs cwd dir => fs.locate?_append cwd dir hpart⟩

/-- A server with nothing but its upload directory. -/
def server : FileSystem :=
  { entries := [(["srv"], .directory), (["srv", "upload"], .directory)] }

/-- A name that climbs is stored under its last part. -/
theorem candidate_leads_below_passwd :
    ¬ HidesDot (keptChars "../../etc/passwd".toList) ∧ IsStorable (storedName "../../etc/passwd") ∧
      server.locate? [] (FilePath.append "/srv/upload"
        (candidate (storedName "../../etc/passwd") 0)) = some ["srv", "upload", "passwd"] := by
  have hname : storedName "../../etc/passwd" = "passwd" := by decide
  have hdot : ¬ HidesDot (keptChars "../../etc/passwd".toList) := by
    rw [hidesDot_iff]
    decide
  obtain ⟨hstorable, -, htried⟩ := candidate_leads_below "../../etc/passwd"
  refine ⟨hdot, hstorable, ?_⟩
  rw [(htried 0 (Or.inr hdot)).2, hname]
  decide

/-- Trimmed at the end, a name of a blank and two dots is the way up: it leads to the directory above the
upload directory. -/
theorem storedName_leads_above :
    (storedName " ..").toList.head? = some '.' ∧
      server.locate? [] (FilePath.append "/srv/upload" (storedName " ..")) = some ["srv"] := by
  decide

end Candidates

end RouteWorks.UploadedFile
