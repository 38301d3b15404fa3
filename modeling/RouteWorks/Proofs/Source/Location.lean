import RouteWorks.Proofs.Text.Joined
import RouteWorks.Source.Location

/-!
# Locations as modules and as paths

A location is a module when directories with the names of modules follow the last root marker in it
(`isModule_iff`), and these directories are its modules.  A location that has been read is clean: its
parts are the names of directories (`clean_iff`).  The path of a file in a clean location spells the
parts of the location and of the file, so it determines both (`file_inj`).
-/

namespace RouteWorks

/-- The name of a module has letters, digits and underscores only. -/
theorem Name.wordChar_of_isModuleName {name : String} (h : isModuleName name = true) :
    ∀ c ∈ name.toList, (c.isAlphanum || c == '_') = true := by
  unfold isModuleName at h
  split at h
  · cases h
  · rename_i first rest hname
    simp only [Bool.and_eq_true, List.all_eq_true] at h
    obtain ⟨⟨⟨hfirst, hrest⟩, -⟩, -⟩ := h
    rw [hname]
    intro c hc
    rcases List.mem_cons.mp hc with rfl | hc
    · rw [Bool.or_eq_true] at hfirst ⊢
      rcases hfirst with hfirst | hfirst
      · left
        rw [Char.isAlphanum, hfirst, Bool.true_or]
      · exact Or.inr hfirst
    · exact hrest c hc

namespace Location

open Text

variable {l : Location}

/-- The directory that a path leads to. -/
def below (l : Location) (path : List String) : Location := ⟨l.parts ++ path⟩

theorem below_inj_left {l l' : Location} {path : List String} (h : l.below path = l'.below path) :
    l = l' := by
  cases l
  cases l'
  rw [Location.mk.injEq]
  exact List.append_cancel_right (Location.mk.inj h)

theorem below_nil (l : Location) : l.below [] = l := by
  rw [below, List.append_nil]

theorem below_append (l : Location) (path path' : List String) :
    l.below (path ++ path') = (l.below path).below path' := by
  rw [below, below, below, List.append_assoc]

/-! ## Modules -/

theorem splitRoot?_eq_some_iff {root below : List String} :
    l.splitRoot? = some (root, below) ↔
      ∃ above, root = above ++ [rootMarker] ∧ l.parts = root ++ below ∧ rootMarker ∉ below := by
  rw [splitRoot?, Option.map_eq_some_iff]
  -- the parts are cut backwards, so the first marker that is met is the last one
  constructor
  · rintro ⟨⟨after, before⟩, hcut, hpair⟩
    obtain ⟨hparts, hmarker⟩ := cutAt?_mark_eq_some_iff.mp hcut
    obtain ⟨rfl, rfl⟩ := Prod.mk.inj hpair
    refine ⟨before.reverse, List.reverse_cons, ?_, fun hmem => hmarker (List.mem_reverse.mp hmem)⟩
    rw [← List.reverse_append, ← hparts, List.reverse_reverse]
  · rintro ⟨above, rfl, hparts, hbelow⟩
    refine ⟨(below.reverse, above.reverse), ?_, by simp⟩
    refine cutAt?_mark_eq_some_iff.mpr ⟨?_, fun hmem => hbelow (List.mem_reverse.mp hmem)⟩
    rw [hparts]
    simp

/-- The modules of a location: what follows its last root marker, when this is not empty and consists
of module names. -/
theorem properModules?_eq_some_iff {modules : List String} :
    l.properModules? = some modules ↔
      (∃ above, l.parts = above ++ rootMarker :: modules) ∧ rootMarker ∉ modules ∧ modules ≠ [] ∧
        ∀ m ∈ modules, Name.isModuleName m = true := by
  rw [properModules?, Option.filter_eq_some_iff, modules?]
  constructor
  · rintro ⟨hmodules, hne⟩
    obtain ⟨⟨root, below⟩, hroot, hall⟩ := Option.bind_eq_some_iff.mp hmodules
    change (if below.all Name.isModuleName then some below else none) = some modules at hall
    split at hall
    · rename_i hnames
      cases hall
      obtain ⟨above, rfl, hparts, hbelow⟩ := splitRoot?_eq_some_iff.mp hroot
      refine ⟨⟨above, ?_⟩, hbelow, ?_, List.all_eq_true.mp hnames⟩
      · rw [hparts, List.append_assoc, List.singleton_append]
      · simpa using hne
    · cases hall
  · rintro ⟨⟨above, hparts⟩, hmarker, hne, hnames⟩
    refine ⟨Option.bind_eq_some_iff.mpr ⟨(above ++ [rootMarker], modules), ?_, ?_⟩, ?_⟩
    · refine splitRoot?_eq_some_iff.mpr ⟨above, rfl, ?_, hmarker⟩
      rw [hparts, List.append_assoc, List.singleton_append]
    · exact if_pos (List.all_eq_true.mpr hnames)
    · simpa using hne

/-- A location that is a module: at least one directory follows the last root marker, and all that
follow have the names of modules. -/
def IsModule (l : Location) : Prop :=
  ∃ above modules, l.parts = above ++ rootMarker :: modules ∧ rootMarker ∉ modules ∧ modules ≠ [] ∧
    ∀ m ∈ modules, Name.isModuleName m = true

theorem isModule_iff : l.IsModule ↔ ∃ modules, l.properModules? = some modules := by
  simp only [properModules?_eq_some_iff, IsModule]
  constructor
  · rintro ⟨above, modules, hparts, hrest⟩
    exact ⟨modules, ⟨above, hparts⟩, hrest⟩
  · rintro ⟨modules, ⟨above, hparts⟩, hrest⟩
    exact ⟨above, modules, hparts, hrest⟩

theorem properModules?_eq_none_iff : l.properModules? = none ↔ ¬ l.IsModule := by
  rw [isModule_iff, ← Option.ne_none_iff_exists', not_not]

/-- A location is the entry module or a module below the root of the sources. -/
def HasModule (l entry : Location) : Prop := l = entry ∨ l.IsModule

theorem isModuleName_of_properModules? {modules : List String} (h : l.properModules? = some modules) :
    ∀ m ∈ modules, Name.isModuleName m = true :=
  (properModules?_eq_some_iff.mp h).2.2.2

/-- The last module of a location is its last part. -/
theorem last_eq {modules : List String} (h : l.properModules? = some modules) :
    l.last = modules.getLastD "" := by
  obtain ⟨⟨above, hparts⟩, -, hne, -⟩ := properModules?_eq_some_iff.mp h
  rw [last, hparts, List.getLastD_eq_getLast?, List.getLastD_eq_getLast?,
    ← List.singleton_append, ← List.append_assoc, List.getLast?_append_of_ne_nil _ hne]

theorem isModuleName_last {modules : List String} (h : l.properModules? = some modules) :
    Name.isModuleName l.last = true := by
  obtain ⟨-, -, hne, hnames⟩ := properModules?_eq_some_iff.mp h
  rw [l.last_eq h, List.getLastD_eq_getLast?, List.getLast?_eq_some_getLast hne]
  exact hnames _ (List.getLast_mem hne)

/-- The modules of a location lead from its root to it, and from no other place. -/
theorem crateRoot?_eq_some_iff {modules : List String} (h : l.properModules? = some modules)
    (root : Location) : l.crateRoot? = some root ↔ root.below modules = l := by
  obtain ⟨⟨above, hparts⟩, hmarker, -, -⟩ := properModules?_eq_some_iff.mp h
  have hroot : l.splitRoot? = some (above ++ [rootMarker], modules) := by
    refine splitRoot?_eq_some_iff.mpr ⟨above, rfl, ?_, hmarker⟩
    rw [hparts, List.append_assoc, List.singleton_append]
  have hl : (⟨above ++ [rootMarker]⟩ : Location).below modules = l := by
    rw [below, List.append_assoc, List.singleton_append, ← hparts]
  rw [crateRoot?, hroot, Option.map_some, Option.some.injEq]
  constructor
  · rintro rfl
    exact hl
  · intro hroot
    rw [← hl] at hroot
    exact (below_inj_left hroot).symm

/-! ## Clean locations -/

/-- A part of a path that names a directory. -/
structure IsPart (part : String) : Prop where
  ne_empty : part ≠ ""
  ne_dot : part ≠ "."
  ne_dots : part ≠ ".."
  no_slash : '/' ∉ part.toList
  no_backslash : '\\' ∉ part.toList

theorem isPart_of_isModuleName {name : String} (h : Name.isModuleName name = true) : IsPart name := by
  have hword := Name.wordChar_of_isModuleName h
  have hdot : '.' ∉ name.toList := fun hmem => absurd (hword '.' hmem) (by decide)
  refine ⟨?_, ?_, ?_, ?_, ?_⟩
  · rintro rfl
    exact absurd h (by decide)
  · rintro rfl
    exact hdot List.mem_cons_self
  · rintro rfl
    exact hdot List.mem_cons_self
  · exact fun hmem => absurd (hword '/' hmem) (by decide)
  · exact fun hmem => absurd (hword '\\' hmem) (by decide)

/-- Every part of a location names a directory. -/
def Clean (l : Location) : Prop := ∀ part ∈ l.parts, IsPart part

theorem isPart_of_step {parts : List String} (hparts : ∀ part ∈ parts, IsPart part) {part : String}
    (hslash : '/' ∉ part.toList) (hback : '\\' ∉ part.toList) :
    ∀ q ∈ step parts part, IsPart q := by
  intro q hq
  rw [step] at hq
  split at hq
  · exact hparts q hq
  · rename_i hnames
    rw [not_or] at hnames
    split at hq
    · exact hparts q (List.mem_of_mem_tail hq)
    · rename_i hdots
      rcases List.mem_cons.mp hq with rfl | hq
      · exact ⟨hnames.1, hnames.2, hdots, hslash, hback⟩
      · exact hparts q hq

theorem clean_descend {parts : List String}
    (h : ∀ part ∈ parts, '/' ∉ part.toList ∧ '\\' ∉ part.toList) :
    Clean ⟨descend [] parts⟩ := by
  -- the parts so far are kept backwards, which does not matter here
  have hfold : ∀ kept : List String, (∀ part ∈ kept, IsPart part) →
      ∀ part ∈ parts.foldl step kept, IsPart part := by
    induction parts with
    | nil => exact fun kept hkept => hkept
    | cons part parts ih =>
        intro kept hkept
        obtain ⟨hslash, hback⟩ := h part List.mem_cons_self
        exact ih (fun p hp => h p (List.mem_cons_of_mem part hp)) _
          (isPart_of_step hkept hslash hback)
  intro part hpart
  exact hfold [] (by simp) part (List.mem_reverse.mp hpart)

theorem not_mem_splitText {raw part : String} (h : part ∈ splitText raw) :
    '/' ∉ part.toList ∧ '\\' ∉ part.toList := by
  rw [splitText, split] at h
  obtain ⟨cs, hcs, rfl⟩ := List.mem_map.mp h
  rw [String.toList_ofList]
  refine ⟨fun hmem => ?_, fun hmem => ?_⟩
  · simpa using not_sep_of_mem_splitWhen hcs hmem
  · simpa using not_sep_of_mem_splitWhen hcs hmem

theorem clean_resolve (base raw : String) : (resolve base raw).Clean := by
  unfold resolve
  dsimp only
  split
  · exact clean_descend fun _ h => not_mem_splitText h
  · exact clean_descend fun _ h => not_mem_splitText h
  · refine clean_descend ?_
    intro part hpart
    rcases List.mem_append.mp hpart with hpart | hpart
    · exact not_mem_splitText hpart
    · exact not_mem_splitText hpart

theorem foldl_step_clean {parts : List String} (h : ∀ part ∈ parts, IsPart part)
    (kept : List String) : parts.foldl step kept = parts.reverse ++ kept := by
  induction parts generalizing kept with
  | nil => rfl
  | cons part parts ih =>
      have hpart := h part List.mem_cons_self
      have hstep : step kept part = part :: kept := by
        rw [step, if_neg (not_or.mpr ⟨hpart.ne_empty, hpart.ne_dot⟩), if_neg hpart.ne_dots]
      rw [List.foldl_cons, hstep, ih fun p hp => h p (List.mem_cons_of_mem part hp),
        List.reverse_cons, List.append_assoc, List.singleton_append]

/-- A separator in front is one behind an empty part. -/
theorem slash_join {parts : List String} (hne : parts ≠ []) :
    "/" ++ join "/" parts = join "/" ("" :: parts) := by
  cases parts with
  | nil => exact absurd rfl hne
  | cons part parts => rw [join_cons_cons, String.empty_append]

/-- The text of a location has the parts of the location behind the first separator.  A backslash may
separate as well, since there is none in it. -/
theorem split_text (h : l.Clean) {sep : Char → Bool} (hslash : sep '/' = true)
    (hsep : ∀ c, c ≠ '/' → c ≠ '\\' → sep c = false) :
    split sep l.text = "" :: if l.parts = [] then [""] else l.parts := by
  have htext : l.text = join "/" ("" :: if l.parts = [] then [""] else l.parts) := by
    rw [text]
    split
    · rename_i hnil
      rw [hnil]
      rfl
    · rename_i hne
      exact slash_join hne
  rw [htext]
  refine split_join '/' hslash (List.cons_ne_nil _ _) ?_
  intro part hpart c hc
  have hmem : part ∈ l.parts := by
    rcases List.mem_cons.mp hpart with rfl | hpart
    · cases hc
    split at hpart
    · rw [List.mem_singleton.mp hpart] at hc
      cases hc
    · exact hpart
  refine hsep c ?_ ?_
  · rintro rfl
    exact (h part hmem).no_slash hc
  · rintro rfl
    exact (h part hmem).no_backslash hc

theorem splitText_text (h : l.Clean) :
    splitText l.text = "" :: if l.parts = [] then [""] else l.parts :=
  split_text h rfl fun _ hslash hback => by
    rw [beq_eq_false_iff_ne.mpr hslash, beq_eq_false_iff_ne.mpr hback, Bool.or_false]

/-- Read again, the text of a location gives its parts back. -/
theorem descend_splitText_text (h : l.Clean) : descend [] (splitText l.text) = l.parts := by
  have hempty : ∀ kept, step kept "" = kept := fun _ => rfl
  rw [splitText_text h, descend, List.reverse_nil, List.foldl_cons, hempty]
  split
  · rename_i hnil
    rw [hnil]
    rfl
  · rw [foldl_step_clean h, List.append_nil, List.reverse_reverse]

/-- Parts are folded onto what the parts in front of them fold to. -/
theorem descend_append (base parts parts' : List String) :
    descend base (parts ++ parts') = descend (descend base parts) parts' := by
  rw [descend, descend, descend, List.foldl_append, List.reverse_reverse]

/-- The clean locations are those that can be read. -/
theorem clean_iff : l.Clean ↔ ∃ base raw, l = resolve base raw := by
  constructor
  · intro h
    refine ⟨l.text, "", ?_⟩
    have hresolve : resolve l.text "" = ⟨descend [] (splitText l.text ++ [""])⟩ := rfl
    have hempty : descend l.parts [""] = l.parts := List.reverse_reverse l.parts
    rw [hresolve, descend_append, descend_splitText_text h, hempty]
  · rintro ⟨base, raw, rfl⟩
    exact clean_resolve base raw

theorem clean_below (h : l.Clean) {path : List String}
    (hpath : ∀ name ∈ path, Name.isModuleName name = true) : (l.below path).Clean := by
  intro part hpart
  rcases List.mem_append.mp hpart with hpart | hpart
  · exact h part hpart
  · exact isPart_of_isModuleName (hpath part hpart)

/-! ## Paths of files -/

/-- A text that can stand in the path of a file between two separators. -/
def IsName (name : String) : Prop := name ≠ "" ∧ '/' ∉ name.toList

theorem IsPart.isName {part : String} (h : IsPart part) : IsName part := ⟨h.ne_empty, h.no_slash⟩

/-- The path of a file below a clean location spells the parts of the location and those of the file. -/
theorem file_join (h : l.Clean) {names : List String} (hne : names ≠ [])
    (hnames : ∀ name ∈ names, IsName name) :
    l.file (join "/" names) = join "/" ("" :: (l.parts ++ names)) := by
  have habsolute : FilePath.isAbsolute (join "/" names) = false := by
    cases names with
    | nil => exact absurd rfl hne
    | cons name names =>
        obtain ⟨hempty, hslash⟩ := hnames name List.mem_cons_self
        rw [FilePath.isAbsolute, head?_join "/" hempty, beq_eq_false_iff_ne]
        exact fun hhead => hslash (List.mem_of_head? hhead)
  rw [file, FilePath.append, habsolute, if_neg Bool.false_ne_true, text]
  rcases List.eq_nil_or_concat l.parts with hparts | ⟨front, part, hparts⟩
  · rw [hparts, List.nil_append, ← slash_join hne]
    rfl
  · -- the last part is the name of a directory, so the separator has to be written
    rw [List.concat_eq_append] at hparts
    have hpart : IsPart part := by
      refine h part ?_
      rw [hparts]
      exact List.mem_append_right _ List.mem_cons_self
    have hparts_ne : l.parts ≠ [] := by
      rw [hparts]
      exact List.concat_ne_nil part front
    have hlast : (join "/" ("" :: l.parts)).toList.getLast? ≠ some '/' := by
      rw [hparts, ← List.cons_append, getLast?_join "/" hpart.ne_empty]
      exact fun hslash => hpart.no_slash (List.mem_of_getLast? hslash)
    have htext : "/" ++ join "/" l.parts ≠ "" := by
      rw [ne_eq, String.append_eq_empty_iff]
      exact fun h => absurd h.1 (by decide)
    rw [if_neg htext, slash_join hparts_ne, if_neg (by simpa using hlast), ← List.cons_append,
      join_append "/" (List.cons_ne_nil _ _) hne]

theorem file_eq (h : l.Clean) {name : String} (hname : IsName name) :
    l.file name = join "/" ("" :: (l.parts ++ [name])) := by
  have hjoin := file_join h (List.cons_ne_nil name []) (List.forall_mem_singleton.mpr hname)
  rwa [join_singleton] at hjoin

/-- A file and its location are determined by the path of the file. -/
theorem file_inj {l' : Location} (h : l.Clean) (h' : l'.Clean) {name name' : String}
    (hname : IsName name) (hname' : IsName name') (heq : l.file name = l'.file name') :
    l = l' ∧ name = name' := by
  have hfree : ∀ {l : Location} {name : String}, l.Clean → IsName name →
      ∀ part ∈ "" :: (l.parts ++ [name]), '/' ∉ part.toList := by
    intro l name h hname part hpart
    rcases List.mem_cons.mp hpart with rfl | hpart
    · exact List.not_mem_nil
    rcases List.mem_append.mp hpart with hpart | hpart
    · exact (h part hpart).no_slash
    · rw [List.mem_singleton.mp hpart]
      exact hname.2
  rw [file_eq h hname, file_eq h' hname'] at heq
  have hparts := join_inj '/' (List.cons_ne_nil _ _) (List.cons_ne_nil _ _)
    (hfree h hname) (hfree h' hname') heq
  obtain ⟨hparts, hlast⟩ := List.append_inj' (List.cons.inj hparts).2 rfl
  refine ⟨?_, List.singleton_inj.mp hlast⟩
  cases l
  cases l'
  rw [Location.mk.injEq]
  exact hparts

end Location

end RouteWorks
