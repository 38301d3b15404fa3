import RouteWorks.Proofs.FileSystem.Walk

/-!
# What changes in a file system

Files are written and directories are made, and neither takes away what is there: `Retains` compares
two states of a file system, and a path that leads somewhere in the first one leads there in the second
(`Retains.walk`).  `Paves` describes how the directories of a path are made, one constructor for each kind
of part; once they are there, making them again changes nothing (`createDirectory_again`).
-/

namespace RouteWorks.FileSystem

variable {fs fs' fs'' made : FileSystem} {cwd p q : Place} {path part : String} {parts : List String}
  {e : Entry} {d : FileData} {octets : ByteArray}

/-! ## Entries -/

@[simp] theorem get?_root (fs : FileSystem) : fs.get? [] = some .directory := by
  simp [get?]

theorem isDirectory_iff : fs.isDirectory p = true ↔ fs.get? p = some .directory := by
  unfold isDirectory
  split <;> simp_all

theorem lookup_filter_ne (entries : List (Place × Entry)) (p q : Place) :
    (entries.filter (·.1 ≠ p)).lookup q = if q = p then none else entries.lookup q := by
  induction entries with
  | nil => simp
  | cons entry entries ih =>
      by_cases hp : entry.1 = p
      · rw [List.filter_cons_of_neg (by simp [hp]), ih, List.lookup_cons]
        by_cases hq : q = p
        · simp [hq]
        · have hother : (q == entry.1) = false := by simpa [hp] using hq
          simp [hq, hother]
      · rw [List.filter_cons_of_pos (by simp [hp]), List.lookup_cons, List.lookup_cons, ih]
        by_cases hq : q = entry.1
        · have hother : q ≠ p := fun h => hp (hq.symm.trans h)
          simp [hq, hp]
        · have hother : (q == entry.1) = false := by simpa using hq
          simp [hother]

/-- Below the root, an insertion changes one place. -/
theorem get?_insert (hp : p ≠ []) (q : Place) :
    (fs.insert p e).get? q = if q = p then some e else fs.get? q := by
  by_cases hroot : q = []
  · subst hroot
    simp [Ne.symm hp]
  · by_cases hq : q = p
    · subst hq
      simp [get?, insert, hroot]
    · have hother : (q == p) = false := by simpa using hq
      simp only [get?, insert, if_neg hroot, if_neg hq, List.lookup_cons, hother]
      rw [lookup_filter_ne, if_neg hq]

@[simp] theorem above_append (p : Place) (name : String) : above (p ++ [name]) = p := by
  simp [above]

/-! ## Trees -/

/-- What is there is in a directory. -/
def IsTree (fs : FileSystem) : Prop :=
  ∀ p, (fs.get? p).isSome = true → fs.isDirectory (above p) = true

theorem isTree_of_entries (h : ∀ entry ∈ fs.entries, fs.isDirectory (above entry.1) = true) :
    fs.IsTree := by
  intro p hp
  by_cases hroot : p = []
  · subst hroot
    exact isDirectory_iff.mpr (get?_root fs)
  · simp only [get?, if_neg hroot] at hp
    obtain ⟨e, he⟩ := Option.isSome_iff_exists.mp hp
    obtain ⟨before, after, hentries, -⟩ := List.lookup_eq_some_iff.mp he
    exact h (p, e) (by rw [hentries]; simp)

theorem IsTree.insert (hfs : fs.IsTree) (hp : p ≠ []) (habove : fs.isDirectory (above p) = true)
    (hkind : fs.get? p = some .directory → e = .directory) : (fs.insert p e).IsTree := by
  have hkeeps : ∀ q, fs.isDirectory q = true → (fs.insert p e).isDirectory q = true := by
    intro q hq
    rw [isDirectory_iff] at hq ⊢
    rw [get?_insert hp]
    split
    · rename_i hqp
      rw [hkind (hqp ▸ hq)]
    · exact hq
  intro q hq
  rw [get?_insert hp] at hq
  split at hq
  · rename_i hqp
    rw [hqp]
    exact hkeeps _ habove
  · exact hkeeps _ (hfs q hq)

/-! ## States that follow one another -/

/-- What was there is still there: a directory as a directory, a file as a file. -/
structure Retains (fs fs' : FileSystem) : Prop where
  directory : ∀ p, fs.get? p = some .directory → fs'.get? p = some .directory
  file : ∀ p d, fs.get? p = some (.file d) → ∃ d', fs'.get? p = some (.file d')

/-- A change spares a place: nothing happens there but that a directory is made where nothing was. -/
def Spares (fs fs' : FileSystem) (p : Place) : Prop :=
  fs'.get? p = fs.get? p ∨ (fs.get? p = none ∧ fs'.get? p = some .directory)

theorem Spares.refl (fs : FileSystem) (p : Place) : fs.Spares fs p := Or.inl rfl

theorem Spares.eq_some (h : fs.Spares fs' p) (hp : fs.get? p = some e) : fs'.get? p = some e := by
  rcases h with hsame | ⟨hnone, -⟩
  · rw [hsame, hp]
  · rw [hnone] at hp
    cases hp

theorem Spares.trans (h : fs.Spares fs' p) (h' : fs'.Spares fs'' p) : fs.Spares fs'' p := by
  rcases h with hsame | ⟨hnone, hnew⟩
  · unfold Spares
    rw [← hsame]
    exact h'
  · exact Or.inr ⟨hnone, h'.eq_some hnew⟩

/-- All that is new are directories. -/
def AddsDirectories (fs fs' : FileSystem) : Prop := ∀ p, fs.Spares fs' p

theorem AddsDirectories.refl (fs : FileSystem) : fs.AddsDirectories fs := fun p => Spares.refl fs p

theorem AddsDirectories.eq_some (h : fs.AddsDirectories fs') (hp : fs.get? p = some e) :
    fs'.get? p = some e :=
  (h p).eq_some hp

theorem AddsDirectories.trans (h : fs.AddsDirectories fs') (h' : fs'.AddsDirectories fs'') :
    fs.AddsDirectories fs'' :=
  fun p => (h p).trans (h' p)

theorem AddsDirectories.retains (h : fs.AddsDirectories fs') : fs.Retains fs' where
  directory := fun _ hp => h.eq_some hp
  file := fun _ d hp => ⟨d, h.eq_some hp⟩

namespace Retains

theorem refl (fs : FileSystem) : fs.Retains fs := (AddsDirectories.refl fs).retains

theorem trans (h : fs.Retains fs') (h' : fs'.Retains fs'') : fs.Retains fs'' where
  directory := fun p hp => h'.directory p (h.directory p hp)
  file := by
    intro p d hp
    obtain ⟨d', hd'⟩ := h.file p d hp
    exact h'.file p d' hd'

theorem isDirectory (h : fs.Retains fs') (hp : fs.isDirectory p = true) :
    fs'.isDirectory p = true :=
  isDirectory_iff.mpr (h.directory p (isDirectory_iff.mp hp))

/-- A path that leads somewhere keeps leading there. -/
theorem walk (h : fs.Retains fs') (hwalk : fs.walk p parts = some q) :
    fs'.walk p parts = some q := by
  induction parts generalizing p with
  | nil => exact hwalk
  | cons part parts ih =>
      obtain ⟨hp, r, hstep, hrest⟩ := walk_cons_eq_some_iff.mp hwalk
      exact walk_cons_eq_some_iff.mpr ⟨h.isDirectory hp, r, hstep, ih hrest⟩

theorem locate? (h : fs.Retains fs') (hlocate : fs.locate? cwd path = some p) :
    fs'.locate? cwd path = some p :=
  h.walk hlocate

theorem isSome (h : fs.Retains fs') (hp : (fs.get? p).isSome = true) :
    (fs'.get? p).isSome = true := by
  obtain ⟨e, he⟩ := Option.isSome_iff_exists.mp hp
  cases e with
  | directory => rw [h.directory p he]; rfl
  | file d =>
      obtain ⟨d', hd'⟩ := h.file p d he
      rw [hd']
      rfl

end Retains

theorem contains_iff : fs.contains cwd path = true ↔
    path ≠ "" ∧ ∃ p, fs.locate? cwd path = some p ∧ (fs.get? p).isSome = true := by
  unfold contains find?
  by_cases hpath : path = ""
  · simp [hpath]
  · cases fs.locate? cwd path <;> simp [hpath]

theorem Retains.contains (h : fs.Retains fs') (hpath : fs.contains cwd path = true) :
    fs'.contains cwd path = true := by
  obtain ⟨hne, p, hlocate, hsome⟩ := contains_iff.mp hpath
  exact contains_iff.mpr ⟨hne, p, h.locate? hlocate, h.isSome hsome⟩

theorem file?_eq_some_iff : fs.file? cwd path = some d ↔
    path ≠ "" ∧ ∃ p, fs.locate? cwd path = some p ∧ fs.get? p = some (.file d) := by
  unfold file? find?
  by_cases hpath : path = ""
  · simp [hpath]
  · cases hlocate : fs.locate? cwd path with
    | none => simp [hpath]
    | some p =>
        simp only [hpath, if_false, Option.bind_some, ne_eq, not_false_eq_true, true_and,
          Option.some.injEq, exists_eq_left']
        cases hp : fs.get? p with
        | none => simp
        | some e => cases e <;> simp

/-! ## Making directories -/

/-- How the directories along the parts of a path are made, from a place to the one that is reached. -/
inductive Paves : FileSystem → Place → List String → FileSystem → Place → Prop
  | reached {fs : FileSystem} {p : Place} (hp : fs.isDirectory p = true) : Paves fs p [] fs p
  | stay {fs made : FileSystem} {p q : Place} {part : String} {parts : List String}
      (hpart : part = "." ∨ part = "") (h : Paves fs p parts made q) :
      Paves fs p (part :: parts) made q
  | up {fs made : FileSystem} {p q : Place} {parts : List String} (hp : fs.isDirectory p = true)
      (h : Paves fs (above p) parts made q) : Paves fs p (".." :: parts) made q
  | enter {fs made : FileSystem} {p q : Place} {part : String} {parts : List String}
      (hp : fs.isDirectory p = true) (hpart : ¬ (part = "." ∨ part = "")) (hdots : part ≠ "..")
      (hname : isNameAllowed part = true) (hthere : fs.get? (p ++ [part]) = some .directory)
      (h : Paves fs (p ++ [part]) parts made q) : Paves fs p (part :: parts) made q
  | make {fs made : FileSystem} {p q : Place} {part : String} {parts : List String}
      (hp : fs.isDirectory p = true) (hpart : ¬ (part = "." ∨ part = "")) (hdots : part ≠ "..")
      (hname : isNameAllowed part = true) (hfree : fs.get? (p ++ [part]) = none)
      (h : Paves (fs.insert (p ++ [part]) .directory) (p ++ [part]) parts made q) :
      Paves fs p (part :: parts) made q

theorem exists_paves (h : fs.createAlong p parts = (made, true)) : ∃ q, Paves fs p parts made q := by
  induction parts generalizing fs p with
  | nil =>
      rw [createAlong, Prod.mk.injEq] at h
      obtain ⟨rfl, hp⟩ := h
      exact ⟨p, .reached hp⟩
  | cons part parts ih =>
      rw [createAlong] at h
      split at h
      · rename_i hpart
        obtain ⟨q, hq⟩ := ih h
        exact ⟨q, .stay hpart hq⟩
      rename_i hpart
      split at h
      · cases h
      rename_i hp
      have hp : fs.isDirectory p = true := by simpa using hp
      split at h
      · rename_i hdots
        subst hdots
        obtain ⟨q, hq⟩ := ih h
        exact ⟨q, .up hp hq⟩
      rename_i hdots
      split at h
      · cases h
      rename_i hname
      have hname : isNameAllowed part = true := by simpa using hname
      simp only at h
      split at h
      · rename_i hthere
        obtain ⟨q, hq⟩ := ih h
        exact ⟨q, .enter hp hpart hdots hname hthere hq⟩
      · cases h
      · rename_i hfree
        obtain ⟨q, hq⟩ := ih h
        exact ⟨q, .make hp hpart hdots hname hfree hq⟩

theorem addsDirectories_insert (hp : p ≠ []) (hfree : fs.get? p = none) :
    fs.AddsDirectories (fs.insert p .directory) := by
  intro q
  rw [Spares, get?_insert hp]
  by_cases hq : q = p
  · subst hq
    simp [hfree]
  · simp [hq]

theorem append_ne_root (p : Place) (name : String) : p ++ [name] ≠ [] := by
  simp

namespace Paves

theorem start (h : Paves fs p parts made q) : fs.isDirectory p = true := by
  induction h with
  | reached hp => exact hp
  | stay _ _ ih => exact ih
  | up hp _ _ => exact hp
  | enter hp _ _ _ _ _ _ => exact hp
  | make hp _ _ _ _ _ _ => exact hp

theorem adds (h : Paves fs p parts made q) : fs.AddsDirectories made := by
  induction h with
  | reached _ => exact .refl _
  | stay _ _ ih => exact ih
  | up _ _ ih => exact ih
  | enter _ _ _ _ _ _ ih => exact ih
  | make _ _ _ _ hfree _ ih =>
      exact (addsDirectories_insert (append_ne_root _ _) hfree).trans ih

theorem isTree (h : Paves fs p parts made q) (hfs : fs.IsTree) : made.IsTree := by
  induction h with
  | reached _ => exact hfs
  | stay _ _ ih => exact ih hfs
  | up _ _ ih => exact ih hfs
  | enter _ _ _ _ _ _ ih => exact ih hfs
  | make hp _ _ _ _ _ ih =>
      exact ih (hfs.insert (append_ne_root _ _) (by simpa using hp) fun _ => rfl)

/-- Once the directories are made, the parts lead to the last of them. -/
theorem walk (h : Paves fs p parts made q) :
    made.walk p parts = some q ∧ made.isDirectory q = true := by
  induction h with
  | reached hp => exact ⟨rfl, hp⟩
  | stay hpart h ih =>
      have hp := h.adds.retains.isDirectory h.start
      exact ⟨walk_cons_eq_some_iff.mpr ⟨hp, _, .stay hpart, ih.1⟩, ih.2⟩
  | up hp h ih =>
      have hp := h.adds.retains.isDirectory hp
      exact ⟨walk_cons_eq_some_iff.mpr ⟨hp, _, .up, ih.1⟩, ih.2⟩
  | enter hp hpart hdots hname hthere h ih =>
      have hp := h.adds.retains.isDirectory hp
      exact ⟨walk_cons_eq_some_iff.mpr ⟨hp, _, .enter hpart hdots hname, ih.1⟩, ih.2⟩
  | make hp hpart hdots hname hfree h ih =>
      have hp := h.adds.retains.isDirectory
        ((addsDirectories_insert (append_ne_root _ _) hfree).retains.isDirectory hp)
      exact ⟨walk_cons_eq_some_iff.mpr ⟨hp, _, .enter hpart hdots hname, ih.1⟩, ih.2⟩

/-- Once the directories are made, making them again changes nothing. -/
theorem again (h : Paves fs p parts made q) (hlater : made.Retains fs') :
    fs'.createAlong p parts = (fs', true) := by
  induction h with
  | reached hp => rw [createAlong, hlater.isDirectory hp]
  | stay hpart _ ih =>
      rw [createAlong, if_pos hpart]
      exact ih hlater
  | up hp h ih =>
      have hp := (h.adds.retains.trans hlater).isDirectory hp
      simpa [createAlong, hp] using ih hlater
  | enter hp hpart hdots hname hthere h ih =>
      have hretains := h.adds.retains.trans hlater
      have hp := hretains.isDirectory hp
      have hthere := hretains.directory _ hthere
      simpa [createAlong, hp, hpart, hdots, hname, hthere] using ih hlater
  | make hp hpart hdots hname hfree h ih =>
      have hretains := h.adds.retains.trans hlater
      have hthere := hretains.isDirectory h.start
      have hp := hretains.isDirectory
        ((addsDirectories_insert (append_ne_root _ _) hfree).retains.isDirectory hp)
      simpa [createAlong, hp, hpart, hdots, hname, isDirectory_iff.mp hthere] using ih hlater

end Paves

/-- A directory that a path leads to need not be made. -/
theorem paves_of_walk (hwalk : fs.walk p parts = some q) (hq : fs.isDirectory q = true) :
    Paves fs p parts fs q := by
  induction parts generalizing p with
  | nil =>
      cases hwalk
      exact .reached hq
  | cons part parts ih =>
      obtain ⟨hp, r, hstep, hrest⟩ := walk_cons_eq_some_iff.mp hwalk
      have hpaves := ih hrest
      cases hstep with
      | stay hpart => exact .stay hpart hpaves
      | up => exact .up hp hpaves
      | enter hpart hdots hname =>
          exact .enter hp hpart hdots hname (isDirectory_iff.mp hpaves.start) hpaves

theorem createDirectory_cases (h : fs.createDirectory cwd path = (made, true)) :
    (path = "" ∧ made = fs) ∨
      (path ≠ "" ∧ ∃ q, Paves fs (origin cwd path) (FileSystem.parts path) made q) := by
  rw [createDirectory] at h
  split at h
  · rename_i hpath
    exact Or.inl ⟨hpath, (Prod.mk.inj h).1.symm⟩
  · rename_i hpath
    exact Or.inr ⟨hpath, exists_paves h⟩

theorem createDirectory_adds (h : fs.createDirectory cwd path = (made, true)) :
    fs.AddsDirectories made := by
  rcases createDirectory_cases h with ⟨-, rfl⟩ | ⟨-, q, hpaves⟩
  · exact .refl _
  · exact hpaves.adds

theorem createDirectory_isTree (h : fs.createDirectory cwd path = (made, true))
    (hfs : fs.IsTree) : made.IsTree := by
  rcases createDirectory_cases h with ⟨-, rfl⟩ | ⟨-, q, hpaves⟩
  · exact hfs
  · exact hpaves.isTree hfs

theorem createDirectory_again (h : fs.createDirectory cwd path = (made, true))
    (hlater : made.Retains fs') : fs'.createDirectory cwd path = (fs', true) := by
  rw [createDirectory]
  rcases createDirectory_cases h with ⟨rfl, -⟩ | ⟨hpath, q, hpaves⟩
  · simp
  · rw [if_neg hpath]
    exact hpaves.again hlater

/-- Seen from a directory, a directory that is made is there. -/
theorem createDirectory_leads (h : fs.createDirectory cwd path = (made, true))
    (hcwd : fs.isDirectory cwd = true) :
    ∃ q, made.locate? cwd path = some q ∧ made.isDirectory q = true := by
  rcases createDirectory_cases h with ⟨rfl, rfl⟩ | ⟨-, q, hpaves⟩
  · refine ⟨cwd, ?_, hcwd⟩
    have hparts : FileSystem.parts "" = [""] := by decide
    have horigin : origin cwd "" = cwd := rfl
    rw [locate?, hparts, horigin, walk_dot made cwd (Or.inr rfl), if_pos hcwd]
  · exact ⟨q, hpaves.walk⟩

theorem createDirectory_of_leads (hlocate : fs.locate? cwd path = some q)
    (hq : fs.isDirectory q = true) : fs.createDirectory cwd path = (fs, true) := by
  rw [createDirectory]
  split
  · rfl
  · exact (paves_of_walk hlocate hq).again (.refl fs)

/-! ## Writing files -/

/-- A file is put at a place where there was nothing, or a file. -/
structure Puts (fs : FileSystem) (p : Place) (d : FileData) (fs' : FileSystem) : Prop where
  before : (fs.get? p = none ∧ fs.isDirectory (above p) = true ∧ d.executable = false) ∨
    ∃ old, fs.get? p = some (.file old) ∧ d.executable = old.executable
  after : fs' = fs.insert p (.file d)

namespace Puts

theorem ne_root (h : Puts fs p d fs') : p ≠ [] := by
  rintro rfl
  rcases h.before with ⟨hnone, -⟩ | ⟨old, hold, -⟩
  · simp at hnone
  · simp at hold

theorem get?_eq (h : Puts fs p d fs') (q : Place) :
    fs'.get? q = if q = p then some (.file d) else fs.get? q := by
  rw [h.after, get?_insert h.ne_root]

theorem get?_self (h : Puts fs p d fs') : fs'.get? p = some (.file d) := by
  rw [h.get?_eq, if_pos rfl]

theorem get?_of_ne (h : Puts fs p d fs') (hq : q ≠ p) : fs'.get? q = fs.get? q := by
  rw [h.get?_eq, if_neg hq]

theorem retains (h : Puts fs p d fs') : fs.Retains fs' := by
  constructor
  · intro q hq
    rw [h.get?_eq]
    split
    · rename_i hqp
      subst hqp
      rcases h.before with ⟨hnone, -⟩ | ⟨old, hold, -⟩
      · simp [hnone] at hq
      · simp [hold] at hq
    · exact hq
  · intro q old hq
    rw [h.get?_eq]
    split
    · exact ⟨d, rfl⟩
    · exact ⟨old, hq⟩

theorem isTree (h : Puts fs p d fs') (hfs : fs.IsTree) : fs'.IsTree := by
  rw [h.after]
  apply hfs.insert h.ne_root
  · rcases h.before with ⟨-, habove, -⟩ | ⟨old, hold, -⟩
    · exact habove
    · exact hfs p (by rw [hold]; rfl)
  · intro hdirectory
    rcases h.before with ⟨hnone, -⟩ | ⟨old, hold, -⟩
    · simp [hnone] at hdirectory
    · simp [hold] at hdirectory

end Puts

theorem write?_eq_some (h : fs.write? cwd path octets = some fs') :
    ∃ p d, fs.locate? cwd path = some p ∧ d.octets = octets ∧ Puts fs p d fs' := by
  rw [write?] at h
  obtain ⟨p, hlocate, h⟩ := Option.bind_eq_some_iff.mp h
  cases hp : fs.get? p with
  | none =>
      simp only [hp] at h
      split at h
      · rename_i habove
        exact ⟨p, { octets, modified := .change fs.changes }, hlocate, rfl,
          Or.inl ⟨hp, habove, rfl⟩, (Option.some.inj h).symm⟩
      · cases h
  | some e =>
      cases e with
      | directory => simp [hp] at h
      | file old =>
          simp only [hp] at h
          exact ⟨p, { old with octets, modified := .change fs.changes }, hlocate, rfl,
            Or.inr ⟨old, hp, rfl⟩, (Option.some.inj h).symm⟩

/-- A file can be written where a file is, and into a directory. -/
theorem exists_write? (octets : ByteArray) (hlocate : fs.locate? cwd path = some p)
    (h : (fs.get? p = none ∧ fs.isDirectory (above p) = true) ∨ ∃ d, fs.get? p = some (.file d)) :
    ∃ d fs', fs.write? cwd path octets = some fs' ∧ d.octets = octets ∧ Puts fs p d fs' := by
  have hwrite : ∃ fs', fs.write? cwd path octets = some fs' := by
    rw [write?, hlocate, Option.bind_eq_bind, Option.bind_some]
    rcases h with ⟨hnone, habove⟩ | ⟨d, hd⟩
    · simp [hnone, habove]
    · simp [hd]
  obtain ⟨fs', hfs'⟩ := hwrite
  obtain ⟨p', d, hlocate', hoctets, hputs⟩ := write?_eq_some hfs'
  obtain rfl : p = p' := Option.some.inj (hlocate.symm.trans hlocate')
  exact ⟨d, fs', hfs', hoctets, hputs⟩

/-- The empty path is that of a directory. -/
theorem ne_empty_of_puts (hlocate : fs.locate? cwd path = some p) (h : Puts fs p d fs') :
    path ≠ "" := by
  rintro rfl
  have hparts : FileSystem.parts "" = [""] := by decide
  rw [FileSystem.locate?, hparts, walk_dot fs _ (Or.inr rfl)] at hlocate
  split at hlocate
  · rename_i hdirectory
    rw [Option.some.inj hlocate, isDirectory_iff] at hdirectory
    rcases h.before with ⟨hnone, -⟩ | ⟨old, hold, -⟩
    · simp [hnone] at hdirectory
    · simp [hold] at hdirectory
  · cases hlocate

/-! ## Contents -/

/-- What an entry holds, the time of its last change aside. -/
def contentOf : Entry → Option (ByteArray × Bool)
  | .file d => some (d.octets, d.executable)
  | .directory => none

/-- The same files and directories are there, and the files have the same contents. -/
def SameContents (fs fs' : FileSystem) : Prop :=
  ∀ p, (fs'.get? p).map contentOf = (fs.get? p).map contentOf

namespace SameContents

theorem refl (fs : FileSystem) : fs.SameContents fs := fun _ => rfl

theorem trans (h : fs.SameContents fs') (h' : fs'.SameContents fs'') : fs.SameContents fs'' :=
  fun p => (h' p).trans (h p)

theorem eq_file (h : fs.SameContents fs') (hp : fs.get? p = some (.file d)) :
    ∃ d', fs'.get? p = some (.file d') ∧ d'.octets = d.octets ∧ d'.executable = d.executable := by
  have hsame := h p
  rw [hp, Option.map_some, Option.map_eq_some_iff] at hsame
  obtain ⟨e, he, hcontent⟩ := hsame
  cases e with
  | directory => cases hcontent
  | file d' =>
      simp only [contentOf, Option.some.injEq, Prod.mk.injEq] at hcontent
      exact ⟨d', he, hcontent⟩

theorem eq_directory (h : fs.SameContents fs') (hp : fs.get? p = some .directory) :
    fs'.get? p = some .directory := by
  have hsame := h p
  rw [hp, Option.map_some, Option.map_eq_some_iff] at hsame
  obtain ⟨e, he, hcontent⟩ := hsame
  cases e with
  | directory => exact he
  | file d' => cases hcontent

theorem retains (h : fs.SameContents fs') : fs.Retains fs' where
  directory := fun _ hp => h.eq_directory hp
  file := by
    intro p d hp
    obtain ⟨d', hd', -⟩ := h.eq_file hp
    exact ⟨d', hd'⟩

end SameContents

/-- A file is replaced by one with its own contents. -/
theorem Puts.sameContents (h : Puts fs p d fs') {old : FileData}
    (hold : fs.get? p = some (.file old)) (hoctets : d.octets = old.octets) :
    fs.SameContents fs' := by
  intro q
  rw [h.get?_eq]
  split
  · rename_i hq
    subst hq
    rcases h.before with ⟨hnone, -⟩ | ⟨old', hold', hexecutable⟩
    · rw [hold] at hnone
      cases hnone
    · rw [hold] at hold'
      cases hold'
      simp [hold, contentOf, hoctets, hexecutable]
  · rfl

end RouteWorks.FileSystem
