import RouteWorks.Proofs.Project.Files

/-!
# Where declared modules are

A plan declares the modules of every directory on the way to a generated file, starting from the entry
module.  The way follows the modules of the location of the file, so it ends in this location when the
location belongs to the root of the sources that the entry module is in, and in another directory otherwise
(`Plan.ofProject_declares`).
-/

namespace RouteWorks.Plan

/-- The plan declares the modules of a directory below the entry: in the entry module those of its own
directory, and those of any other directory in a file there. -/
def Declaring (p : Project) (runtime : String) (files : List PlannedFile) (path : List String)
    (d : ModuleDir) : Prop :=
  if path = [] then ∃ calls, mainFile p (Template.entry runtime (d.declarations "") calls) ∈ files
  else ∃ g ∈ files, g.path = (p.entry.below path).file "mod.rs" ∧
    g.contents = Template.moduleFile (d.declarations "pub ") ∧ g.mode = .always

/-- A location is below the entry, and every directory on the way down to it has a module file. -/
def InPlace (p : Project) (files : List PlannedFile) (l : Location) : Prop :=
  ∃ path, l = p.entry.below path ∧
    ∀ front, front ≠ [] → front <+: path → ∃ g ∈ files, g.path = (p.entry.below front).file "mod.rs"

variable {p : Project} {runtime : String} {files : List PlannedFile}

theorem declaring_of_mem_paths (hentry : p.entry.Clean) (hplan : ofProject p runtime = .ok files)
    {t : ModuleTree} (ht : p.modules = .ok t) {path : List String} (hpath : path ∈ t.paths) :
    Declaring p runtime files path (t.dir path) := by
  obtain ⟨all, hall, rfl⟩ := exists_produced hplan
  obtain ⟨text, t', routers, htext, ht', -, rfl⟩ := produced_eq_ok hall
  rw [ht] at ht'
  cases ht'
  -- the files of directories come before all others, so none of them is replaced
  have hnodup := nodup_declaring hentry ht text
  obtain ⟨entered, -, hholds⟩ := holds_modules ht
  rw [Declaring]
  split
  · rename_i hnil
    obtain ⟨calls, rfl⟩ := createMain_eq_ok htext ht
    refine ⟨calls, mem_firstOfEach.mpr (firstIn_of_nodup hnodup ?_)⟩
    rw [hnil]
    exact List.mem_cons_self
  · rename_i hne
    have hmem : moduleFile p path (t.dir path) ∈ moduleFiles p t :=
      (mem_moduleFiles hholds.ascending).mpr ⟨path, hpath, hne, rfl⟩
    refine ⟨moduleFile p path (t.dir path), ?_, ?_, rfl, rfl⟩
    · exact mem_firstOfEach.mpr (firstIn_of_nodup hnodup (List.mem_cons_of_mem _ hmem))
    · exact moduleFile_path hentry (isModuleName_of_mem_paths ht hpath) _

/-- The modules of a location lead from the entry to it when it belongs to the root that the entry is. -/
theorem below_eq_iff {entry l : Location} {path : List String}
    (h : ModuleTree.path? entry l = .ok path) :
    entry.below path = l ↔ l = entry ∨ l.crateRoot? = some entry := by
  rw [ModuleTree.path?] at h
  split at h
  · rename_i heq
    cases h
    rw [entry.below_nil]
    exact iff_of_true heq.symm (Or.inl heq)
  · rename_i hne
    split at h
    · rename_i modules hmodules
      cases h
      rw [Location.crateRoot?_eq_some_iff hmodules, or_iff_right hne]
    · cases h

/-- The plan has every declared file, and its modules lead from the entry along the modules of the
location to a directory that declares the file.  The file is in this directory if and only if the
location is the entry or belongs to the root of the sources that the entry is. -/
theorem ofProject_declares (hclean : p.Clean) (hplan : ofProject p runtime = .ok files) {f : Frame}
    (hf : f ∈ p.frames) {l : Location} {file : String} (hfile : f.router.Declares l file) :
    ∃ path, ModuleTree.path? p.entry l = .ok path ∧ (∃ g ∈ files, g.path = sourceFile l file) ∧
      (∀ front sub, front ++ [sub] <+: path →
        ∃ d, Declaring p runtime files front d ∧ sub ∈ d.subdirs) ∧
      (∃ d, Declaring p runtime files path d ∧ file ∈ d.files) ∧
      (p.entry.below path = l ↔ l = p.entry ∨ l.crateRoot? = some p.entry) ∧
      (l = p.entry ∨ l.crateRoot? = some p.entry → InPlace p files l) := by
  obtain ⟨all, hall, hfirst⟩ := exists_produced hplan
  obtain ⟨text, t, routers, -, ht, -, -⟩ := produced_eq_ok hall
  obtain ⟨entered, hentered, hholds⟩ := holds_modules ht
  obtain ⟨⟨path, _⟩, hmem, hplace⟩ :=
    exists_ok_of_mapM_ok hentered (Project.mem_declared.mpr ⟨f, hf, hfile⟩)
  obtain ⟨path', hpath, hplace⟩ := bind_eq_ok hplace
  cases hplace
  -- the way to the file was entered with it
  have hdeclaring : ∀ front, front <+: path → Declaring p runtime files front (t.dir front) :=
    fun front hfront => declaring_of_mem_paths hclean.entry hplan ht
      ((hholds.paths front).mpr ⟨_, hmem, hfront⟩)
  refine ⟨path, hpath, ?_, ?_, ?_, below_eq_iff hpath, ?_⟩
  · obtain ⟨text, mode, hwrites⟩ := exists_writes hall hf hfile
    obtain ⟨g, hg, hgpath⟩ := exists_firstIn ((mem_produced hall).mpr (.written hf hwrites))
    refine ⟨g, ?_, hgpath⟩
    rw [← hfirst]
    exact mem_firstOfEach.mpr hg
  · intro front sub hfront
    refine ⟨t.dir front, hdeclaring front ((List.prefix_append front [sub]).trans hfront), ?_⟩
    exact (hholds.subdirs front sub).mpr ⟨_, hmem, hfront⟩
  · exact ⟨t.dir path, hdeclaring path (List.prefix_refl path), (hholds.files path file).mpr hmem⟩
  · intro hroot
    refine ⟨path, ((below_eq_iff hpath).mpr hroot).symm, ?_⟩
    intro front hne hfront
    have hfile := hdeclaring front hfront
    rw [Declaring, if_neg hne] at hfile
    obtain ⟨g, hg, hgpath, -, -⟩ := hfile
    exact ⟨g, hg, hgpath⟩

theorem ofProject_declares_shop :
    ∃ files path, ofProject (shop [⟨["shop", "src", "handler"]⟩]) "web" = .ok files ∧
      (shop [⟨["shop", "src", "handler"]⟩]).entry.below path = ⟨["shop", "src", "handler"]⟩ ∧
      InPlace (shop [⟨["shop", "src", "handler"]⟩]) files ⟨["shop", "src", "handler"]⟩ := by
  obtain ⟨files, hplan⟩ : ∃ files,
      ofProject (shop [⟨["shop", "src", "handler"]⟩]) "web" = .ok files :=
    exists_ok_of_toBool (by decide +kernel)
  have hroot : (⟨["shop", "src", "handler"]⟩ : Location).crateRoot? = some ⟨["shop", "src"]⟩ := by
    decide
  obtain ⟨path, -, -, -, -, hbelow, hplace⟩ :=
    ofProject_declares (shop_clean (by decide)) hplan List.mem_cons_self
      (.handler (h := itemsHandler ⟨["shop", "src", "handler"]⟩) List.mem_cons_self)
  exact ⟨files, path, hplan, hbelow.mpr (Or.inr hroot), hplace (Or.inr hroot)⟩

/-- A file below the root of other sources is planned all the same, where no declaration leads. -/
theorem not_inPlace_foreign :
    ¬ ∀ (p : Project) (runtime : String) (files : List PlannedFile), p.Registered → p.Clean →
      ofProject p runtime = .ok files → ∀ f ∈ p.frames, ∀ l file, f.router.Declares l file →
        InPlace p files l := by
  intro h
  obtain ⟨files, hplan⟩ : ∃ files,
      ofProject (shop [⟨["other", "src", "handler"]⟩]) "web" = .ok files :=
    exists_ok_of_toBool (by decide +kernel)
  obtain ⟨path, hl, -⟩ := h _ "web" files (shop_registered _) (shop_clean (by decide)) hplan _
    List.mem_cons_self _ _
    (.handler (h := itemsHandler ⟨["other", "src", "handler"]⟩) List.mem_cons_self)
  exact absurd (List.cons.inj (Location.mk.inj hl)).1 (by decide)

end RouteWorks.Plan
