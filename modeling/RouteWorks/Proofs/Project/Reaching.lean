import RouteWorks.Proofs.Project.Placement
import RouteWorks.Proofs.Project.Sharing
import RouteWorks.Proofs.Text.Lines

/-!
# Directories that are reached

A module has one file, `m.rs` or `m/mod.rs`.  A plan has both when an item is declared next to a directory of
its name (`Plan.TwoFiles`), and then the module cannot be loaded.  Every directory is declared in the one above
it, so it is reached from the entry module exactly when no module on the way has two files
(`Plan.ofProject_reaches`).
-/

namespace RouteWorks

open Text

/-- A directory leads to a declared module. -/
def Project.HasDirectory (p : Project) (path : List String) : Prop :=
  ∃ x ∈ p.declared, ∃ whole, ModuleTree.path? p.entry x.1 = .ok whole ∧ path <+: whole

namespace Plan

variable {p : Project} {runtime : String} {files : List PlannedFile}

/-- The plan has a file at a path. -/
def Planned (files : List PlannedFile) (path : String) : Prop := ∃ g ∈ files, g.path = path

/-- The plan has both files that a module of a location can have. -/
def TwoFiles (files : List PlannedFile) (l : Location) (m : String) : Prop :=
  Planned files (l.file (m ++ ".rs")) ∧ Planned files ((l.below [m]).file "mod.rs")

/-- The file that declares the modules of a directory. -/
def directoryFile (p : Project) (path : List String) : String :=
  if path = [] then p.entry.file "main.rs" else (p.entry.below path).file "mod.rs"

/-- A text declares a module, on a line of its own. -/
def DeclaresModule (text m : String) : Prop :=
  ∃ visibility ∈ ["", "pub "], visibility ++ "mod " ++ m ++ ";" ∈ lineParts text

/-- A directory is reached from the entry module: the directory above it is reached and declares it, and it
is the only place where the module can be. -/
inductive Reached (p : Project) (files : List PlannedFile) : List String → Prop
  | entry (hfile : Planned files (p.entry.file "main.rs")) : Reached p files []
  | step {path : List String} {m : String} {g : PlannedFile} (h : Reached p files path)
      (hg : g ∈ files) (hpath : g.path = directoryFile p path) (hline : DeclaresModule g.contents m)
      (hdir : Planned files ((p.entry.below (path ++ [m])).file "mod.rs"))
      (hone : ¬ Planned files ((p.entry.below path).file (m ++ ".rs"))) :
      Reached p files (path ++ [m])

/-! ## Planned files -/

theorem hasDirectory_iff {t : ModuleTree} (ht : p.modules = .ok t) {path : List String} :
    p.HasDirectory path ↔ path ∈ t.paths := by
  obtain ⟨entered, hentered, hholds⟩ := holds_modules ht
  rw [hholds.paths]
  constructor
  · rintro ⟨x, hx, whole, hwhole, hfront⟩
    obtain ⟨y, hy, hplace⟩ := exists_ok_of_mapM_ok hentered hx
    rw [ModuleTree.place, hwhole] at hplace
    cases hplace
    exact ⟨_, hy, hfront⟩
  · rintro ⟨y, hy, hfront⟩
    obtain ⟨x, hx, hplace⟩ := (mem_mapM_ok hentered).mp hy
    obtain ⟨whole, hwhole, hplace⟩ := bind_eq_ok hplace
    cases hplace
    exact ⟨x, hx, whole, hwhole, hfront⟩

theorem planned_iff_produces (hplan : ofProject p runtime = .ok files) {path : String} :
    Planned files path ↔ ∃ g, p.Produces runtime g ∧ g.path = path := by
  obtain ⟨all, hall, rfl⟩ := exists_produced hplan
  constructor
  · rintro ⟨g, hg, hpath⟩
    exact ⟨g, (mem_produced hall).mp (mem_of_firstIn (mem_firstOfEach.mp hg)), hpath⟩
  · rintro ⟨g, hg, rfl⟩
    obtain ⟨g', hg', hpath⟩ := exists_firstIn ((mem_produced hall).mpr hg)
    exact ⟨g', mem_firstOfEach.mpr hg', hpath⟩

theorem planned_main (hplan : ofProject p runtime = .ok files) :
    Planned files (p.entry.file "main.rs") := by
  obtain ⟨all, hall, -⟩ := exists_produced hplan
  obtain ⟨text, -, -, htext, -, -, -⟩ := produced_eq_ok hall
  exact (planned_iff_produces hplan).mpr ⟨_, .main htext, rfl⟩

theorem planned_moduleFile (hclean : p.Clean) (hplan : ofProject p runtime = .ok files)
    {path : List String} (hdir : p.HasDirectory path) (hne : path ≠ []) :
    Planned files ((p.entry.below path).file "mod.rs") := by
  obtain ⟨t, ht⟩ := exists_modules hplan
  have hmem := (hasDirectory_iff ht).mp hdir
  refine (planned_iff_produces hplan).mpr ⟨_, .module ht hmem hne, ?_⟩
  exact moduleFile_path hclean.entry (isModuleName_of_mem_paths ht hmem) _

/-- The files that a plan has in a location: the declared modules of the location, the entry module, and
the module file of a directory. -/
theorem planned_iff (hclean : p.Clean) (hplan : ofProject p runtime = .ok files) {l : Location}
    (hl : l.Clean) {m : String} (hm : Location.IsName (m ++ ".rs")) :
    Planned files (l.file (m ++ ".rs")) ↔ (l, m) ∈ p.declared ∨ (l = p.entry ∧ m = "main") ∨
      m = "mod" ∧ ∃ path, path ≠ [] ∧ p.HasDirectory path ∧ l = p.entry.below path := by
  constructor
  · intro hplanned
    obtain ⟨g, hg, hpath⟩ := (planned_iff_produces hplan).mp hplanned
    rcases produces_at hclean hg hl hm hpath with
      hmain | ⟨hmod, t, path, ht, hmem, hne, hbelow⟩ | ⟨f, hf, text, mode, hwrites, -⟩
    · exact Or.inr (Or.inl hmain)
    · exact Or.inr (Or.inr ⟨hmod, path, hne, (hasDirectory_iff ht).mpr hmem, hbelow⟩)
    · exact Or.inl (Project.mem_declared.mpr ⟨f, hf, hwrites.declares⟩)
  · rintro (hdeclared | ⟨rfl, rfl⟩ | ⟨rfl, path, hne, hdir, rfl⟩)
    · obtain ⟨f, hf, hdeclares⟩ := Project.mem_declared.mp hdeclared
      obtain ⟨all, hall, -⟩ := exists_produced hplan
      obtain ⟨text, mode, hwrites⟩ := exists_writes hall hf hdeclares
      exact (planned_iff_produces hplan).mpr ⟨_, .written hf hwrites, rfl⟩
    · have hsplit : "main.rs" = "main" ++ ".rs" := by decide
      rw [← hsplit]
      exact planned_main hplan
    · have hsplit : "mod.rs" = "mod" ++ ".rs" := by decide
      rw [← hsplit]
      exact planned_moduleFile hclean hplan hdir hne

/-- A directory that leads to a declared module has the name of a module. -/
theorem isModuleName_of_hasDirectory {path : List String} {m : String}
    (hdir : p.HasDirectory (path ++ [m])) : Name.isModuleName m = true := by
  obtain ⟨x, -, whole, hwhole, hfront⟩ := hdir
  refine isModuleName_of_path? hwhole m (hfront.subset ?_)
  exact List.mem_append_right path (List.mem_singleton_self m)

/-- The directories below the entry that a location with one more part can be. -/
theorem below_concat_iff {entry l : Location} {m : String} {P : List String → Prop} :
    (∃ path, path ≠ [] ∧ P path ∧ l.below [m] = entry.below path) ↔
      ∃ front, l = entry.below front ∧ P (front ++ [m]) := by
  constructor
  · rintro ⟨path, hne, hpath, heq⟩
    obtain ⟨front, last, rfl⟩ := (List.eq_nil_or_concat' path).resolve_left hne
    have hparts : l.parts ++ [m] = entry.parts ++ front ++ [last] := by
      rw [List.append_assoc]
      exact Location.mk.inj heq
    obtain ⟨hfront, hlast⟩ := List.append_inj' hparts rfl
    obtain rfl := List.singleton_inj.mp hlast
    exact ⟨front, congrArg Location.mk hfront, hpath⟩
  · rintro ⟨front, rfl, hpath⟩
    exact ⟨front ++ [m], List.concat_ne_nil m front, hpath, (entry.below_append front [m]).symm⟩

theorem exists_path_of_declared {t : ModuleTree} (ht : p.modules = .ok t) {x : Location × String}
    (hx : x ∈ p.declared) : ∃ path, ModuleTree.path? p.entry x.1 = .ok path := by
  obtain ⟨entered, hentered, -⟩ := holds_modules ht
  obtain ⟨placed, -, hplace⟩ := exists_ok_of_mapM_ok hentered hx
  obtain ⟨path, hpath, -⟩ := bind_eq_ok hplace
  exact ⟨path, hpath⟩

/-- No directory below the entry is called like the file of a directory: nothing can be declared there,
and nothing further down. -/
theorem not_below_mod (hplan : ofProject p runtime = .ok files) {path : List String} :
    ((p.entry.below path).below ["mod"], "mod") ∉ p.declared ∧ ¬ p.HasDirectory (path ++ ["mod"]) := by
  have hkeyword : ¬ Name.isModuleName "mod" = true := by decide
  obtain ⟨t, ht⟩ := exists_modules hplan
  refine ⟨fun hdeclared => ?_, fun hdir => hkeyword (isModuleName_of_hasDirectory hdir)⟩
  obtain ⟨modules, hmodules⟩ := exists_path_of_declared ht hdeclared
  rcases ModuleTree.path?_eq_ok_iff.mp hmodules with ⟨hentry, -⟩ | ⟨-, hproper⟩
  · -- the entry is not below itself
    have hlength := congrArg (·.parts.length) hentry
    simp only [Location.below, List.length_append, List.length_singleton] at hlength
    omega
  · have hlast := Location.isModuleName_last hproper
    rw [Location.last, Location.below, List.getLastD_concat] at hlast
    exact hkeyword hlast

/-- A module has two files when it is declared, or is the entry module, next to a directory of its name
that has a file: one that leads to declared modules, or one where a module has the name of this file. -/
theorem twoFiles_iff (hclean : p.Clean) (hplan : ofProject p runtime = .ok files) {l : Location}
    (hl : l.Clean) {m : String} (hm : Location.IsPart m) :
    TwoFiles files l m ↔
      ((l, m) ∈ p.declared ∨ l = p.entry ∧ m = "main") ∧
        ((l.below [m], "mod") ∈ p.declared ∨
          ∃ front, l = p.entry.below front ∧ p.HasDirectory (front ++ [m])) := by
  have hbelow : (l.below [m]).Clean := by
    intro part hpart
    rcases List.mem_append.mp hpart with hpart | hpart
    · exact hl part hpart
    · exact List.mem_singleton.mp hpart ▸ hm
  have hname : Location.IsName (m ++ ".rs") := by
    refine ⟨fun hempty => hm.ne_empty (String.append_eq_empty_iff.mp hempty).1, fun hslash => ?_⟩
    rw [String.toList_append] at hslash
    rcases List.mem_append.mp hslash with hslash | hslash
    · exact hm.no_slash hslash
    · exact absurd hslash (by decide)
  have hdir : Planned files ((l.below [m]).file "mod.rs") ↔
      (l.below [m], "mod") ∈ p.declared ∨
        ∃ front, l = p.entry.below front ∧ p.HasDirectory (front ++ [m]) := by
    have hmod : "mod.rs" = "mod" ++ ".rs" := by decide
    have hmain : ¬ "mod" = "main" := by decide
    rw [← below_concat_iff, hmod, planned_iff hclean hplan hbelow (hmod ▸ isName_mod)]
    simp only [hmain, and_false, false_or, true_and]
  rw [TwoFiles, hdir, planned_iff hclean hplan hl hname, ← or_assoc, or_and_right]
  refine or_iff_left ?_
  -- the file of a directory below the entry does not stand next to a directory of its name
  rintro ⟨⟨rfl, path, -, -, rfl⟩, hdeclared | ⟨front, heq, hfront⟩⟩
  · exact (not_below_mod hplan).1 hdeclared
  · exact (not_below_mod hplan).2 hfront

/-! ## Declarations -/

/-- A directory is declared in one way or the other. -/
theorem mem_declarations_of_subdir {d : ModuleDir} {m : String} (hm : m ∈ d.subdirs) (visibility : String) :
    visibility ++ "mod " ++ m ++ ";" ∈ d.declarations visibility ∨
      "mod " ++ m ++ ";" ∈ d.declarations visibility := by
  by_cases hfile : m ∈ d.files
  · refine Or.inr (List.mem_append_right _ (List.mem_flatMap.mpr ⟨m, hfile, ?_⟩))
    exact List.mem_cons_self
  · refine Or.inl (List.mem_append_left _ (List.mem_map.mpr ⟨m, List.mem_filter.mpr ⟨hm, ?_⟩, rfl⟩))
    simpa using hfile

theorem unbroken_of_isModuleName {m : String} (h : Name.isModuleName m = true) : Unbroken m :=
  fun hmem => absurd (Name.wordChar_of_isModuleName h '\n' hmem) (by decide)

/-- A text that has the declarations of a directory among its lines declares the subdirectories. -/
theorem declaresModule_of_subdir {d : ModuleDir} {m visibility rest : String} {ls : List String}
    (hvisibility : visibility ∈ ["", "pub "]) (hm : m ∈ d.subdirs) (hname : Name.isModuleName m = true)
    (hls : ∀ line ∈ d.declarations visibility, line ∈ ls) :
    DeclaresModule (Template.block ls ++ rest) m := by
  have hunbroken : ∀ v ∈ ["", "pub "], Unbroken (v ++ "mod " ++ m ++ ";") := by
    intro v hv
    have hv : Unbroken v := by
      revert v
      decide
    simp only [unbroken_append]
    exact ⟨⟨⟨hv, by decide⟩, unbroken_of_isModuleName hname⟩, by decide⟩
  rcases mem_declarations_of_subdir hm visibility with hline | hline
  · exact ⟨visibility, hvisibility,
      mem_lineParts_ended (hls _ hline) (hunbroken visibility hvisibility) rest⟩
  · refine ⟨"", List.mem_cons_self, ?_⟩
    rw [← String.empty_append (s := "mod ")] at hline
    exact mem_lineParts_ended (hls _ hline) (hunbroken "" List.mem_cons_self) rest

/-- The file that declares the modules of a directory has the declarations among its lines. -/
theorem exists_lines_of_declaring {path : List String} {d : ModuleDir}
    (h : Declaring p runtime files path d) :
    ∃ g ∈ files, g.path = directoryFile p path ∧ ∃ visibility ∈ ["", "pub "], ∃ ls rest,
      g.contents = Template.block ls ++ rest ∧ ∀ line ∈ d.declarations visibility, line ∈ ls := by
  rw [Declaring] at h
  rw [directoryFile]
  split at h
  · rename_i hnil
    obtain ⟨calls, hmain⟩ := h
    rw [if_pos hnil]
    refine ⟨_, hmain, rfl, "", List.mem_cons_self, _, _, rfl, ?_⟩
    intro line hline
    simp only [List.mem_append, hline, true_or, or_true]
  · rename_i hne
    obtain ⟨g, hg, hgpath, hcontents, -⟩ := h
    rw [if_neg hne]
    refine ⟨g, hg, hgpath, "pub ", List.mem_cons_of_mem _ List.mem_cons_self, _, "",
      (hcontents.trans String.append_empty.symm), ?_⟩
    intro line hline
    exact List.mem_cons_of_mem _ (List.mem_cons_of_mem _ hline)

/-- Every directory on the way to a declared module is declared in the file of the directory above it. -/
theorem exists_declaring (hclean : p.Clean) (hplan : ofProject p runtime = .ok files)
    {path : List String} {m : String} (hdir : p.HasDirectory (path ++ [m])) :
    ∃ g ∈ files, g.path = directoryFile p path ∧ DeclaresModule g.contents m := by
  obtain ⟨t, ht⟩ := exists_modules hplan
  obtain ⟨entered, -, hholds⟩ := holds_modules ht
  -- the subdirectory was entered together with the module further down
  obtain ⟨x, hx, hfront⟩ := (hholds.paths _).mp ((hasDirectory_iff ht).mp hdir)
  have hsub : m ∈ (t.dir path).subdirs := (hholds.subdirs path m).mpr ⟨x, hx, hfront⟩
  have hpath : path ∈ t.paths :=
    (hholds.paths path).mpr ⟨x, hx, (List.prefix_append path [m]).trans hfront⟩
  obtain ⟨g, hg, hgpath, visibility, hvisibility, ls, rest, hcontents, hls⟩ :=
    exists_lines_of_declaring (declaring_of_mem_paths hclean.entry hplan ht hpath)
  refine ⟨g, hg, hgpath, ?_⟩
  rw [hcontents]
  exact declaresModule_of_subdir hvisibility hsub (isModuleName_of_hasDirectory hdir) hls

/-! ## The way down -/

theorem hasDirectory_front {front path : List String} (h : p.HasDirectory path)
    (hfront : front <+: path) : p.HasDirectory front := by
  obtain ⟨x, hx, whole, hwhole, hpath⟩ := h
  exact ⟨x, hx, whole, hwhole, hfront.trans hpath⟩

/-- No module on the way down to a directory that is reached has two files. -/
theorem not_twoFiles_of_reached {path : List String} (h : Reached p files path) {front : List String}
    {m : String} (hfront : front ++ [m] <+: path) : ¬ TwoFiles files (p.entry.below front) m := by
  induction h with
  | entry _ => exact absurd (List.prefix_nil.mp hfront) (List.concat_ne_nil m front)
  | step _ _ _ _ _ hone ih =>
      -- the module is the one of the last step, or it is passed on the way to the directory above
      rcases List.prefix_concat_iff.mp hfront with heq | hfront
      · obtain ⟨rfl, hlast⟩ := List.append_inj' heq rfl
        obtain rfl := List.singleton_inj.mp hlast
        exact fun htwo => hone htwo.1
      · exact ih hfront

/-- The way down goes on as long as no module has two files. -/
theorem reached_of_forall (hclean : p.Clean) (hplan : ofProject p runtime = .ok files)
    {path : List String} (hdir : p.HasDirectory path)
    (hone : ∀ front m, front ++ [m] <+: path → ¬ TwoFiles files (p.entry.below front) m) :
    Reached p files path := by
  -- the way down grows at its end, so the hypothesis is about the directory above
  induction path using List.reverseRecOn with
  | nil => exact .entry (planned_main hplan)
  | append_singleton path m ih =>
      have hfront : path <+: path ++ [m] := List.prefix_append path [m]
      have hreached := ih (hasDirectory_front hdir hfront) fun front m' h =>
        hone front m' (h.trans hfront)
      obtain ⟨g, hg, hpath, hline⟩ := exists_declaring hclean hplan hdir
      have hmodule := planned_moduleFile hclean hplan hdir (List.concat_ne_nil m path)
      refine .step hreached hg hpath hline hmodule fun hfile => ?_
      refine hone path m (List.prefix_refl _) ⟨hfile, ?_⟩
      rwa [← p.entry.below_append]

/-- A module has two files exactly when it is declared, or is the entry module, next to a directory of its
name that has a file.  Every directory has a file of its own and is declared in the one above it, and it is
reached from the entry module if and only if no module on the way down has two files. -/
theorem ofProject_reaches (hclean : p.Clean) (hplan : ofProject p runtime = .ok files) :
    (∀ l m, l.Clean → Location.IsPart m →
      (TwoFiles files l m ↔
        ((l, m) ∈ p.declared ∨ l = p.entry ∧ m = "main") ∧
          ((l.below [m], "mod") ∈ p.declared ∨
            ∃ front, l = p.entry.below front ∧ p.HasDirectory (front ++ [m])))) ∧
    ∀ path, p.HasDirectory path →
      (path ≠ [] → Planned files ((p.entry.below path).file "mod.rs")) ∧
      (∀ front m, front ++ [m] <+: path →
        ∃ g ∈ files, g.path = directoryFile p front ∧ DeclaresModule g.contents m) ∧
      (Reached p files path ↔
        ∀ front m, front ++ [m] <+: path → ¬ TwoFiles files (p.entry.below front) m) := by
  refine ⟨fun l m hl hm => twoFiles_iff hclean hplan hl hm, fun path hdir => ⟨?_, ?_, ?_, ?_⟩⟩
  · exact planned_moduleFile hclean hplan hdir
  · exact fun front m hfront => exists_declaring hclean hplan (hasDirectory_front hdir hfront)
  · exact fun hreached front m => not_twoFiles_of_reached hreached
  · exact reached_of_forall hclean hplan hdir

theorem ofProject_reaches_shop :
    ∃ files, ofProject (shop [⟨["shop", "src", "handler"]⟩]) "web" = .ok files ∧
      Reached (shop [⟨["shop", "src", "handler"]⟩]) files ["handler"] := by
  let p := shop [⟨["shop", "src", "handler"]⟩]
  obtain ⟨files, hplan⟩ : ∃ files, ofProject p "web" = .ok files :=
    exists_ok_of_toBool (by decide +kernel)
  have hclean : p.Clean := shop_clean (by decide)
  have hdir : p.HasDirectory ["handler"] :=
    ⟨(⟨["shop", "src", "handler"]⟩, "items"), by decide, ["handler"], by decide, List.prefix_refl _⟩
  obtain ⟨htwo, hreached⟩ := ofProject_reaches hclean hplan
  refine ⟨files, hplan, (hreached ["handler"] hdir).2.2.mpr ?_⟩
  intro front m (hfront : front ++ [m] <+: [] ++ ["handler"])
  rcases List.prefix_concat_iff.mp hfront with heq | hnone
  · cases front with
    | nil =>
        obtain rfl := List.singleton_inj.mp heq
        have hpart : Location.IsPart "handler" := Location.isPart_of_isModuleName (by decide)
        rw [p.entry.below_nil, htwo p.entry "handler" hclean.entry hpart]
        rintro ⟨hdeclared | ⟨-, hmain⟩, -⟩
        · exact absurd hdeclared (by decide)
        · exact absurd hmain (by decide)
    | cons _ front => exact absurd (List.cons.inj heq).2 (List.concat_ne_nil m front)
  · exact absurd (List.prefix_nil.mp hnone) (List.concat_ne_nil m front)

/-! ## A directory with the name of a router -/

/-- A router that is called like the directory of its handler, and stands next to it. -/
def handlerRouter : Router :=
  { name := ⟨"Handler", by decide, by decide⟩
    location := ⟨["shop", "src"]⟩
    specs := [.handler (itemsHandler ⟨["shop", "src", "handler"]⟩)] }

/-- A project with this router. -/
def handlerShop : Project :=
  { entry := ⟨["shop", "src"]⟩
    frames := [{ name := "shop", version := "1.0", router := handlerRouter }] }

theorem handlerShop_registered : handlerShop.Registered := by
  have hrouter : handlerRouter.Registered :=
    .handler (.declare "Handler" rfl)
      (Router.addHandler_eq_ok_iff.mpr ⟨itemsHandler_admitted ⟨["shop", "src", "handler"]⟩, rfl⟩)
  exact .frame "shop" "1.0" (.start ⟨["shop", "src"]⟩) hrouter rfl

theorem handlerShop_clean : handlerShop.Clean := by
  have hentry : (⟨["shop", "src"]⟩ : Location).Clean := clean_of_all (by decide)
  refine ⟨hentry, ?_⟩
  intro f hf l file hfile
  rw [List.mem_singleton.mp hf] at hfile
  cases hfile with
  | own => exact hentry
  | handler hs =>
      cases List.mem_singleton.mp hs
      exact clean_of_all (by decide)
  | middleware hs => cases List.mem_singleton.mp hs

/-- The module of a router can have two files, and then the directory of its handlers is not reached. -/
theorem not_reached_handlerShop :
    handlerShop.Registered ∧ handlerShop.Clean ∧ ∃ files, ofProject handlerShop "web" = .ok files ∧
      TwoFiles files handlerShop.entry "handler" ∧ handlerShop.HasDirectory ["handler"] ∧
      ¬ Reached handlerShop files ["handler"] := by
  have hclean := handlerShop_clean
  obtain ⟨files, hplan⟩ : ∃ files, ofProject handlerShop "web" = .ok files :=
    exists_ok_of_toBool (by decide +kernel)
  have hpart : Location.IsPart "handler" := Location.isPart_of_isModuleName (by decide)
  have hdir : handlerShop.HasDirectory ["handler"] :=
    ⟨(⟨["shop", "src", "handler"]⟩, "items"), by decide, ["handler"], by decide, List.prefix_refl _⟩
  have htwo : TwoFiles files handlerShop.entry "handler" := by
    rw [twoFiles_iff hclean hplan hclean.entry hpart]
    exact ⟨Or.inl (by decide), Or.inr ⟨[], rfl, hdir⟩⟩
  refine ⟨handlerShop_registered, hclean, files, hplan, htwo, hdir, fun hreached => ?_⟩
  have hfirst : [] ++ ["handler"] <+: ["handler"] := List.prefix_refl _
  exact not_twoFiles_of_reached hreached hfirst htwo

end Plan

end RouteWorks
