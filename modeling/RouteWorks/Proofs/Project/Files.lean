import RouteWorks.Proofs.Project.Planning
import RouteWorks.Proofs.Source.Modules

/-!
# The files of a plan

A project produces the file of the entry module, the files of the other directories, and what its routers
write (`mem_produced`); the plan has the first file for each path (`mem_firstOfEach`).  The files of the
directories come first and have paths of their own (`nodup_declaring`), so all of them are planned.
-/

namespace RouteWorks.Plan

/-! ## The first of several files with one path -/

/-- A file of a list has its path before all others. -/
def FirstIn (files : List PlannedFile) (g : PlannedFile) : Prop :=
  ∃ before after, files = before ++ g :: after ∧ ∀ e ∈ before, e.path ≠ g.path

theorem not_firstIn_nil (g : PlannedFile) : ¬ FirstIn [] g := by
  rintro ⟨before, after, h, -⟩
  cases before <;> cases h

theorem firstIn_cons {f g : PlannedFile} {fs : List PlannedFile} :
    FirstIn (f :: fs) g ↔ g = f ∨ f.path ≠ g.path ∧ FirstIn fs g := by
  constructor
  · rintro ⟨before, after, h, hbefore⟩
    cases before with
    | nil => exact Or.inl (List.cons.inj h).1.symm
    | cons e before =>
        obtain ⟨rfl, rfl⟩ := List.cons.inj h
        obtain ⟨he, hrest⟩ := List.forall_mem_cons.mp hbefore
        exact Or.inr ⟨he, before, after, rfl, hrest⟩
  · rintro (rfl | ⟨hne, before, after, rfl, hbefore⟩)
    · exact ⟨[], fs, rfl, fun e he => absurd he List.not_mem_nil⟩
    · exact ⟨f :: before, after, rfl, List.forall_mem_cons.mpr ⟨hne, hbefore⟩⟩

theorem go_cons (seen : List String) (f : PlannedFile) (fs : List PlannedFile) :
    firstOfEach.go seen (f :: fs) = if f.path ∈ seen then firstOfEach.go seen fs
      else f :: firstOfEach.go (f.path :: seen) fs := by
  simp only [firstOfEach.go, List.contains_iff_mem]

theorem mem_go {seen : List String} {files : List PlannedFile} {g : PlannedFile} :
    g ∈ firstOfEach.go seen files ↔ g.path ∉ seen ∧ FirstIn files g := by
  -- the paths that have been seen grow along the list
  induction files generalizing seen with
  | nil =>
      rw [firstOfEach.go]
      exact iff_of_false List.not_mem_nil fun h => not_firstIn_nil g h.2
  | cons f fs ih =>
      rw [go_cons, firstIn_cons]
      split
      · rename_i hseen
        rw [ih]
        constructor
        · rintro ⟨hg, hfirst⟩
          exact ⟨hg, Or.inr ⟨fun heq => hg (heq ▸ hseen), hfirst⟩⟩
        · rintro ⟨hg, rfl | ⟨-, hfirst⟩⟩
          · exact absurd hseen hg
          · exact ⟨hg, hfirst⟩
      · rename_i hseen
        rw [List.mem_cons, ih, List.mem_cons, not_or]
        constructor
        · rintro (rfl | ⟨⟨hne, hg⟩, hfirst⟩)
          · exact ⟨hseen, Or.inl rfl⟩
          · exact ⟨hg, Or.inr ⟨Ne.symm hne, hfirst⟩⟩
        · rintro ⟨hg, rfl | ⟨hne, hfirst⟩⟩
          · exact Or.inl rfl
          · exact Or.inr ⟨⟨Ne.symm hne, hg⟩, hfirst⟩

variable {files : List PlannedFile} {f g : PlannedFile}

/-- What is kept of a list are the files that have their path first. -/
theorem mem_firstOfEach : g ∈ firstOfEach files ↔ FirstIn files g := by
  rw [firstOfEach, mem_go, and_iff_right List.not_mem_nil]

theorem mem_of_firstIn (h : FirstIn files g) : g ∈ files := by
  obtain ⟨before, after, rfl, -⟩ := h
  exact List.mem_append_right _ List.mem_cons_self

theorem exists_firstIn (hf : f ∈ files) : ∃ g, FirstIn files g ∧ g.path = f.path := by
  induction files with
  | nil => exact absurd hf List.not_mem_nil
  | cons e fs ih =>
      by_cases he : e.path = f.path
      · exact ⟨e, firstIn_cons.mpr (Or.inl rfl), he⟩
      · rcases List.mem_cons.mp hf with rfl | hf
        · exact absurd rfl he
        · obtain ⟨g, hg, hpath⟩ := ih hf
          exact ⟨g, firstIn_cons.mpr (Or.inr ⟨fun heq => he (heq.trans hpath), hg⟩), hpath⟩

theorem firstIn_unique (hf : FirstIn files f) (hg : FirstIn files g) (h : f.path = g.path) : f = g := by
  induction files with
  | nil => exact absurd hf (not_firstIn_nil f)
  | cons e fs ih =>
      rcases firstIn_cons.mp hf with rfl | ⟨hef, hf⟩
      · rcases firstIn_cons.mp hg with rfl | ⟨heg, -⟩
        · rfl
        · exact absurd h heg
      · rcases firstIn_cons.mp hg with rfl | ⟨-, hg⟩
        · exact absurd h.symm hef
        · exact ih hf hg

theorem nodup_go (seen : List String) (files : List PlannedFile) :
    ((firstOfEach.go seen files).map (·.path)).Nodup := by
  induction files generalizing seen with
  | nil => exact List.nodup_nil
  | cons f fs ih =>
      rw [go_cons]
      split
      · exact ih seen
      · rw [List.map_cons, List.nodup_cons]
        refine ⟨?_, ih _⟩
        intro hmem
        obtain ⟨g, hg, hpath⟩ := List.mem_map.mp hmem
        refine (mem_go.mp hg).1 ?_
        rw [hpath]
        exact List.mem_cons_self

theorem nodup_firstOfEach (files : List PlannedFile) :
    ((firstOfEach files).map (·.path)).Nodup := nodup_go [] files

/-- Files in front whose paths differ are all kept. -/
theorem firstIn_of_nodup {front back : List PlannedFile} (h : (front.map (·.path)).Nodup)
    (hf : f ∈ front) : FirstIn (front ++ back) f := by
  obtain ⟨before, after, rfl⟩ := List.append_of_mem hf
  refine ⟨before, after ++ back, by simp, ?_⟩
  intro e he heq
  rw [List.map_append, List.nodup_append] at h
  refine h.2.2 e.path (List.mem_map_of_mem he) f.path ?_ heq
  exact List.mem_map_of_mem List.mem_cons_self

/-! ## What a project produces -/

variable {p : Project} {runtime : String}

theorem exists_produced (h : ofProject p runtime = .ok files) :
    ∃ all, produced p runtime = .ok all ∧ firstOfEach all = files := by
  rw [ofProject_eq_map] at h
  cases hall : produced p runtime with
  | error e =>
      rw [hall] at h
      cases h
  | ok all =>
      rw [hall] at h
      exact ⟨all, rfl, Except.ok.inj h⟩

/-- The file of the entry module. -/
def mainFile (p : Project) (text : String) : PlannedFile :=
  { path := p.entry.file "main.rs", contents := text, mode := .always }

/-- The file of a directory below the entry module. -/
def moduleFile (p : Project) (path : List String) (d : ModuleDir) : PlannedFile :=
  { path := p.entry.file (Text.join "/" (path ++ ["mod.rs"]))
    contents := Template.moduleFile (d.declarations "pub ")
    mode := .always }

/-- The passes that a produced list is made of. -/
theorem produced_eq_ok {all : List PlannedFile} (h : produced p runtime = .ok all) :
    ∃ text t routers, p.createMain runtime = .ok text ∧ p.modules = .ok t ∧
      (p.frames.mapM fun f => ofRouter f.router (some p.entry) runtime) = .ok routers ∧
      all = mainFile p text :: moduleFiles p t ++ routers.flatten := by
  obtain ⟨text, htext, h⟩ := bind_eq_ok h
  obtain ⟨t, ht, h⟩ := bind_eq_ok h
  obtain ⟨routers, hrouters, h⟩ := bind_eq_ok h
  cases h
  exact ⟨text, t, routers, htext, ht, hrouters, rfl⟩

theorem exists_modules (h : ofProject p runtime = .ok files) : ∃ t, p.modules = .ok t := by
  obtain ⟨all, hall, -⟩ := exists_produced h
  obtain ⟨_, t, _, -, ht, -, -⟩ := produced_eq_ok hall
  exact ⟨t, ht⟩

theorem createMain_eq_ok {text : String} {t : ModuleTree} (h : p.createMain runtime = .ok text)
    (ht : p.modules = .ok t) :
    ∃ calls, text = Template.entry runtime ((t.dir []).declarations "") calls := by
  obtain ⟨t', ht', h⟩ := bind_eq_ok h
  obtain ⟨calls, -, h⟩ := bind_eq_ok h
  rw [ht] at ht'
  cases ht'
  cases h
  refine ⟨calls, ?_⟩
  rw [ModuleTree.rootDeclarations, ModuleTree.dir]
  cases t.dirs.lookup [] <;> rfl

end RouteWorks.Plan

namespace RouteWorks

/-- What a router of a project writes, with the location and the name of the module: its own file, and
those of its handlers and middleware. -/
inductive Router.Writes (r : Router) (entry : Location) (runtime : String) :
    Location → String → String → WriteMode → Prop
  | own {text : String} (h : r.create (some entry) runtime = .ok text) :
      Writes r entry runtime r.location r.name.snake text .always
  | handler {x : Handler} {text : String} (hs : .handler x ∈ r.specs)
      (h : Template.handler x runtime = .ok text) :
      Writes r entry runtime x.location x.name.snake text .keep
  | middleware {x : Middleware} (hs : .middleware x ∈ r.specs) :
      Writes r entry runtime x.location x.name.snake (Template.middleware x) .keep

/-- The file of a module with its text. -/
def Plan.writtenFile (l : Location) (file text : String) (mode : WriteMode) : PlannedFile :=
  { path := sourceFile l file, contents := text, mode }

/-- What a project produces: the file of the entry module, the files of the other directories, and what
the routers write. -/
inductive Project.Produces (p : Project) (runtime : String) : PlannedFile → Prop
  | main {text : String} (h : p.createMain runtime = .ok text) :
      Produces p runtime (Plan.mainFile p text)
  | module {t : ModuleTree} {path : List String} (ht : p.modules = .ok t) (hpath : path ∈ t.paths)
      (hne : path ≠ []) : Produces p runtime (Plan.moduleFile p path (t.dir path))
  | written {f : Frame} {l : Location} {file text : String} {mode : WriteMode} (hf : f ∈ p.frames)
      (h : f.router.Writes p.entry runtime l file text mode) :
      Produces p runtime (Plan.writtenFile l file text mode)

/-- All locations of a project have been read from texts, so their parts name directories
(`Location.clean_iff`). -/
structure Project.Clean (p : Project) : Prop where
  entry : p.entry.Clean
  declared : ∀ f ∈ p.frames, ∀ l file, f.router.Declares l file → l.Clean

namespace Plan

variable {p : Project} {runtime : String} {g : PlannedFile}

theorem mem_ofRouter {r : Router} {entry : Location} {files : List PlannedFile}
    (h : ofRouter r (some entry) runtime = .ok files) :
    g ∈ files ↔ ∃ l file text mode,
      r.Writes entry runtime l file text mode ∧ writtenFile l file text mode = g := by
  obtain ⟨text, htext, h⟩ := bind_eq_ok h
  obtain ⟨outputs, houtputs, h⟩ := bind_eq_ok h
  cases h
  -- a mount gives no file
  have houtput : g ∈ outputs.filterMap id ↔ ∃ s ∈ r.specs, specFile runtime s = .ok (some g) := by
    rw [List.mem_filterMap, ← mem_mapM_ok houtputs]
    simp
  rw [List.mem_cons, houtput]
  constructor
  · rintro (rfl | ⟨s, hs, hfile⟩)
    · exact ⟨_, _, _, _, .own htext, rfl⟩
    · cases s with
      | handler x =>
          obtain ⟨text, htext, hfile⟩ := bind_eq_ok hfile
          obtain rfl := Option.some.inj (Except.ok.inj hfile)
          exact ⟨_, _, _, _, .handler hs htext, rfl⟩
      | middleware x =>
          obtain rfl := Option.some.inj (Except.ok.inj hfile)
          exact ⟨_, _, _, _, .middleware hs, rfl⟩
      | mount x => cases hfile
  · rintro ⟨l, file, text', mode, hwrites, rfl⟩
    cases hwrites with
    | own htext' =>
        rw [htext] at htext'
        cases htext'
        exact Or.inl rfl
    | handler hs htext =>
        refine Or.inr ⟨_, hs, ?_⟩
        rw [specFile, htext]
        rfl
    | middleware hs => exact Or.inr ⟨_, hs, rfl⟩

theorem mem_moduleFiles {t : ModuleTree} (h : Ordered.Ascending t.paths) :
    g ∈ moduleFiles p t ↔ ∃ path ∈ t.paths, path ≠ [] ∧ moduleFile p path (t.dir path) = g := by
  rw [moduleFiles, ModuleTree.moduleFiles, List.map_map, List.mem_map]
  constructor
  · rintro ⟨⟨path, d⟩, hmem, rfl⟩
    obtain ⟨hdir, hne⟩ := List.mem_filter.mp hmem
    obtain ⟨hpath, rfl⟩ := (ModuleTree.mem_dirs h).mp hdir
    exact ⟨path, hpath, by simpa using hne, rfl⟩
  · rintro ⟨path, hpath, hne, rfl⟩
    refine ⟨(path, t.dir path), List.mem_filter.mpr ⟨?_, by simpa using hne⟩, rfl⟩
    exact (ModuleTree.mem_dirs h).mpr ⟨hpath, rfl⟩

/-- The tree of modules holds the declared files, each in the directory of its location. -/
theorem holds_modules {t : ModuleTree} (ht : p.modules = .ok t) :
    ∃ entered, p.declared.mapM (ModuleTree.place p.entry) = .ok entered ∧ t.Holds entered :=
  ModuleTree.holds_empty.inserts ht

theorem mem_produced {all : List PlannedFile} (h : produced p runtime = .ok all) :
    g ∈ all ↔ p.Produces runtime g := by
  obtain ⟨text, t, routers, htext, ht, hrouters, rfl⟩ := produced_eq_ok h
  obtain ⟨entered, -, hholds⟩ := holds_modules ht
  rw [List.mem_append, List.mem_cons, mem_moduleFiles hholds.ascending, List.mem_flatten]
  constructor
  · rintro ((rfl | ⟨path, hpath, hne, rfl⟩) | ⟨files, hfiles, hg⟩)
    · exact .main htext
    · exact .module ht hpath hne
    · obtain ⟨f, hf, hrouter⟩ := (mem_mapM_ok hrouters).mp hfiles
      obtain ⟨l, file, text, mode, hwrites, rfl⟩ := (mem_ofRouter hrouter).mp hg
      exact .written hf hwrites
  · rintro (htext' | ⟨ht', hpath, hne⟩ | ⟨hf, hwrites⟩)
    · rw [htext] at htext'
      cases htext'
      exact Or.inl (Or.inl rfl)
    · rw [ht] at ht'
      cases ht'
      exact Or.inl (Or.inr ⟨_, hpath, hne, rfl⟩)
    · right
      obtain ⟨files, hfiles, hrouter⟩ := exists_ok_of_mapM_ok hrouters hf
      exact ⟨files, hfiles, (mem_ofRouter hrouter).mpr ⟨_, _, _, _, hwrites, rfl⟩⟩

theorem exists_writes {all : List PlannedFile} (h : produced p runtime = .ok all) {f : Frame}
    (hf : f ∈ p.frames) {l : Location} {file : String} (hfile : f.router.Declares l file) :
    ∃ text mode, f.router.Writes p.entry runtime l file text mode := by
  obtain ⟨_, _, routers, -, -, hrouters, -⟩ := produced_eq_ok h
  obtain ⟨files, -, hrouter⟩ := exists_ok_of_mapM_ok hrouters hf
  obtain ⟨text, htext, hrouter⟩ := bind_eq_ok hrouter
  obtain ⟨outputs, houtputs, -⟩ := bind_eq_ok hrouter
  cases hfile with
  | own => exact ⟨text, _, .own htext⟩
  | handler hs =>
      obtain ⟨output, -, houtput⟩ := exists_ok_of_mapM_ok houtputs hs
      obtain ⟨text, htext, -⟩ := bind_eq_ok houtput
      exact ⟨text, _, .handler hs htext⟩
  | middleware hs => exact ⟨_, _, .middleware hs⟩

/-! ## Where the files of directories are -/

theorem isName_main : Location.IsName "main.rs" := by
  constructor <;> decide

theorem isName_mod : Location.IsName "mod.rs" := by
  constructor <;> decide

theorem isModuleName_of_path? {entry l : Location} {path : List String}
    (h : ModuleTree.path? entry l = .ok path) : ∀ name ∈ path, Name.isModuleName name = true := by
  rcases ModuleTree.path?_eq_ok_iff.mp h with ⟨-, rfl⟩ | ⟨-, hmodules⟩
  · exact fun name hname => absurd hname List.not_mem_nil
  · exact Location.isModuleName_of_properModules? hmodules

theorem isModuleName_of_mem_paths {t : ModuleTree} (ht : p.modules = .ok t) {path : List String}
    (hpath : path ∈ t.paths) : ∀ name ∈ path, Name.isModuleName name = true := by
  obtain ⟨entered, hentered, hholds⟩ := holds_modules ht
  obtain ⟨⟨whole, file⟩, hmem, hfront⟩ := (hholds.paths path).mp hpath
  obtain ⟨⟨l, file⟩, -, hplace⟩ := (mem_mapM_ok hentered).mp hmem
  obtain ⟨whole', hwhole, hplace⟩ := bind_eq_ok hplace
  cases hplace
  exact fun name hname => isModuleName_of_path? hwhole name (hfront.subset hname)

theorem moduleFile_path (hentry : p.entry.Clean) {path : List String}
    (hpath : ∀ name ∈ path, Name.isModuleName name = true) (d : ModuleDir) :
    (moduleFile p path d).path = (p.entry.below path).file "mod.rs" := by
  have hnames : ∀ name ∈ path ++ ["mod.rs"], Location.IsName name := by
    intro name hname
    rcases List.mem_append.mp hname with hname | hname
    · exact (Location.isPart_of_isModuleName (hpath name hname)).isName
    · rw [List.mem_singleton.mp hname]
      exact isName_mod
  rw [moduleFile, Location.file_join hentry (List.append_ne_nil_of_right_ne_nil _ (by simp)) hnames,
    Location.file_eq (Location.clean_below hentry hpath) isName_mod, Location.below, List.append_assoc]

/-- The entry module and the other directories have different files. -/
theorem nodup_declaring {t : ModuleTree} (hentry : p.entry.Clean) (ht : p.modules = .ok t)
    (text : String) : ((mainFile p text :: moduleFiles p t).map (·.path)).Nodup := by
  obtain ⟨entered, -, hholds⟩ := holds_modules ht
  -- where the file of a directory is does not depend on what the directory has
  have hpaths : (moduleFiles p t).map (·.path) =
      (t.paths.filter (!·.isEmpty)).map fun path => (moduleFile p path {}).path := by
    rw [moduleFiles, ModuleTree.moduleFiles, ModuleTree.paths, List.filter_map, List.map_map,
      List.map_map, List.map_map]
    rfl
  have hfile : ∀ path ∈ t.paths.filter (!·.isEmpty),
      (moduleFile p path {}).path = (p.entry.below path).file "mod.rs" ∧
        (p.entry.below path).Clean := by
    intro path hpath
    have hnames := isModuleName_of_mem_paths ht (List.mem_filter.mp hpath).1
    exact ⟨moduleFile_path hentry hnames {}, Location.clean_below hentry hnames⟩
  rw [List.map_cons, hpaths, List.nodup_cons]
  refine ⟨?_, List.Nodup.map_on ?_ (hholds.ascending.nodup.filter _)⟩
  · intro hmem
    obtain ⟨path, hpath, heq⟩ := List.mem_map.mp hmem
    obtain ⟨hmodule, hclean⟩ := hfile path hpath
    rw [hmodule] at heq
    exact absurd (Location.file_inj hclean hentry isName_mod isName_main heq).2 (by decide)
  · intro path hpath path' hpath' heq
    obtain ⟨hmodule, hclean⟩ := hfile path hpath
    obtain ⟨hmodule', hclean'⟩ := hfile path' hpath'
    rw [hmodule, hmodule'] at heq
    have hbelow := (Location.file_inj hclean hclean' isName_mod isName_mod heq).1
    exact List.append_cancel_left (Location.mk.inj hbelow)

end Plan

/-! ## The files of the shop -/

theorem clean_of_all {l : Location} (h : l.parts.all Name.isModuleName = true) : l.Clean :=
  fun part hpart => Location.isPart_of_isModuleName (List.all_eq_true.mp h part hpart)

theorem shopRouter_clean {places : List Location}
    (h : ∀ place ∈ places, place.parts.all Name.isModuleName = true) {l : Location} {file : String}
    (hfile : (shopRouter places).Declares l file) : l.Clean := by
  have hrouter : (⟨["shop", "src", "router"]⟩ : Location).Clean := clean_of_all (by decide)
  cases hfile with
  | own => exact hrouter
  | handler hs =>
      obtain ⟨place, hplace, heq⟩ := List.mem_map.mp hs
      cases heq
      exact clean_of_all (h place hplace)
  | middleware hs =>
      obtain ⟨place, -, heq⟩ := List.mem_map.mp hs
      cases heq

theorem shop_clean {places : List Location}
    (h : ∀ place ∈ places, place.parts.all Name.isModuleName = true) : (shop places).Clean := by
  have hentry : (⟨["shop", "src"]⟩ : Location).Clean := clean_of_all (by decide)
  refine ⟨hentry, ?_⟩
  intro f hf l file hfile
  rw [List.mem_singleton.mp hf] at hfile
  exact shopRouter_clean h hfile

end RouteWorks
