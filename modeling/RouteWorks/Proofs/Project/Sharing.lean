import RouteWorks.Proofs.Project.Files

/-!
# Files that share a path

Several files of a project can have one path, and the plan keeps the first of them.  The path of a module
spells its location and its name, so a written file is dropped only for another text of the same location
and name, or because it has the name of the entry module or of the file of a directory
(`Plan.ofProject_keeps_first`).  Routers are no exception: the snake case of their names can be the same.
-/

namespace RouteWorks

namespace Router.Writes

variable {r : Router} {entry l : Location} {runtime file text : String} {mode : WriteMode}

theorem declares (h : r.Writes entry runtime l file text mode) : r.Declares l file := by
  cases h with
  | own _ => exact .own
  | handler hs _ => exact .handler hs
  | middleware hs => exact .middleware hs

theorem isName (h : r.Writes entry runtime l file text mode) : Location.IsName (file ++ ".rs") := by
  have hsnake : ∃ i : Identifier, file = i.snake := by
    cases h with
    | own _ => exact ⟨_, rfl⟩
    | handler _ _ => exact ⟨_, rfl⟩
    | middleware _ => exact ⟨_, rfl⟩
  obtain ⟨i, rfl⟩ := hsnake
  constructor
  · rw [ne_eq, String.append_eq_empty_iff]
    exact fun h => absurd h.2 (by decide)
  · intro hslash
    rw [String.toList_append] at hslash
    rcases List.mem_append.mp hslash with hslash | hslash
    · exact absurd (Identifier.isSnakeChar_of_mem_snake hslash) (by decide)
    · exact absurd hslash (by decide)

end Router.Writes

namespace Plan

variable {p : Project} {runtime : String} {files : List PlannedFile}

/-- Why a written file is not in a plan: it would replace the entry module or the file of a directory, or
another text is written for the same module. -/
inductive Replaced (p : Project) (runtime : String) (files : List PlannedFile) (l : Location)
    (file text : String) (mode : WriteMode) : Prop
  | main (hl : l = p.entry) (hfile : file = "main")
  | module {t : ModuleTree} {path : List String} (ht : p.modules = .ok t) (hpath : path ∈ t.paths)
      (hne : path ≠ []) (hl : l = p.entry.below path) (hfile : file = "mod")
  | written {f : Frame} {text' : String} {mode' : WriteMode} (hf : f ∈ p.frames)
      (h : f.router.Writes p.entry runtime l file text' mode')
      (hne : (text', mode') ≠ (text, mode)) (hkept : writtenFile l file text' mode' ∈ files)

/-- What can be produced at the path of a module: the file of the entry module, the file of a directory, or
what is written for the module. -/
theorem produces_at (hclean : p.Clean) {g : PlannedFile} (hg : p.Produces runtime g) {l : Location}
    (hl : l.Clean) {file : String} (hfile : Location.IsName (file ++ ".rs"))
    (hpath : g.path = l.file (file ++ ".rs")) :
    (l = p.entry ∧ file = "main") ∨
    (file = "mod" ∧ ∃ t path, p.modules = .ok t ∧ path ∈ t.paths ∧ path ≠ [] ∧ l = p.entry.below path) ∨
    ∃ f ∈ p.frames, ∃ text mode, f.router.Writes p.entry runtime l file text mode ∧
      writtenFile l file text mode = g := by
  cases hg with
  | main htext =>
      obtain ⟨hentry, hname⟩ := Location.file_inj hclean.entry hl isName_main hfile hpath
      have hsplit : "main.rs" = "main" ++ ".rs" := by decide
      rw [hsplit, String.append_left_inj] at hname
      exact Or.inl ⟨hentry.symm, hname.symm⟩
  | module ht hmem hne =>
      have hnames := isModuleName_of_mem_paths ht hmem
      rw [moduleFile_path hclean.entry hnames] at hpath
      obtain ⟨hbelow, hname⟩ :=
        Location.file_inj (Location.clean_below hclean.entry hnames) hl isName_mod hfile hpath
      have hsplit : "mod.rs" = "mod" ++ ".rs" := by decide
      rw [hsplit, String.append_left_inj] at hname
      exact Or.inr (Or.inl ⟨hname.symm, _, _, ht, hmem, hne, hbelow.symm⟩)
  | @written f l' file' text mode hf hwrites =>
      have hl' := hclean.declared f hf l' file' hwrites.declares
      obtain ⟨rfl, hname⟩ := Location.file_inj hl' hl hwrites.isName hfile hpath
      obtain rfl := (String.append_left_inj ".rs").mp hname
      exact Or.inr (Or.inr ⟨f, hf, text, mode, hwrites, rfl⟩)

/-- A written file is in the plan, or something else is in its place. -/
theorem written_or_replaced (hclean : p.Clean) (hplan : ofProject p runtime = .ok files) {f : Frame}
    (hf : f ∈ p.frames) {l : Location} {file text : String} {mode : WriteMode}
    (hwrites : f.router.Writes p.entry runtime l file text mode) :
    writtenFile l file text mode ∈ files ∨ Replaced p runtime files l file text mode := by
  obtain ⟨all, hall, rfl⟩ := exists_produced hplan
  obtain ⟨g, hfirst, hpath⟩ := exists_firstIn ((mem_produced hall).mpr (.written hf hwrites))
  have hl := hclean.declared f hf l file hwrites.declares
  have hg := (mem_produced hall).mp (mem_of_firstIn hfirst)
  have hkept := mem_firstOfEach.mpr hfirst
  -- what comes first at this path is kept; it is this file, or it is in its place
  rcases produces_at hclean hg hl hwrites.isName hpath with
    ⟨hentry, hmain⟩ | ⟨hmod, t, path, ht, hmem, hne, hbelow⟩ | ⟨f', hf', text', mode', hwrites', rfl⟩
  · exact Or.inr (.main hentry hmain)
  · exact Or.inr (.module ht hmem hne hbelow hmod)
  · by_cases hsame : (text', mode') = (text, mode)
    · cases hsame
      exact Or.inl hkept
    · exact Or.inr (.written hf' hwrites' hsame hkept)

/-- The paths of a plan are distinct, and at each path is the first of all files that are produced for it.
So nothing is lost if and only if the files with the same path are the same.  A written file is lost only
when another text is written for the same module, or when its module has the name of the entry module or
of the file of a directory. -/
theorem ofProject_keeps_first (hclean : p.Clean) (hplan : ofProject p runtime = .ok files) :
    (files.map (·.path)).Nodup ∧
    (∃ all, produced p runtime = .ok all ∧ (∀ g, g ∈ all ↔ p.Produces runtime g) ∧
      ∀ g, g ∈ files ↔ FirstIn all g) ∧
    ((∀ g, p.Produces runtime g → g ∈ files) ↔
      ∀ g g', p.Produces runtime g → p.Produces runtime g' → g.path = g'.path → g = g') ∧
    ∀ f ∈ p.frames, ∀ l file text mode, f.router.Writes p.entry runtime l file text mode →
      writtenFile l file text mode ∈ files ∨ Replaced p runtime files l file text mode := by
  obtain ⟨all, hall, hfiles⟩ := exists_produced hplan
  have hmem : ∀ g, g ∈ all ↔ p.Produces runtime g := fun g => mem_produced hall
  have hfirst : ∀ g, g ∈ files ↔ FirstIn all g := by
    intro g
    rw [← hfiles, mem_firstOfEach]
  refine ⟨?_, ⟨all, hall, hmem, hfirst⟩, ?_, ?_⟩
  · rw [← hfiles]
    exact nodup_firstOfEach all
  · constructor
    · intro hkept g g' hg hg'
      exact firstIn_unique ((hfirst g).mp (hkept g hg)) ((hfirst g').mp (hkept g' hg'))
    · intro hsame g hg
      obtain ⟨g', hg', hpath⟩ := exists_firstIn ((hmem g).mpr hg)
      rw [← hsame g' g ((hmem g').mp (mem_of_firstIn hg')) hg hpath]
      exact (hfirst g').mpr hg'
  · exact fun f hf l file text mode => written_or_replaced hclean hplan hf

theorem ofProject_keeps_first_shop :
    ∃ files, ofProject (shop [⟨["shop", "src", "handler"]⟩]) "web" = .ok files ∧
      (files.map (·.path)).Nodup := by
  obtain ⟨files, hplan⟩ : ∃ files,
      ofProject (shop [⟨["shop", "src", "handler"]⟩]) "web" = .ok files :=
    exists_ok_of_toBool (by decide +kernel)
  exact ⟨files, hplan, (ofProject_keeps_first (shop_clean (by decide)) hplan).1⟩

/-- A project with two apps whose routers have the same name but not the same routes. -/
def twoShops : Project :=
  { shop [⟨["shop", "src", "handler"]⟩] with
    frames := (shop [⟨["shop", "src", "handler"]⟩]).frames ++
      [{ name := "staff", version := "1.0", router := shopRouter [⟨["shop", "src", "staff"]⟩] }] }

theorem twoShops_registered : twoShops.Registered :=
  .frame "staff" "1.0" (shop_registered _) (shopRouter_registered [⟨["shop", "src", "staff"]⟩])
    rfl

theorem twoShops_clean : twoShops.Clean := by
  have hentry : (⟨["shop", "src"]⟩ : Location).Clean := clean_of_all (by decide)
  refine ⟨hentry, ?_⟩
  intro f hf l file hfile
  rcases List.mem_pair.mp hf with rfl | rfl
  · exact shopRouter_clean (by decide) hfile
  · exact shopRouter_clean (by decide) hfile

/-- The second of two apps can be served by the function of the first one. -/
theorem not_own_text_twoShops :
    ¬ ∀ (p : Project) (runtime : String) (files : List PlannedFile), p.Registered → p.Clean →
      ofProject p runtime = .ok files → ∀ f ∈ p.frames, ∀ text,
        f.router.create (some p.entry) runtime = .ok text →
          writtenFile f.router.location f.router.functionName text .always ∈ files := by
  intro h
  let staff : Router := shopRouter [⟨["shop", "src", "staff"]⟩]
  obtain ⟨files, hplan⟩ : ∃ files, ofProject twoShops "web" = .ok files :=
    exists_ok_of_toBool (by decide +kernel)
  obtain ⟨text, htext⟩ : ∃ text, staff.create (some twoShops.entry) "web" = .ok text :=
    exists_ok_of_toBool (by decide +kernel)
  have hlost : ((ofProject twoShops "web").toOption.bind fun files =>
      (staff.create (some twoShops.entry) "web").toOption.map fun text =>
        decide (writtenFile staff.location staff.functionName text .always ∈ files)) =
      some false := by
    decide +kernel
  rw [hplan, htext] at hlost
  have hmem := h twoShops "web" files twoShops_registered twoShops_clean hplan
    { name := "staff", version := "1.0", router := staff }
    (List.mem_append_right _ List.mem_cons_self) text htext
  exact of_decide_eq_false (Option.some.inj hlost) hmem

end Plan

end RouteWorks
