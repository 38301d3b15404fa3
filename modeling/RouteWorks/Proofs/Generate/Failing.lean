import RouteWorks.Manifest.Load
import RouteWorks.Proofs.Chain.Imports
import RouteWorks.Proofs.Generate.Writing
import RouteWorks.Proofs.Project.Files
import RouteWorks.Proofs.Text.Blank

/-!
# Generating that fails

There are four ways to generate files, and each of them only looks at the file system until everything that
it writes is decided (`Generation.run_eq`, `Generation.looksOnly_prepare`).  So a failure either comes before
the first write and changes nothing, or it is one of writing or formatting the files that were decided on
(`Generation.run_outcome`).
-/

namespace RouteWorks

/-! ## Actions that only look -/

/-- An action leaves the file system as it is. -/
def Action.LooksOnly {α : Type} (x : Action α) : Prop :=
  ∀ fs, (∃ a, x fs = .ok a fs) ∨ ∃ e, x fs = .error e fs

section LooksOnly

variable {α β : Type} {x : Action α} {next : α → Action β} {fs fs' : FileSystem} {e : Failure}

theorem Action.LooksOnly.bind (hx : x.LooksOnly) (hnext : ∀ a, (next a).LooksOnly) :
    Action.LooksOnly (x >>= next) := by
  intro fs
  rcases hx fs with ⟨a, ha⟩ | ⟨e, he⟩
  · rw [Action.bind_of_ok ha]
    exact hnext a fs
  · exact Or.inr ⟨e, Action.bind_of_error he⟩

theorem Action.looksOnly_pure (a : α) : Action.LooksOnly (pure a) := fun _ => Or.inl ⟨a, rfl⟩

theorem Action.looksOnly_throw (e : Failure) : Action.LooksOnly (throw e : Action α) :=
  fun _ => Or.inr ⟨e, rfl⟩

/-- When an action that only looks comes first, a failure is its own and changes nothing, or it comes from
what follows. -/
theorem Action.LooksOnly.bind_eq_error (hx : x.LooksOnly) (h : (x >>= next) fs = .error e fs') :
    (x fs = .error e fs ∧ fs' = fs) ∨ ∃ a, x fs = .ok a fs ∧ next a fs = .error e fs' := by
  rcases Action.bind_eq_error h with herror | ⟨a, fs₁, ha, herror⟩
  · rcases hx fs with ⟨a, ha⟩ | ⟨e', he'⟩
    · rw [ha] at herror
      cases herror
    · rw [he'] at herror
      cases herror
      exact Or.inl ⟨he', rfl⟩
  · rcases hx fs with ⟨a', ha'⟩ | ⟨e', he'⟩
    · rw [ha'] at ha
      cases ha
      exact Or.inr ⟨a, ha', herror⟩
    · rw [he'] at ha
      cases ha

end LooksOnly

namespace GenerateOptions

variable {o : GenerateOptions} {h : Host} {fs fs' : FileSystem} {e : Failure}
  {plan support files : List PlannedFile} {f : PlannedFile} {cwd : Place} {force : Bool}

theorem looksOnly_planned (context : String) (plan : Except Fault (List PlannedFile)) :
    (planned context plan).LooksOnly := by
  intro fs
  cases plan with
  | error fault => exact Or.inr ⟨_, rfl⟩
  | ok files => exact Or.inl ⟨files, rfl⟩

theorem looksOnly_checkVacant (o : GenerateOptions) (cwd : Place) (dir : String) :
    (o.checkVacant cwd dir).LooksOnly := by
  intro fs
  unfold checkVacant
  split
  · exact Or.inl ⟨(), rfl⟩
  split
  · exact Or.inr ⟨_, rfl⟩
  split
  · exact Or.inl ⟨(), rfl⟩
  · exact Or.inr ⟨_, rfl⟩

/-! ## Failures of writing -/

/-- A failure of writing some files, or of the formatter that runs afterwards. -/
inductive WriteFault (o : GenerateOptions) (files : List PlannedFile) : Failure → Prop
  | directory {f : PlannedFile} (hf : f ∈ files) :
      WriteFault o files (.plain ("Failed to create directory " ++ f.directory))
  | file {f : PlannedFile} (hf : f ∈ files) :
      WriteFault o files (.plain ("Failed to write " ++ f.path))
  | unstarted (hformat : o.format = true) :
      WriteFault o files (.plain ("Failed to run " ++ o.formatter))
  | formatter (hformat : o.format = true) (status : Nat) (hstatus : status ≠ 0) :
      WriteFault o files
        (.plain (o.formatter ++ " failed with exit status: " ++ toString status))

theorem WriteFault.mono (hfault : WriteFault o files e) (hfiles : files ⊆ plan) :
    WriteFault o plan e := by
  cases hfault with
  | directory hf => exact .directory (hfiles hf)
  | file hf => exact .file (hfiles hf)
  | unstarted hformat => exact .unstarted hformat
  | formatter hformat status hstatus => exact .formatter hformat status hstatus

theorem writeFault_of_write (hrun : f.write cwd force fs = .error e fs') (hf : f ∈ files) :
    WriteFault o files e := by
  rcases f.write_cases cwd force fs with ⟨b, fs₁, hwrite, -⟩ | ⟨made, hfault⟩ | ⟨made, hfault⟩
  · rw [hwrite] at hrun
    cases hrun
  · rw [hfault] at hrun
    cases hrun
    exact .directory hf
  · rw [hfault] at hrun
    cases hrun
    exact .file hf

theorem writeFault_of_writeAll (hrun : PlannedFile.writeAll cwd force files fs = .error e fs') :
    WriteFault o files e := by
  induction files generalizing fs with
  | nil => cases hrun
  | cons f files ih =>
      rcases Action.bind_eq_error hrun with hfirst | ⟨b, fs₁, -, hrun⟩
      · exact writeFault_of_write hfirst List.mem_cons_self
      · rcases Action.bind_eq_error hrun with hrest | ⟨report, fs₂, -, hrun⟩
        · exact (ih hrest).mono (List.subset_cons_self f files)
        · cases hrun

theorem writeFault_of_formatFiles {paths : List String} (hformat : o.format = true)
    (hrun : formatFiles h o.formatter paths fs = .error e fs') : WriteFault o files e := by
  unfold formatFiles at hrun
  split at hrun
  · cases hrun
  split at hrun
  · cases hrun
    exact .unstarted hformat
  · cases hrun
  · rename_i status lasting fs₁ hstatus hprogram
    cases hrun
    exact .formatter hformat status hstatus

theorem writeFault_of_writePlan (hrun : o.writePlan h plan fs = .error e fs') :
    WriteFault o plan e := by
  rcases Action.bind_eq_error hrun with hfiles | ⟨report, fs₁, -, hrun⟩
  · exact writeFault_of_writeAll hfiles
  · cases hformat : o.format with
    | false =>
        simp only [hformat, Bool.false_eq_true, if_false] at hrun
        cases hrun
    | true =>
        simp only [hformat, if_true] at hrun
        rcases Action.bind_eq_error hrun with hformatter | ⟨u, fs₂, -, hrun⟩
        · exact writeFault_of_formatFiles hformat hformatter
        · cases hrun

/-- Writes a plan, and other files afterwards, which are not formatted. -/
def writeFiles (o : GenerateOptions) (h : Host) (files : List PlannedFile × List PlannedFile) :
    Action Report := do
  let report ← o.writePlan h files.1
  let support ← PlannedFile.writeAll h.cwd o.force files.2
  return { report with written := report.written ++ support.written }

theorem writeFiles_nil : o.writeFiles h (plan, []) = o.writePlan h plan := by
  simp [writeFiles, PlannedFile.writeAll]

theorem writeFault_of_writeFiles (hrun : o.writeFiles h (plan, support) fs = .error e fs') :
    WriteFault o (plan ++ support) e := by
  rcases Action.bind_eq_error hrun with hplan | ⟨report, fs₁, -, hrun⟩
  · exact (writeFault_of_writePlan hplan).mono (List.subset_append_left plan support)
  · rcases Action.bind_eq_error hrun with hsupport | ⟨report', fs₂, -, hrun⟩
    · exact (writeFault_of_writeAll hsupport).mono (List.subset_append_right plan support)
    · cases hrun

end GenerateOptions

/-! ## Ways to generate -/

/-- The ways to generate files. -/
inductive Generation where
  /-- The files of a project. -/
  | project (p : Project)
  /-- The files of one router. -/
  | router (r : Router) (entry : Option Location)
  /-- The files of the project that the manifest in a file describes. -/
  | manifest (path : String)
  /-- A new project in a directory. -/
  | create (dir app : String)

namespace Generation

variable {o : GenerateOptions} {h : Host} {fs fs' : FileSystem} {e : Failure}

/-- Generates files. -/
def run (o : GenerateOptions) (h : Host) : Generation → Action Report
  | project p => o.generateProject h p
  | router r entry => o.generateRouter h r entry
  | manifest path => o.generateManifest h path
  | create dir app => o.createProject h dir app

/-- The plan of a project. -/
def prepareProject (o : GenerateOptions) (p : Project) : Action (List PlannedFile) :=
  GenerateOptions.planned ("Failed to render project at " ++ p.entry.text)
    (Plan.ofProject p o.runtimeCrate)

/-- The project that the manifest in a file describes. -/
def loadProject (h : Host) (path : String) : Action Project := fun fs =>
  match Manifest.load fs h.cwd path with
  | .ok p => .ok p fs
  | .error failure => .error failure fs

/-- What is to be written: a plan, and the files besides it. -/
def prepare (o : GenerateOptions) (h : Host) :
    Generation → Action (List PlannedFile × List PlannedFile)
  | project p => do return (← prepareProject o p, [])
  | router r entry => do
    return (← GenerateOptions.planned ("Failed to render router " ++ r.name.canonical)
      (Plan.ofRouter r entry o.runtimeCrate), [])
  | manifest path => do
    let p ← loadProject h path
    return (← prepareProject o p, [])
  | create dir app => do
    o.checkVacant h.cwd dir
    match Scaffold.project h.directory dir app Scaffold.version with
    | .error fault => throw (.fault fault)
    | .ok p =>
      return (← prepareProject o p, Scaffold.supportFiles dir app o.runtimeCrate o.runtimePath)

theorem loadProject_cases (fs : FileSystem) (h : Host) (path : String) :
    (∃ p, Manifest.load fs h.cwd path = .ok p ∧ loadProject h path fs = .ok p fs) ∨
      ∃ e, Manifest.load fs h.cwd path = .error e ∧ loadProject h path fs = .error e fs := by
  unfold loadProject
  cases Manifest.load fs h.cwd path with
  | ok p => exact Or.inl ⟨p, rfl, rfl⟩
  | error e => exact Or.inr ⟨e, rfl, rfl⟩

theorem looksOnly_loadProject (h : Host) (path : String) : (loadProject h path).LooksOnly := by
  intro fs
  rcases loadProject_cases fs h path with ⟨p, -, hp⟩ | ⟨e, -, he⟩
  · exact Or.inl ⟨p, hp⟩
  · exact Or.inr ⟨e, he⟩

theorem generateManifest_eq (o : GenerateOptions) (h : Host) (path : String) :
    o.generateManifest h path = loadProject h path >>= o.generateProject h := by
  funext fs
  rcases loadProject_cases fs h path with ⟨p, hload, hp⟩ | ⟨e, hload, he⟩
  · rw [GenerateOptions.generateManifest, hload, Action.bind_of_ok hp]
  · rw [GenerateOptions.generateManifest, hload, Action.bind_of_error he]

theorem looksOnly_prepare (o : GenerateOptions) (h : Host) (g : Generation) :
    (g.prepare o h).LooksOnly := by
  have hproject : ∀ p support, Action.LooksOnly
      (do return (← prepareProject o p, support) : Action (List PlannedFile × List PlannedFile)) :=
    fun p support => (GenerateOptions.looksOnly_planned _ _).bind fun _ => Action.looksOnly_pure _
  cases g with
  | project p => exact hproject p []
  | router r entry =>
      exact (GenerateOptions.looksOnly_planned _ _).bind fun _ => Action.looksOnly_pure _
  | manifest path => exact (looksOnly_loadProject h path).bind fun p => hproject p []
  | create dir app =>
      refine (GenerateOptions.looksOnly_checkVacant o h.cwd dir).bind fun _ => ?_
      cases Scaffold.project h.directory dir app Scaffold.version with
      | error fault => exact Action.looksOnly_throw _
      | ok p => exact hproject p _

/-- Whatever is generated, all of it is decided before the first file is written. -/
theorem run_eq (g : Generation) : g.run o h = g.prepare o h >>= o.writeFiles h := by
  have hproject : ∀ p, o.generateProject h p =
      (do return (← prepareProject o p, [])) >>= o.writeFiles h := by
    intro p
    simp [GenerateOptions.generateProject, prepareProject, GenerateOptions.writeFiles_nil]
  cases g with
  | project p => exact hproject p
  | router r entry =>
      simp [run, prepare, GenerateOptions.generateRouter, GenerateOptions.writeFiles_nil]
  | manifest path =>
      simp only [run, prepare, generateManifest_eq, bind_assoc]
      refine congrArg (loadProject h path >>= ·) (funext fun p => ?_)
      rw [hproject p, bind_assoc]
  | create dir app =>
      have hfault : ∀ fault, (throw fault : Action Report) =
          (throw fault : Action (List PlannedFile × List PlannedFile)) >>= o.writeFiles h :=
        fun _ => rfl
      simp only [run, prepare, GenerateOptions.createProject, bind_assoc]
      refine congrArg (o.checkVacant h.cwd dir >>= ·) (funext fun _ => ?_)
      cases Scaffold.project h.directory dir app Scaffold.version with
      | error fault => exact hfault _
      | ok p =>
          simp [GenerateOptions.generateProject, prepareProject, GenerateOptions.writeFiles]

end Generation

/-! ## What is refused -/

namespace Plan

variable {r : Router} {entry : Option Location} {p : Project} {runtime : String}
  {files : List PlannedFile}

theorem exists_chain_of_ofRouter (h : ofRouter r entry runtime = .ok files) :
    ∃ chain, r.chain entry runtime = .ok chain := by
  obtain ⟨text, htext, -⟩ := bind_eq_ok h
  obtain ⟨chain, hchain, -⟩ := bind_eq_ok htext
  exact ⟨chain, hchain⟩

theorem clashFree_of_ofRouter (h : ofRouter r entry runtime = .ok files) :
    RouteNode.ClashFree r.specs := by
  obtain ⟨chain, hchain⟩ := exists_chain_of_ofRouter h
  obtain ⟨forest, hbuild, -⟩ := bind_eq_ok hchain
  exact (RouteNode.clashFree_iff r.specs).mpr ((RouteNode.build_ok_iff r.specs).mp ⟨forest, hbuild⟩)

/-- Once the files of a router are made, the items that its chain names have modules. -/
theorem isModule_of_ofRouter (h : ofRouter r entry runtime = .ok files) {l : Location}
    {item : String} (hnamed : Router.Names r.specs (l, item)) (hentry : entry ≠ some l) :
    l.IsModule := by
  obtain ⟨chain, hchain⟩ := exists_chain_of_ofRouter h
  exact Location.isModule_iff.mpr (hnamed.exists_modules hchain hentry)

theorem clashFree_of_ofProject (h : ofProject p runtime = .ok files) : p.ClashFree := by
  obtain ⟨all, hall, -⟩ := exists_produced h
  obtain ⟨_, _, routers, -, -, hrouters, -⟩ := produced_eq_ok hall
  intro f hf
  obtain ⟨files, -, hrouter⟩ := exists_ok_of_mapM_ok hrouters hf
  exact clashFree_of_ofRouter hrouter

theorem resolvable_of_ofProject (h : ofProject p runtime = .ok files) : p.Resolvable := by
  obtain ⟨all, hall, -⟩ := exists_produced h
  obtain ⟨_, t, _, -, ht, -, -⟩ := produced_eq_ok hall
  rcases p.modules_cases with ⟨hresolvable, -⟩ | ⟨_, _, _, -, -, -, herror⟩
  · exact hresolvable
  · rw [ht] at herror
    cases herror

end Plan

/-- A new project without a name is refused. -/
theorem Scaffold.exists_error_of_blank (cwd dir version : String) {app : String}
    (happ : Text.isBlankText app = true) : ∃ fault, project cwd dir app version = .error fault := by
  cases hproject : project cwd dir app version with
  | error fault => exact ⟨fault, rfl⟩
  | ok p =>
      obtain ⟨r, -, hframe⟩ := bind_eq_ok hproject
      rw [Project.addFrame, if_pos (Text.trim_eq_empty_iff.mpr happ)] at hframe
      cases hframe

namespace Generation

variable {o : GenerateOptions} {h : Host} {fs fs' : FileSystem} {e : Failure} {g : Generation}

/-- What there is to generate is at fault, or the directory for it is not vacant. -/
inductive Refused (o : GenerateOptions) (h : Host) (fs : FileSystem) : Generation → Prop
  | unresolvable {p : Project} (hp : ¬ p.Resolvable) : Refused o h fs (.project p)
  | conflict {p : Project} (hp : ¬ p.ClashFree) : Refused o h fs (.project p)
  | routerUnresolvable {r : Router} {entry : Option Location} {l : Location} {item : String}
      (hnamed : Router.Names r.specs (l, item)) (hentry : entry ≠ some l) (hl : ¬ l.IsModule) :
      Refused o h fs (.router r entry)
  | routerConflict {r : Router} {entry : Option Location} (hr : ¬ RouteNode.ClashFree r.specs) :
      Refused o h fs (.router r entry)
  | rejected {path : String} {e : Failure} (hload : Manifest.load fs h.cwd path = .error e) :
      Refused o h fs (.manifest path)
  | manifest {path : String} {p : Project} (hload : Manifest.load fs h.cwd path = .ok p)
      (hp : Refused o h fs (.project p)) : Refused o h fs (.manifest path)
  | occupied {dir app : String} {names : List String} (hthere : fs.contains h.cwd dir = true)
      (hnames : fs.names? h.cwd dir = some names) (hne : names ≠ []) (hforce : o.force = false) :
      Refused o h fs (.create dir app)
  | blank {dir app : String} (happ : Text.isBlankText app = true) : Refused o h fs (.create dir app)

theorem exists_planned_error {plan : Except Fault (List PlannedFile)}
    (hplan : ∀ files, plan ≠ .ok files) (context : String) (fs : FileSystem) :
    ∃ e, GenerateOptions.planned context plan fs = .error e fs := by
  cases plan with
  | error fault => exact ⟨.during context (.fault fault), rfl⟩
  | ok files => exact absurd rfl (hplan files)

theorem checkVacant_of_occupied {cwd : Place} {dir : String} {names : List String}
    (hthere : fs.contains cwd dir = true) (hnames : fs.names? cwd dir = some names)
    (hne : names ≠ []) (hforce : o.force = false) :
    o.checkVacant cwd dir fs = .error
      (.plain (dir ++ " already exists and is not empty (use --force to overwrite)")) fs := by
  simp [GenerateOptions.checkVacant, hthere, hnames, hne, hforce]

theorem Refused.exists_error (hg : g.Refused o h fs) : ∃ e, g.prepare o h fs = .error e fs := by
  have hproject : ∀ {p : Project}, ¬ (p.Resolvable ∧ p.ClashFree) →
      ∃ e, prepare o h (.project p) fs = .error e fs := by
    intro p hp
    have hplan : ∀ files, Plan.ofProject p o.runtimeCrate ≠ .ok files := fun files hfiles =>
      hp ⟨Plan.resolvable_of_ofProject hfiles, Plan.clashFree_of_ofProject hfiles⟩
    obtain ⟨e, he⟩ := exists_planned_error hplan _ fs
    exact ⟨e, Action.bind_of_error he⟩
  have hrouter : ∀ {r : Router} {entry : Option Location},
      (∀ files, Plan.ofRouter r entry o.runtimeCrate ≠ .ok files) →
      ∃ e, prepare o h (.router r entry) fs = .error e fs := by
    intro r entry hplan
    obtain ⟨e, he⟩ := exists_planned_error hplan _ fs
    exact ⟨e, Action.bind_of_error he⟩
  induction hg with
  | unresolvable hp => exact hproject fun h => hp h.1
  | conflict hp => exact hproject fun h => hp h.2
  | routerUnresolvable hnamed hentry hl =>
      exact hrouter fun files hfiles => hl (Plan.isModule_of_ofRouter hfiles hnamed hentry)
  | routerConflict hr => exact hrouter fun files hfiles => hr (Plan.clashFree_of_ofRouter hfiles)
  | @rejected path e hload =>
      rcases loadProject_cases fs h path with ⟨p, hp, -⟩ | ⟨e', -, he'⟩
      · rw [hload] at hp
        cases hp
      · exact ⟨e', Action.bind_of_error he'⟩
  | @manifest path p hload _ ih =>
      rcases loadProject_cases fs h path with ⟨p', hp', hrun⟩ | ⟨e, he, -⟩
      · rw [hload] at hp'
        cases hp'
        rw [prepare, Action.bind_of_ok hrun]
        exact ih
      · rw [hload] at he
        cases he
  | occupied hthere hnames hne hforce =>
      exact ⟨_, Action.bind_of_error (checkVacant_of_occupied hthere hnames hne hforce)⟩
  | @blank dir app happ =>
      rcases GenerateOptions.looksOnly_checkVacant o h.cwd dir fs with ⟨u, hu⟩ | ⟨e, he⟩
      · obtain ⟨fault, hfault⟩ := Scaffold.exists_error_of_blank h.directory dir Scaffold.version happ
        refine ⟨.fault fault, ?_⟩
        rw [prepare, Action.bind_of_ok hu, hfault]
        rfl
      · exact ⟨e, Action.bind_of_error he⟩

/-- Generating fails before it changes anything, or with a failure of writing the files that were decided
on or of formatting them.  A manifest that is rejected, a route conflict, a location without a module, an
app without a name and a directory that is not vacant are found before. -/
theorem run_outcome (o : GenerateOptions) (h : Host) (g : Generation) (fs : FileSystem) :
    (∀ e fs', g.run o h fs = .error e fs' →
      (g.prepare o h fs = .error e fs ∧ fs' = fs) ∨
      ∃ plan support, g.prepare o h fs = .ok (plan, support) fs ∧
        o.WriteFault (plan ++ support) e) ∧
    (g.Refused o h fs → ∃ e, g.run o h fs = .error e fs) := by
  rw [run_eq]
  constructor
  · intro e fs' hrun
    rcases (looksOnly_prepare o h g).bind_eq_error hrun with
      hprepare | ⟨⟨plan, support⟩, hprepare, hwrite⟩
    · exact Or.inl hprepare
    · exact Or.inr ⟨plan, support, hprepare, GenerateOptions.writeFault_of_writeFiles hwrite⟩
  · intro hg
    obtain ⟨e, he⟩ := hg.exists_error
    exact ⟨e, Action.bind_of_error he⟩

/-- A new project is not created among the sources of another. -/
theorem run_outcome_occupied : ∃ e, (create "/src" "site").run GenerateOptions.plainOptions {}
    GenerateOptions.site = .error e GenerateOptions.site := by
  have hthere : GenerateOptions.site.contains [] "/src" = true := by decide
  have hnames : GenerateOptions.site.names? [] "/src" = some ["handler"] := by decide
  exact (run_outcome GenerateOptions.plainOptions {} (create "/src" "site") GenerateOptions.site).2
    (.occupied hthere hnames (by simp) rfl)

end Generation

end RouteWorks
