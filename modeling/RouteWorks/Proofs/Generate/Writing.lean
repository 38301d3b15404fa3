import RouteWorks.Generate.Write
import RouteWorks.Proofs.FileSystem.Change

/-!
# Plans that are written

A file of a plan is kept or written with the directories above it (`PlannedFile.Writes`), and a plan is
written file by file (`PlannedFile.WritesAll`).  Files that have places of their own do not disturb each
other, so each is as it should be in the end, and writing the plan again changes no contents
(`GenerateOptions.writePlan_settles`).  A directory in the place of a file of the user is taken for the file.
-/

namespace RouteWorks

open FileSystem (target Puts)

/-! ## Actions -/

section Actions

variable {α β : Type} {x : Action α} {next : α → Action β} {fs fs' : FileSystem} {b : β} {e : Failure}

theorem Action.bind_eq_ok (h : (x >>= next) fs = .ok b fs') :
    ∃ a fs₁, x fs = .ok a fs₁ ∧ next a fs₁ = .ok b fs' := by
  change EStateM.bind x next fs = .ok b fs' at h
  unfold EStateM.bind at h
  cases hx : x fs with
  | error e fs₁ => simp [hx] at h
  | ok a fs₁ => exact ⟨a, fs₁, rfl, by simpa [hx] using h⟩

theorem Action.bind_of_ok {a : α} {fs₁ : FileSystem} (hx : x fs = .ok a fs₁) :
    (x >>= next) fs = next a fs₁ := by
  change EStateM.bind x next fs = _
  rw [EStateM.bind, hx]

theorem Action.bind_of_error (hx : x fs = .error e fs') : (x >>= next) fs = .error e fs' := by
  change EStateM.bind x next fs = _
  rw [EStateM.bind, hx]

theorem Action.bind_eq_error (h : (x >>= next) fs = .error e fs') :
    x fs = .error e fs' ∨ ∃ a fs₁, x fs = .ok a fs₁ ∧ next a fs₁ = .error e fs' := by
  change EStateM.bind x next fs = .error e fs' at h
  unfold EStateM.bind at h
  cases hx : x fs with
  | error e' fs₁ => exact Or.inl (by simpa [hx] using h)
  | ok a fs₁ => exact Or.inr ⟨a, fs₁, rfl, by simpa [hx] using h⟩

end Actions

namespace PlannedFile

variable {fs fs₀ fs₁ fs' g made : FileSystem} {cwd p : Place} {force b : Bool} {f : PlannedFile}
  {plan : List PlannedFile} {steps : List (PlannedFile × Bool)} {report : Report}

/-! ## One file -/

/-- The directory that a file is written into. -/
def directory (f : PlannedFile) : String := (FilePath.parent? f.path).getD ""

/-- A file of a plan is kept, or it is written; the truth value says which. -/
inductive Writes (f : PlannedFile) (cwd : Place) (force : Bool) :
    FileSystem → Bool → FileSystem → Prop
  | kept {fs : FileSystem} (hkept : f.isKept cwd force fs = true) : Writes f cwd force fs false fs
  | written {fs made fs' : FileSystem} {p : Place} {d : FileData}
      (hkept : f.isKept cwd force fs = false)
      (hmade : fs.createDirectory cwd f.directory = (made, true))
      (hlocate : made.locate? cwd f.path = some p) (hoctets : d.octets = f.contents.toUTF8)
      (hputs : Puts made p d fs') : Writes f cwd force fs true fs'

theorem isKept_iff : f.isKept cwd force fs = true ↔
    f.mode = .keep ∧ force = false ∧ fs.contains cwd f.path = true := by
  simp [isKept, and_comm, and_left_comm]

/-- A file that is kept is kept later on too. -/
theorem isKept_of_retains (h : f.isKept cwd force fs = true) (hlater : fs.Retains fs') :
    f.isKept cwd force fs' = true := by
  obtain ⟨hmode, hforce, hthere⟩ := isKept_iff.mp h
  exact isKept_iff.mpr ⟨hmode, hforce, hlater.contains hthere⟩

theorem write_of_kept (hkept : f.isKept cwd force fs = true) :
    f.write cwd force fs = .ok false fs := by
  rw [write, hkept, if_pos rfl]

theorem write_of_not_made (hkept : f.isKept cwd force fs = false)
    (hmade : fs.createDirectory cwd f.directory = (made, false)) :
    f.write cwd force fs = .error (.plain ("Failed to create directory " ++ f.directory)) made := by
  rw [directory] at hmade ⊢
  simp only [write, hkept, Bool.false_eq_true, if_false, hmade]

theorem write_of_not_written (hkept : f.isKept cwd force fs = false)
    (hmade : fs.createDirectory cwd f.directory = (made, true))
    (hwrite : made.write? cwd f.path f.contents.toUTF8 = none) :
    f.write cwd force fs = .error (.plain ("Failed to write " ++ f.path)) made := by
  rw [directory] at hmade
  simp only [write, hkept, Bool.false_eq_true, if_false, hmade, hwrite]

theorem write_of_written (hkept : f.isKept cwd force fs = false)
    (hmade : fs.createDirectory cwd f.directory = (made, true))
    (hwrite : made.write? cwd f.path f.contents.toUTF8 = some fs') :
    f.write cwd force fs = .ok true fs' := by
  rw [directory] at hmade
  simp only [write, hkept, Bool.false_eq_true, if_false, hmade, hwrite]

/-- A file is kept or written, or its directory cannot be made, or it cannot be written. -/
theorem write_cases (f : PlannedFile) (cwd : Place) (force : Bool) (fs : FileSystem) :
    (∃ b fs', f.write cwd force fs = .ok b fs' ∧ f.Writes cwd force fs b fs') ∨
      (∃ made, f.write cwd force fs =
        .error (.plain ("Failed to create directory " ++ f.directory)) made) ∨
      ∃ made, f.write cwd force fs = .error (.plain ("Failed to write " ++ f.path)) made := by
  cases hkept : f.isKept cwd force fs with
  | true => exact Or.inl ⟨false, fs, write_of_kept hkept, .kept hkept⟩
  | false =>
      rcases hmade : fs.createDirectory cwd f.directory with ⟨made, isMade⟩
      cases isMade with
      | false => exact Or.inr (Or.inl ⟨made, write_of_not_made hkept hmade⟩)
      | true =>
          cases hwrite : made.write? cwd f.path f.contents.toUTF8 with
          | none => exact Or.inr (Or.inr ⟨made, write_of_not_written hkept hmade hwrite⟩)
          | some fs' =>
              obtain ⟨p, d, hlocate, hoctets, hputs⟩ := FileSystem.write?_eq_some hwrite
              exact Or.inl ⟨true, fs', write_of_written hkept hmade hwrite,
                .written hkept hmade hlocate hoctets hputs⟩

theorem writes_of_write (h : f.write cwd force fs = .ok b fs') : f.Writes cwd force fs b fs' := by
  rcases f.write_cases cwd force fs with ⟨b', fs₁, hwrite, hwrites⟩ | ⟨made, hfault⟩ | ⟨made, hfault⟩
  · rw [hwrite] at h
    cases h
    exact hwrites
  · rw [hfault] at h
    cases h
  · rw [hfault] at h
    cases h

namespace Writes

theorem retains (h : f.Writes cwd force fs b fs') : fs.Retains fs' := by
  cases h with
  | kept _ => exact .refl fs
  | written _ hmade _ _ hputs =>
      exact (FileSystem.createDirectory_adds hmade).retains.trans hputs.retains

/-- Only the place of the file is written to. -/
theorem spares (h : f.Writes cwd force fs b fs') (hp : b = true → target cwd f.path ≠ p) :
    fs.Spares fs' p := by
  cases h with
  | kept _ => exact .refl fs p
  | written _ hmade hlocate _ hputs =>
      have hne : p ≠ target cwd f.path := (hp rfl).symm
      rw [FileSystem.target_of_locate? hlocate] at hne
      exact (FileSystem.createDirectory_adds hmade p).trans (Or.inl (hputs.get?_of_ne hne))

/-- A file that is written is where its path leads. -/
theorem holds (h : f.Writes cwd force fs true fs') : f.path ≠ "" ∧
    fs'.locate? cwd f.path = some (target cwd f.path) ∧
    ∃ d, fs'.get? (target cwd f.path) = some (.file d) ∧ d.octets = f.contents.toUTF8 := by
  cases h with
  | written _ _ hlocate hoctets hputs =>
      rw [FileSystem.target_of_locate? hlocate]
      exact ⟨FileSystem.ne_empty_of_puts hlocate hputs, hputs.retains.locate? hlocate, _,
        hputs.get?_self, hoctets⟩

/-- A file that has been kept or written is kept or written again, and its contents stay. -/
theorem again (h : f.Writes cwd force fs b fs₁) (hlater : fs₁.Retains g)
    (hcontents : b = true →
      ∃ d, g.get? (target cwd f.path) = some (.file d) ∧ d.octets = f.contents.toUTF8) :
    ∃ b' g', f.write cwd force g = .ok b' g' ∧ g.SameContents g' := by
  cases hkept : f.isKept cwd force g with
  | true => exact ⟨false, g, write_of_kept hkept, .refl g⟩
  | false =>
      cases h with
      | kept hbefore =>
          rw [isKept_of_retains hbefore hlater] at hkept
          cases hkept
      | written _ hmade hlocate _ hputs =>
          have hmade' := FileSystem.createDirectory_again hmade (hputs.retains.trans hlater)
          have hlocate' := (hputs.retains.trans hlater).locate? hlocate
          obtain ⟨d, hd, hoctets⟩ := hcontents rfl
          rw [FileSystem.target_of_locate? hlocate] at hd
          obtain ⟨d', g', hwrite, hoctets', hputs'⟩ :=
            FileSystem.exists_write? f.contents.toUTF8 hlocate' (Or.inr ⟨d, hd⟩)
          exact ⟨true, g', write_of_written hkept hmade' hwrite,
            hputs'.sameContents hd (hoctets'.trans hoctets.symm)⟩

end Writes

/-! ## One file after another -/

/-- The files of a plan are kept or written one after another. -/
inductive WritesAll (cwd : Place) (force : Bool) :
    FileSystem → List (PlannedFile × Bool) → FileSystem → Prop
  | nil (fs : FileSystem) : WritesAll cwd force fs [] fs
  | cons {fs fs₁ fs' : FileSystem} {f : PlannedFile} {b : Bool} {steps : List (PlannedFile × Bool)}
      (hfirst : f.Writes cwd force fs b fs₁) (hrest : WritesAll cwd force fs₁ steps fs') :
      WritesAll cwd force fs ((f, b) :: steps) fs'

/-- What is reported about files that were kept or written. -/
def reportOf (steps : List (PlannedFile × Bool)) : Report where
  written := (steps.filter (·.2)).map (·.1.path)
  skipped := (steps.filter (!·.2)).map (·.1.path)

theorem exists_writesAll (h : writeAll cwd force plan fs = .ok report fs') :
    ∃ steps, steps.map Prod.fst = plan ∧ report = reportOf steps ∧
      WritesAll cwd force fs steps fs' := by
  induction plan generalizing fs report with
  | nil =>
      cases h
      exact ⟨[], rfl, rfl, .nil _⟩
  | cons f plan ih =>
      obtain ⟨b, fs₁, hfirst, h⟩ := Action.bind_eq_ok h
      obtain ⟨rest, fs₂, hrest, h⟩ := Action.bind_eq_ok h
      cases h
      obtain ⟨steps, hplan, rfl, hsteps⟩ := ih hrest
      refine ⟨(f, b) :: steps, by rw [List.map_cons, hplan], ?_,
        .cons (writes_of_write hfirst) hsteps⟩
      cases b <;> simp [reportOf]

namespace WritesAll

theorem retains (h : WritesAll cwd force fs steps fs') : fs.Retains fs' := by
  induction h with
  | nil fs => exact .refl fs
  | cons hfirst _ ih => exact hfirst.retains.trans ih

theorem spares (h : WritesAll cwd force fs steps fs')
    (hp : ∀ step ∈ steps, step.2 = true → target cwd step.1.path ≠ p) : fs.Spares fs' p := by
  induction h with
  | nil fs => exact .refl fs p
  | cons hfirst _ ih =>
      rw [List.forall_mem_cons] at hp
      exact (hfirst.spares hp.1).trans (ih hp.2)

/-- Where each file has a place of its own, its turn is all that happens there. -/
theorem turn (h : WritesAll cwd force fs steps fs')
    (hnodup : (steps.map fun step => target cwd step.1.path).Nodup) {step : PlannedFile × Bool}
    (hstep : step ∈ steps) :
    ∃ fs₀ fs₁, fs.Retains fs₀ ∧ fs.Spares fs₀ (target cwd step.1.path) ∧
      step.1.Writes cwd force fs₀ step.2 fs₁ ∧
      fs₁.Retains fs' ∧ fs₁.Spares fs' (target cwd step.1.path) := by
  induction h with
  | nil _ => cases hstep
  | @cons fs fs₁ _ f b steps hfirst hrest ih =>
      obtain ⟨hother, hnodup⟩ := List.nodup_cons.mp hnodup
      have hne : ∀ step ∈ steps, target cwd f.path ≠ target cwd step.1.path :=
        fun step hmem heq => hother (List.mem_map.mpr ⟨step, hmem, heq.symm⟩)
      rcases List.mem_cons.mp hstep with rfl | hstep
      · exact ⟨fs, fs₁, .refl fs, .refl fs _, hfirst, hrest.retains,
          hrest.spares fun step hmem _ => (hne step hmem).symm⟩
      · obtain ⟨fs₀, fs₂, hbefore, hspared, hturn, hafter⟩ := ih hnodup hstep
        exact ⟨fs₀, fs₂, hfirst.retains.trans hbefore,
          (hfirst.spares fun _ => hne _ hstep).trans hspared, hturn, hafter⟩

end WritesAll

/-- How a file of a plan ends up: with the contents that are planned; as a file of the user that was
there before; or not at all, because a directory is in its place. -/
inductive Settles (fs fs' : FileSystem) (cwd : Place) (force : Bool) (f : PlannedFile) : Bool → Prop
  | written {d : FileData} (hnew : f.isKept cwd force fs = false)
      (hfile : fs'.file? cwd f.path = some d) (hoctets : d.octets = f.contents.toUTF8) :
      Settles fs fs' cwd force f true
  | kept {d : FileData} (hmode : f.mode = .keep) (hforce : force = false)
      (hbefore : fs.get? (target cwd f.path) = some (.file d))
      (hafter : fs'.file? cwd f.path = some d) : Settles fs fs' cwd force f false
  | blocked (hmode : f.mode = .keep) (hforce : force = false)
      (hdirectory : fs'.isDirectory (target cwd f.path) = true) : Settles fs fs' cwd force f false

theorem WritesAll.settles (h : WritesAll cwd force fs steps fs')
    (hnodup : (steps.map fun step => target cwd step.1.path).Nodup) :
    ∀ step ∈ steps, Settles fs fs' cwd force step.1 step.2 := by
  rintro ⟨f, b⟩ hstep
  obtain ⟨fs₀, fs₁, hbefore, hsparedBefore, hturn, hafter, hsparedAfter⟩ := h.turn hnodup hstep
  cases b with
  | true =>
      obtain ⟨hne, hlocate, d, hd, hoctets⟩ := hturn.holds
      refine .written ?_ (FileSystem.file?_eq_some_iff.mpr ⟨hne, _, hafter.locate? hlocate,
        hsparedAfter.eq_some hd⟩) hoctets
      cases hkept : f.isKept cwd force fs with
      | false => rfl
      | true =>
          cases hturn with
          | written hnot => rw [isKept_of_retains hkept hbefore] at hnot; cases hnot
  | false =>
      cases hturn with
      | kept hkept =>
          obtain ⟨hmode, hforce, hthere⟩ := isKept_iff.mp hkept
          obtain ⟨hne, p, hlocate, hp⟩ := FileSystem.contains_iff.mp hthere
          obtain rfl := FileSystem.target_of_locate? hlocate
          obtain ⟨e, he⟩ := Option.isSome_iff_exists.mp hp
          cases e with
          | directory =>
              exact .blocked hmode hforce
                (FileSystem.isDirectory_iff.mpr (hsparedAfter.eq_some he))
          | file d =>
              refine .kept hmode hforce ?_ (FileSystem.file?_eq_some_iff.mpr ⟨hne, _,
                hafter.locate? hlocate, hsparedAfter.eq_some he⟩)
              -- the file was not put there by the plan
              rcases hsparedBefore with hsame | ⟨-, hdirectory⟩
              · rw [← hsame, he]
              · rw [hdirectory] at he
                cases he

/-- Files that each keep the contents of a file system keep them one after another. -/
theorem exists_writeAll (h : ∀ f ∈ plan, ∀ g, fs.SameContents g →
      ∃ b g', f.write cwd force g = .ok b g' ∧ g.SameContents g') (hg : fs.SameContents g) :
    ∃ report g', writeAll cwd force plan g = .ok report g' ∧ fs.SameContents g' := by
  induction plan generalizing g with
  | nil => exact ⟨{}, g, rfl, hg⟩
  | cons f plan ih =>
      rw [List.forall_mem_cons] at h
      obtain ⟨b, g₁, hfirst, hg₁⟩ := h.1 g hg
      obtain ⟨report, g', hrest, hg'⟩ := ih h.2 (hg.trans hg₁)
      refine ⟨if b then { report with written := f.path :: report.written }
        else { report with skipped := f.path :: report.skipped }, g', ?_, hg'⟩
      rw [writeAll, Action.bind_of_ok hfirst, Action.bind_of_ok hrest]
      rfl

/-- Writing a plan again changes no contents. -/
theorem WritesAll.again (h : WritesAll cwd force fs steps fs')
    (hnodup : (steps.map fun step => target cwd step.1.path).Nodup) :
    ∃ report g, writeAll cwd force (steps.map Prod.fst) fs' = .ok report g ∧ fs'.SameContents g := by
  refine exists_writeAll ?_ (.refl fs')
  intro f hf g hg
  obtain ⟨⟨f, b⟩, hstep, rfl⟩ := List.mem_map.mp hf
  obtain ⟨fs₀, fs₁, -, -, hturn, hafter, hspared⟩ := h.turn hnodup hstep
  refine hturn.again (hafter.trans hg.retains) ?_
  rintro rfl
  obtain ⟨-, -, d, hd, hoctets⟩ := hturn.holds
  obtain ⟨d', hd', hoctets', -⟩ := hg.eq_file (hspared.eq_some hd)
  exact ⟨d', hd', hoctets'.trans hoctets⟩

end PlannedFile

/-! ## Plans -/

namespace GenerateOptions

open PlannedFile (Settles reportOf)

variable {o : GenerateOptions} {h : Host} {plan : List PlannedFile} {fs fs' : FileSystem}
  {report : Report}

theorem writePlan_of_format (hformat : o.format = false) :
    o.writePlan h plan = PlannedFile.writeAll h.cwd o.force plan := by
  simp [writePlan, hformat]

/-- A plan whose files have places of their own, after it has been written without formatting: every
file has the contents that are planned or is a file of the user that is kept, as the report says, unless a
directory is in its place; no other file has changed; and writing the plan again changes no contents. -/
theorem writePlan_settles (hformat : o.format = false)
    (hplaces : (plan.map fun f => target h.cwd f.path).Nodup)
    (hrun : o.writePlan h plan fs = .ok report fs') :
    ∃ steps, steps.map Prod.fst = plan ∧ report = reportOf steps ∧
      (∀ step ∈ steps, Settles fs fs' h.cwd o.force step.1 step.2) ∧
      (∀ p, (∀ step ∈ steps, step.2 = true → target h.cwd step.1.path ≠ p) → fs.Spares fs' p) ∧
      ∃ report' fs'', o.writePlan h plan fs' = .ok report' fs'' ∧ fs'.SameContents fs'' := by
  rw [writePlan_of_format hformat] at hrun ⊢
  obtain ⟨steps, rfl, rfl, hsteps⟩ := PlannedFile.exists_writesAll hrun
  have hnodup : (steps.map fun step => target h.cwd step.1.path).Nodup := by
    rwa [List.map_map] at hplaces
  exact ⟨steps, rfl, rfl, hsteps.settles hnodup, fun p => hsteps.spares, hsteps.again hnodup⟩

/-- Options that leave the files of the user and the format alone. -/
def plainOptions : GenerateOptions :=
  { format := false, formatter := "rustfmt", runtimeCrate := "runtime", runtimePath := none }

/-- A router and two handlers, of which one is there already. -/
def sitePlan : List PlannedFile :=
  [{ path := "/src/router/route.rs", contents := "routes", mode := .always },
   { path := "/src/handler/index.rs", contents := "stub", mode := .keep },
   { path := "/src/handler/show.rs", contents := "stub", mode := .keep }]

/-- A project in which the user has written a handler. -/
def site : FileSystem where
  entries :=
    [(["src"], .directory), (["src", "handler"], .directory),
     (["src", "handler", "index.rs"], .file { octets := "mine".toUTF8, modified := .change 0 })]

theorem writePlan_settles_site :
    (sitePlan.map fun f => target [] f.path).Nodup ∧
      ∃ report fs', plainOptions.writePlan {} sitePlan site = .ok report fs' ∧
        report.skipped = ["/src/handler/index.rs"] ∧
        ∃ steps, steps.map Prod.fst = sitePlan ∧ report = reportOf steps ∧
          ∀ step ∈ steps, Settles site fs' [] false step.1 step.2 := by
  have hplaces : (sitePlan.map fun f => target [] f.path).Nodup := by decide
  have hrun : (match plainOptions.writePlan {} sitePlan site with
      | .ok report _ => some report.skipped
      | .error _ _ => none) = some ["/src/handler/index.rs"] := by decide +kernel
  refine ⟨hplaces, ?_⟩
  cases hresult : plainOptions.writePlan {} sitePlan site with
  | error e fs' =>
      rw [hresult] at hrun
      cases hrun
  | ok report fs' =>
      rw [hresult] at hrun
      obtain ⟨steps, hplan, hreport, hsettles, -, -⟩ := writePlan_settles rfl hplaces hresult
      exact ⟨report, fs', rfl, Option.some.inj hrun, steps, hplan, hreport, hsettles⟩

/-- A directory where a handler belongs. -/
def occupied : FileSystem := { entries := [(["index.rs"], .directory)] }

/-- A directory is in the place of a handler: nothing is written there, no file was there to be kept, and
the handler is reported as kept. -/
theorem not_written_or_kept_occupied :
    ¬ ∀ (o : GenerateOptions) (h : Host) (plan : List PlannedFile) (fs fs' : FileSystem)
        (report : Report), o.format = false → (plan.map (·.path)).Nodup →
        o.writePlan h plan fs = .ok report fs' →
        ∀ f ∈ plan, (∃ d, fs'.file? h.cwd f.path = some d ∧ d.octets = f.contents.toUTF8) ∨
          (f.mode = .keep ∧ o.force = false ∧
            ∃ d, fs.file? h.cwd f.path = some d ∧ fs'.file? h.cwd f.path = some d) := by
  intro hall
  have hfile : occupied.file? [] "/index.rs" = none := rfl
  rcases hall plainOptions {} [{ path := "/index.rs", contents := "stub", mode := .keep }] occupied
    occupied { skipped := ["/index.rs"] } rfl (by decide) rfl _ List.mem_cons_self with
    ⟨d, hd, -⟩ | ⟨-, -, d, hd, -⟩
  · rw [hfile] at hd
    cases hd
  · rw [hfile] at hd
    cases hd

end GenerateOptions

end RouteWorks
