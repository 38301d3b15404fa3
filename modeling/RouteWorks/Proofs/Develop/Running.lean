import RouteWorks.Develop.Server

/-!
# What runs under a development server

A server starts processes and holds the one that it started last.  The others have been stopped by then, so
only the process that is held can be alive (`Processes.Sound`).  Each request keeps this, and so does a
process that ends by itself (`DevServer.sound_step`); so it holds after any sequence of them
(`DevServer.sound_after`).  What a rebuild does is said by what comes of the two programs that are run for it,
the builder and then the binary (`Ran`, `DevServer.Rebuilt`).
-/

namespace RouteWorks

/-! ## Processes -/

namespace Processes

/-- Only the process that is held can be alive, and its number is not the next one. -/
structure Sound (p : Processes) : Prop where
  alive : p.alive = [] ∨ ∃ id, p.held = some id ∧ p.alive = [id]
  started : ∀ id, p.held = some id → id < p.count

theorem sound_none : ({} : Processes).Sound :=
  ⟨Or.inl rfl, fun _ h => absurd h (by simp)⟩

theorem count_stop (p : Processes) : p.stop.count = p.count := by
  rw [stop]
  split <;> rfl

theorem held_stop (p : Processes) : p.stop.held = none := by
  rw [stop]
  split
  · assumption
  · rfl

namespace Sound

variable {p : Processes}

theorem exit (h : p.Sound) (id : Nat) : (p.exit id).Sound := by
  refine ⟨?_, h.started⟩
  rcases h.alive with hnone | ⟨held, hheld, hone⟩
  · left
    rw [Processes.exit, hnone, List.erase_nil]
  · by_cases hid : held = id
    · left
      rw [Processes.exit, hone, hid, List.erase_cons_head]
    · right
      refine ⟨held, hheld, ?_⟩
      rw [Processes.exit, hone, List.erase_of_not_mem]
      simpa using Ne.symm hid

/-- Nothing is alive once the process that is held has been stopped. -/
theorem alive_stop (h : p.Sound) : p.stop.alive = [] := by
  rw [stop]
  split
  · rename_i hnone
    rcases h.alive with hempty | ⟨id, hheld, -⟩
    · exact hempty
    · rw [hnone] at hheld
      cases hheld
  · rename_i id hsome
    rcases h.alive with hempty | ⟨held, hheld, hone⟩
    · change p.alive.erase id = []
      rw [hempty, List.erase_nil]
    · rw [hsome] at hheld
      cases hheld
      change p.alive.erase id = []
      rw [hone, List.erase_cons_head]

theorem stop (h : p.Sound) : p.stop.Sound := by
  refine ⟨Or.inl h.alive_stop, ?_⟩
  rw [held_stop]
  rintro id ⟨⟩

/-- The server runs something exactly when a process is alive. -/
theorem isRunning_iff (h : p.Sound) : p.isRunning = true ↔ p.alive ≠ [] := by
  rw [isRunning]
  rcases h.alive with hnone | ⟨id, hheld, hone⟩
  · rw [hnone]
    cases p.held <;> simp
  · rw [hheld, hone]
    simp

end Sound

end Processes

/-! ## Programs that are run -/

/-- What comes of a program that is run in a directory, and the files behind it.  Without the directory it is
not started; otherwise this is up to the programs of the host. -/
inductive Ran (h : Host) (fs : FileSystem) (directory program : String) (args : List String) :
    Run → FileSystem → Prop
  | nowhere (hnone : ∀ place, fs.locate? h.cwd directory = some place → fs.isDirectory place = false) :
      Ran h fs directory program args .unstarted fs
  | inside {place : Place} {run : Run} {fs' : FileSystem}
      (hplace : fs.locate? h.cwd directory = some place) (hdirectory : fs.isDirectory place = true)
      (hrun : h.programs fs place program args = (run, fs')) :
      Ran h fs directory program args run fs'

section Ran

variable {h : Host} {fs fs' fs'' : FileSystem} {directory program : String} {args : List String}
  {run run' : Run}

theorem exists_ran (h : Host) (fs : FileSystem) (directory program : String) (args : List String) :
    ∃ run fs', Ran h fs directory program args run fs' := by
  by_cases hplace : ∃ place, fs.locate? h.cwd directory = some place ∧ fs.isDirectory place = true
  · obtain ⟨place, hplace, hdirectory⟩ := hplace
    exact ⟨(h.programs fs place program args).1, _, .inside hplace hdirectory rfl⟩
  · refine ⟨_, _, .nowhere fun place hlocate => ?_⟩
    exact Bool.eq_false_iff.mpr fun hdirectory => hplace ⟨place, hlocate, hdirectory⟩

theorem Ran.unique (hran : Ran h fs directory program args run fs')
    (hran' : Ran h fs directory program args run' fs'') : run = run' ∧ fs' = fs'' := by
  cases hran with
  | nowhere hnone =>
      cases hran' with
      | nowhere => exact ⟨rfl, rfl⟩
      | inside hplace hdirectory =>
          rw [hnone _ hplace] at hdirectory
          cases hdirectory
  | inside hplace hdirectory hrun =>
      cases hran' with
      | nowhere hnone =>
          rw [hnone _ hplace] at hdirectory
          cases hdirectory
      | inside hplace' _ hrun' =>
          obtain rfl := Option.some.inj (hplace.symm.trans hplace')
          exact Prod.mk.inj (hrun.symm.trans hrun')

theorem filter_isDirectory_eq_none
    (hnone : ∀ place, fs.locate? h.cwd directory = some place → fs.isDirectory place = false) :
    (fs.locate? h.cwd directory).filter fs.isDirectory = none := by
  rw [Option.filter_eq_none_iff]
  intro place hplace
  rw [hnone place hplace]
  exact Bool.false_ne_true

end Ran

/-! ## Requests and processes that end -/

namespace DevServer

open Processes

/-- What happens to a server. -/
inductive Event where
  /-- A build is asked for and run; the programs of the host decide how it ends, and whether the binary
  can be started and keeps running. -/
  | rebuild (h : Host) (fs : FileSystem)
  /-- The time of a request has come. -/
  | due (h : Host) (fs : FileSystem) (ticket : Nat)
  | schedule
  | change (path : String) (modified : Option Stamp)
  | isRunning
  | kill
  /-- A process ends by itself. -/
  | exit (id : Nat)

/-- The server after an event. -/
def step (s : DevServer) : Event → DevServer
  | .rebuild h fs => (s.rebuild h fs).1.1
  | .due h fs ticket => (s.rebuildIfDue h fs ticket).1
  | .schedule => s.schedule.1
  | .change path modified => (s.noteChange path modified).1
  | .isRunning => s
  | .kill => s.kill
  | .exit id => { s with processes := s.processes.exit id }

/-- A new server after a sequence of events. -/
def after (w : WatchOptions) (events : List Event) : DevServer := events.foldl step { options := w }

/-! ## Rebuilds -/

/-- What a rebuild makes of the processes of a server and what it answers.  The builder is run in the directory
of the package; once it has succeeded, the binary is run there with the files that the builder has left. -/
inductive Rebuilt (w : WatchOptions) (h : Host) (fs : FileSystem) (p : Processes) :
    Processes → Except Failure Unit → Prop
  /-- The builder could not be started: nothing happens to the process that is running. -/
  | unbuilt {fs' : FileSystem} (hbuilder : Ran h fs w.directory w.builder ["build"] .unstarted fs') :
      Rebuilt w h fs p p (.error (.plain (RebuildFault.builderUnstarted.message w)))
  /-- The builder has failed: nothing happens to the process that is running. -/
  | failed {status : Nat} {lasting : Bool} {fs' : FileSystem}
      (hbuilder : Ran h fs w.directory w.builder ["build"] (.started status lasting) fs')
      (hstatus : status ≠ 0) :
      Rebuilt w h fs p p (.error (.plain ((RebuildFault.buildFailed status).message w)))
  /-- All that ran before has been stopped, and the binary could not be started. -/
  | stopped {lasting : Bool} {fs' fs'' : FileSystem} {p' : Processes}
      (hbuilder : Ran h fs w.directory w.builder ["build"] (.started 0 lasting) fs')
      (hbinary : Ran h fs' w.directory w.binary [] .unstarted fs'')
      (held : p'.held = none) (alive : p'.alive = []) :
      Rebuilt w h fs p p' (.error (.plain (RebuildFault.binaryUnstarted.message w)))
  /-- All that ran before has been stopped, and the new process is held; it is alive unless it has ended at
  once. -/
  | replaced {lasting : Bool} {fs' : FileSystem} {status : Nat} {stays : Bool} {fs'' : FileSystem}
      {p' : Processes}
      (hbuilder : Ran h fs w.directory w.builder ["build"] (.started 0 lasting) fs')
      (hbinary : Ran h fs' w.directory w.binary [] (.started status stays) fs'')
      (count : p'.count = p.count + 1) (held : p'.held = some p.count)
      (alive : p'.alive = if stays then [p.count] else []) : Rebuilt w h fs p p' (.ok ())

/-- How a build ends, from the run of the builder. -/
def outcome : Run → BuildOutcome
  | .unstarted => .unstarted
  | .started 0 _ => .succeeded
  | .started status _ => .failed status

section Runs

variable {s : DevServer} {h : Host} {fs fs' fs'' : FileSystem} {run : Run}

theorem build_of_ran
    (hbuilder : Ran h fs s.options.directory s.options.builder ["build"] run fs') :
    s.build h fs = (outcome run, fs') := by
  cases hbuilder with
  | nowhere hnone =>
      rw [build, filter_isDirectory_eq_none hnone]
      rfl
  | inside hplace hdirectory hrun =>
      rw [build, hplace, Option.filter_some_pos hdirectory]
      simp only [hrun]
      cases run with
      | unstarted => rfl
      | started status lasting => cases status <;> rfl

theorem launch_of_ran (hbinary : Ran h fs s.options.directory s.options.binary [] run fs') :
    s.launch h fs = (run, fs') := by
  cases hbinary with
  | nowhere hnone => rw [launch, filter_isDirectory_eq_none hnone]
  | inside hplace hdirectory hrun =>
      rw [launch, hplace, Option.filter_some_pos hdirectory]
      exact hrun

/-- Without a successful build nothing happens to the processes. -/
theorem rebuild_of_failed {o : BuildOutcome} (hbuild : s.build h fs = (o, fs')) (ho : o ≠ .succeeded) :
    (s.rebuild h fs).1.1.processes = (s.processes.rebuild o false).1 ∧
      (s.rebuild h fs).2 =
        (s.processes.rebuild o false).2.mapError fun fault => .plain (fault.message s.options) := by
  rw [rebuild, hbuild]
  simp only [if_neg ho, ne_eq, not_true_eq_false, decide_false, and_true]
  rfl

/-- After a successful build the processes are those behind the run of the binary. -/
theorem rebuild_of_succeeded (hbuild : s.build h fs = (.succeeded, fs'))
    (hbinary : Ran h fs' s.options.directory s.options.binary [] run fs'') :
    (s.rebuild h fs).1.1.processes =
        settle run (s.processes.rebuild .succeeded (run ≠ .unstarted)).1 ∧
      (s.rebuild h fs).2 = (s.processes.rebuild .succeeded (run ≠ .unstarted)).2.mapError
        fun fault => .plain (fault.message s.options) := by
  rw [rebuild, hbuild]
  simp only [if_true, launch_of_ran hbinary, and_self]

end Runs

theorem rebuilt {s : DevServer} (hs : s.processes.Sound) (h : Host) (fs : FileSystem) :
    Rebuilt s.options h fs s.processes (s.rebuild h fs).1.1.processes (s.rebuild h fs).2 := by
  obtain ⟨run, fs', hbuilder⟩ := exists_ran h fs s.options.directory s.options.builder ["build"]
  have hbuild := build_of_ran hbuilder
  cases run with
  | unstarted =>
      obtain ⟨hprocesses, hanswer⟩ := rebuild_of_failed hbuild (by simp [outcome])
      rw [hprocesses, hanswer]
      exact .unbuilt hbuilder
  | started status lasting =>
      cases status with
      | succ status =>
          obtain ⟨hprocesses, hanswer⟩ := rebuild_of_failed hbuild (by simp [outcome])
          rw [hprocesses, hanswer]
          exact .failed hbuilder (Nat.succ_ne_zero status)
      | zero =>
          obtain ⟨run, fs'', hbinary⟩ := exists_ran h fs' s.options.directory s.options.binary []
          obtain ⟨hprocesses, hanswer⟩ := rebuild_of_succeeded hbuild hbinary
          rw [hprocesses, hanswer]
          cases run with
          | unstarted => exact .stopped hbuilder hbinary s.processes.held_stop hs.alive_stop
          | started status stays =>
              have hcount := s.processes.count_stop
              have halive : s.processes.stop.start.alive = [s.processes.count] := by
                rw [start, hs.alive_stop, hcount]
              have hheld : s.processes.stop.start.held = some s.processes.count := by
                rw [start, hcount]
              have hnext : s.processes.stop.start.count = s.processes.count + 1 := by
                rw [start, hcount]
              cases stays with
              | true => exact .replaced hbuilder hbinary hnext hheld halive
              | false =>
                  -- the process that has just been started is the one that ends
                  refine .replaced hbuilder hbinary hnext hheld ?_
                  change s.processes.stop.start.alive.erase s.processes.stop.count = []
                  rw [halive, hcount, List.erase_cons_head]

namespace Rebuilt

variable {w : WatchOptions} {h : Host} {fs fs' : FileSystem} {p p' : Processes}
  {answer : Except Failure Unit} {lasting : Bool}

theorem sound (hrebuilt : Rebuilt w h fs p p' answer) (hp : p.Sound) : p'.Sound := by
  cases hrebuilt with
  | unbuilt => exact hp
  | failed => exact hp
  | stopped _ _ held alive => exact ⟨Or.inl alive, by simp [held]⟩
  | replaced _ _ count held alive =>
      refine ⟨?_, by simp [held, count]⟩
      split at alive
      · exact Or.inr ⟨p.count, held, alive⟩
      · exact Or.inl alive

/-- After a successful build the binary could be started and the new process is held, or it could not and
nothing is held. -/
theorem of_succeeded (hrebuilt : Rebuilt w h fs p p' answer)
    (hbuilder : Ran h fs w.directory w.builder ["build"] (.started 0 lasting) fs') :
    (p'.held = none ∧ p'.alive = [] ∧ ∃ fs'', Ran h fs' w.directory w.binary [] .unstarted fs'') ∨
      ∃ status stays fs'', Ran h fs' w.directory w.binary [] (.started status stays) fs'' ∧
        p'.held = some p.count ∧ p'.alive = if stays then [p.count] else [] := by
  cases hrebuilt with
  | unbuilt hother => cases (hbuilder.unique hother).1
  | failed hother hstatus =>
      cases (hbuilder.unique hother).1
      exact absurd rfl hstatus
  | stopped hother hbinary held alive =>
      obtain ⟨-, rfl⟩ := hbuilder.unique hother
      exact Or.inl ⟨held, alive, _, hbinary⟩
  | replaced hother hbinary _ held alive =>
      obtain ⟨-, rfl⟩ := hbuilder.unique hother
      exact Or.inr ⟨_, _, _, hbinary, held, alive⟩

/-- After a successful build the new process is held exactly when the binary could be started. -/
theorem held_iff (hrebuilt : Rebuilt w h fs p p' answer)
    (hbuilder : Ran h fs w.directory w.builder ["build"] (.started 0 lasting) fs') :
    p'.held = some p.count ↔
      ∃ status stays fs'', Ran h fs' w.directory w.binary [] (.started status stays) fs'' := by
  rcases hrebuilt.of_succeeded hbuilder with
    ⟨held, -, fs'', hnone⟩ | ⟨status, stays, fs'', hbinary, held, -⟩
  · refine iff_of_false (by simp [held]) ?_
    rintro ⟨status, stays, fs'', hbinary⟩
    cases (hnone.unique hbinary).1
  · exact iff_of_true held ⟨status, stays, fs'', hbinary⟩

end Rebuilt

theorem options_step (s : DevServer) (e : Event) : (s.step e).options = s.options := by
  cases e with
  | due h fs ticket =>
      rw [step, rebuildIfDue]
      split
      · rfl
      · rfl
  | _ => rfl

theorem options_after (w : WatchOptions) (events : List Event) : (after w events).options = w := by
  have hrun : ∀ s : DevServer, (events.foldl step s).options = s.options := by
    induction events with
    | nil => exact fun s => rfl
    | cons e events ih => exact fun s => (ih _).trans (options_step s e)
  exact hrun _

/-! ## Any sequence of events -/

theorem sound_step {s : DevServer} (hs : s.processes.Sound) (e : Event) :
    (s.step e).processes.Sound := by
  cases e with
  | rebuild h fs => exact (rebuilt hs h fs).sound hs
  | due h fs ticket =>
      rw [step, rebuildIfDue]
      split
      · exact (rebuilt hs h fs).sound hs
      · exact hs
  | schedule => exact hs
  | change path modified => exact hs
  | isRunning => exact hs
  | kill => exact hs.stop
  | exit id => exact hs.exit id

theorem sound_after (w : WatchOptions) (events : List Event) : (after w events).processes.Sound := by
  -- the server that the run starts from changes along the events
  have hrun : ∀ s : DevServer, s.processes.Sound → (events.foldl step s).processes.Sound := by
    induction events with
    | nil => exact fun s hs => hs
    | cons e events ih => exact fun s hs => ih _ (sound_step hs e)
  exact hrun _ sound_none

/-- After any sequence of events at most one process is alive, and it is the one that the server holds.
A rebuild leaves it alone unless the builder could be started and succeeds; then it is stopped, and the new
process is held exactly when the binary could be started.  After a kill nothing is alive. -/
theorem oneProcess_after (w : WatchOptions) (events : List Event) :
    (after w events).processes.Sound ∧
    ((after w events).isRunning = true ↔ (after w events).processes.alive ≠ []) ∧
    (∀ h fs, Rebuilt w h fs (after w events).processes ((after w events).rebuild h fs).1.1.processes
      ((after w events).rebuild h fs).2) ∧
    (∀ h fs lasting fs', Ran h fs w.directory w.builder ["build"] (.started 0 lasting) fs' →
      (((after w events).rebuild h fs).1.1.processes.held = some (after w events).processes.count ↔
        ∃ status stays fs'', Ran h fs' w.directory w.binary [] (.started status stays) fs'')) ∧
    (after w events).kill.processes.alive = [] ∧ (after w events).kill.processes.held = none := by
  have hsound := sound_after w events
  have hrebuilt : ∀ h fs, Rebuilt w h fs (after w events).processes
      ((after w events).rebuild h fs).1.1.processes ((after w events).rebuild h fs).2 := by
    intro h fs
    have hrebuilt := rebuilt hsound h fs
    rwa [options_after] at hrebuilt
  exact ⟨hsound, hsound.isRunning_iff, hrebuilt,
    fun h fs lasting fs' hbuilder => (hrebuilt h fs).held_iff hbuilder, hsound.alive_stop, held_stop _⟩

/-- A package with the name of its directory. -/
def siteOptions : WatchOptions :=
  { directory := "/work/site", app := "site", builder := "cargo", debounce := 300 }

/-- The directory of the package, without anything in it. -/
def siteFiles : FileSystem := { entries := [(["work"], .directory), (["work", "site"], .directory)] }

/-- The package with its binary. -/
def siteBuilt : FileSystem :=
  { siteFiles with entries := siteFiles.entries ++
      [(["work", "site", "target"], .directory), (["work", "site", "target", "debug"], .directory),
        (["work", "site", "target", "debug", "site"],
          .file { octets := .empty, executable := true, modified := .change 0 })] }

/-- A machine with a builder that leaves the binary.  Other programs are started if they are there, and keep
running. -/
def siteHost : Host where
  cwd := ["work"]
  programs := fun fs place program args =>
    if program = "cargo" ∧ args = ["build"] then (.started 0 false, siteBuilt)
    else if fs.contains place program then (.started 0 true, fs)
    else (.unstarted, fs)

/-- The second build of a package stops the process of the first one and ends with a new one. -/
theorem oneProcess_after_site :
    Ran siteHost siteFiles "/work/site" "cargo" ["build"] (.started 0 false) siteBuilt ∧
      Ran siteHost siteBuilt "/work/site" "/work/site/target/debug/site" [] (.started 0 true) siteBuilt ∧
      (after siteOptions [.rebuild siteHost siteFiles]).processes =
        { count := 1, alive := [0], held := some 0 } ∧
      ((after siteOptions [.rebuild siteHost siteFiles]).rebuild siteHost siteFiles).1.1.processes.held =
        some 1 ∧
      ((after siteOptions [.rebuild siteHost siteFiles]).rebuild siteHost siteFiles).1.1.processes.alive =
        [1] := by
  have hsite : siteFiles.locate? siteHost.cwd "/work/site" = some ["work", "site"] := by
    decide +kernel
  have hbuilt : siteBuilt.locate? siteHost.cwd "/work/site" = some ["work", "site"] := by
    decide +kernel
  have hbuilder : Ran siteHost siteFiles "/work/site" "cargo" ["build"] (.started 0 false) siteBuilt :=
    .inside hsite (by decide +kernel) rfl
  have hbinary : Ran siteHost siteBuilt "/work/site" "/work/site/target/debug/site" []
      (.started 0 true) siteBuilt :=
    .inside hbuilt (by decide +kernel) rfl
  have hpath : siteOptions.binary = "/work/site/target/debug/site" := by decide +kernel
  have hfirst : (after siteOptions [.rebuild siteHost siteFiles]).processes =
      { count := 1, alive := [0], held := some 0 } := by
    decide +kernel
  obtain ⟨-, -, hrebuilt, hheld, -⟩ := oneProcess_after siteOptions [.rebuild siteHost siteFiles]
  specialize hrebuilt siteHost siteFiles
  specialize hheld siteHost siteFiles false siteBuilt hbuilder
  rw [hfirst] at hrebuilt hheld
  rw [hpath] at hheld
  refine ⟨hbuilder, hbinary, hfirst, hheld.mpr ⟨_, _, _, hbinary⟩, ?_⟩
  rcases hrebuilt.of_succeeded hbuilder with ⟨-, -, fs, hnone⟩ | ⟨status, stays, fs, hsome, -, alive⟩
  · rw [hpath] at hnone
    cases (hbinary.unique hnone).1
  · rw [hpath] at hsome
    cases (hbinary.unique hsome).1
    exact alive

end DevServer

end RouteWorks
