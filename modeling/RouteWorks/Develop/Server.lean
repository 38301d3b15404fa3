import RouteWorks.Develop.Watch
import RouteWorks.Failure
import RouteWorks.Program.Basic

/-!
# Development servers

A development server builds a package and keeps one process of it running. A build that succeeds
replaces the process, a build that fails leaves it alone. Changes of sources ask for a build; of
several that follow one another only the last one gets it.
-/

namespace RouteWorks

/-- The processes that a server has started. They are numbered in the order of their start. -/
structure Processes where
  /-- How many were started. -/
  count : Nat := 0
  /-- Those that have not ended. -/
  alive : List Nat := []
  /-- The one that the server holds. -/
  held : Option Nat := none
  deriving DecidableEq, Repr, Inhabited

/-- How a build ends. -/
inductive BuildOutcome where
  /-- The builder could not be started. -/
  | unstarted
  | failed (status : Nat)
  | succeeded
  deriving DecidableEq, Repr, Inhabited

/-- Why a server could not be built and started again. -/
inductive RebuildFault where
  | builderUnstarted
  | buildFailed (status : Nat)
  | binaryUnstarted
  deriving DecidableEq, Repr, Inhabited

namespace Processes

/-- A process ends. -/
def exit (p : Processes) (id : Nat) : Processes := { p with alive := p.alive.erase id }

/-- Stops the process that is held, if one is. -/
def stop (p : Processes) : Processes :=
  match p.held with
  | none => p
  | some id => { p.exit id with held := none }

/-- Starts a process and holds it. -/
def start (p : Processes) : Processes :=
  { count := p.count + 1, alive := p.count :: p.alive, held := some p.count }

/-- Whether the process that is held has not ended. -/
def isRunning (p : Processes) : Bool := (p.held.map p.alive.contains).getD false

/-- Builds, and when that succeeds stops the process and starts the binary, which can be started or
not. -/
def rebuild (p : Processes) (build : BuildOutcome) (starts : Bool) :
    Processes × Except RebuildFault Unit :=
  match build with
  | .unstarted => (p, .error .builderUnstarted)
  | .failed status => (p, .error (.buildFailed status))
  | .succeeded => if starts then (p.stop.start, .ok ()) else (p.stop, .error .binaryUnstarted)

end Processes

/-- A development server. -/
structure DevServer where
  options : WatchOptions
  /-- When files were changed as far as the server knows; `none` for a file that was not there. -/
  noted : List (String × Option Stamp) := []
  /-- The number of the last request for a build. -/
  ticket : Nat := 0
  processes : Processes := {}
  deriving Repr

/-- The wording of the fault. -/
def RebuildFault.message (w : WatchOptions) : RebuildFault → String
  | builderUnstarted => "Failed to run " ++ w.builder
  | buildFailed status =>
    "build of " ++ w.app ++ " failed with exit status: " ++ toString status
  | binaryUnstarted => "Failed to start " ++ w.binary

/-- When a file was changed; none for what is not there. A directory counts as never changed. -/
def FileSystem.modified? (fs : FileSystem) (cwd : Place) (path : String) : Option Stamp :=
  (fs.find? cwd path).map fun
    | .file data => data.modified
    | .directory => .time 0

namespace DevServer

/-- Notes when a file was changed, and says whether that is news. For a file that is not there it
always is. -/
def noteChange (s : DevServer) (path : String) (modified : Option Stamp) : DevServer × Bool :=
  ({ s with noted := (path, modified) :: s.noted.filter (·.1 ≠ path) },
    modified.isNone || s.noted.lookup path != some modified)

/-- Asks for a build. The result is the number of the request. -/
def schedule (s : DevServer) : DevServer × Nat :=
  ({ s with ticket := s.ticket + 1 }, s.ticket + 1)

/-- Whether a request for a build is still the last one when its time has come. -/
def isDue (s : DevServer) (ticket : Nat) : Bool := s.ticket = ticket

/-- Runs the builder in the directory of the package. -/
def build (s : DevServer) (h : Host) (fs : FileSystem) : BuildOutcome × FileSystem :=
  match (fs.locate? h.cwd s.options.directory).filter fs.isDirectory with
  | none => (.unstarted, fs)
  | some dir =>
    match h.programs fs dir s.options.builder ["build"] with
    | (.unstarted, fs) => (.unstarted, fs)
    | (.started 0 _, fs) => (.succeeded, fs)
    | (.started status _, fs) => (.failed status, fs)

/-- Runs the binary in the directory of the package. -/
def launch (s : DevServer) (h : Host) (fs : FileSystem) : Run × FileSystem :=
  match (fs.locate? h.cwd s.options.directory).filter fs.isDirectory with
  | none => (.unstarted, fs)
  | some dir => h.programs fs dir s.options.binary []

/-- Processes after the one that was started last has run: it is still there when it takes its
time. -/
def settle (run : Run) (p : Processes) : Processes :=
  match run, p.held with
  | .started _ false, some id => p.exit id
  | _, _ => p

/-- Builds the package, and starts its binary in place of the process that is running when the
build succeeds. -/
def rebuild (s : DevServer) (h : Host) (fs : FileSystem) :
    (DevServer × FileSystem) × Except Failure Unit :=
  let (outcome, fs) := s.build h fs
  let (run, fs) := if outcome = .succeeded then s.launch h fs else (.unstarted, fs)
  let (processes, result) := s.processes.rebuild outcome (run ≠ .unstarted)
  (({ s with processes := settle run processes }, fs),
    result.mapError fun fault => .plain (fault.message s.options))

/-- Builds the package if a request for it is still the last one. What fails then is not
reported. -/
def rebuildIfDue (s : DevServer) (h : Host) (fs : FileSystem) (ticket : Nat) :
    DevServer × FileSystem :=
  if s.isDue ticket then (s.rebuild h fs).1 else (s, fs)

/-- Stops the process that is running. -/
def kill (s : DevServer) : DevServer := { s with processes := s.processes.stop }

/-- Whether the process is running. -/
def isRunning (s : DevServer) : Bool := s.processes.isRunning

end DevServer

/-- Builds a package, starts it and watches its sources. A first build that fails does not matter,
but the sources have to be there. -/
def WatchOptions.run (w : WatchOptions) (h : Host) (fs : FileSystem) :
    FileSystem × Except Failure Unit :=
  let ((_, fs), _) := DevServer.rebuild { options := w } h fs
  if fs.contains h.cwd w.sources then (fs, .ok ())
  else (fs, .error (.plain ("Failed to watch " ++ w.sources)))

end RouteWorks
