import RouteWorks.Command.Help
import RouteWorks.Command.Line
import RouteWorks.Develop.Package
import RouteWorks.Develop.Server
import RouteWorks.Manifest.Load

/-!
# Running commands

A command reads its settings, does its work and ends with a status. What it prints on its way stays
printed when it fails, and the failure is told from the outermost circumstance inwards.
-/

namespace RouteWorks

/-- How a command ends. -/
structure CommandResult where
  /-- The status it ends with. -/
  code : Nat
  /-- What it has printed. -/
  output : String := ""
  /-- What it says about a failure. -/
  errors : List String := []
  deriving DecidableEq, Repr, Inhabited

/-- The name of the program. -/
def programName : String := "routeforge"

/-- The name and the version of the program. -/
def versionLine : String := programName ++ " 0.1.0-alpha.1\n"

/-- The help page of a command, or of the program as a whole. -/
def helpPage (command : Option String) (isFull : Bool) : String :=
  (CommandLine.usageOf command).help (Text.join " " (programName :: command.toList)) isFull

/-- What is told about a failure, a line for each circumstance. -/
def Failure.report (f : Failure) : List String :=
  match f.texts with
  | [] => []
  | first :: causes => ("Error: " ++ first) :: causes.map ("  caused by: " ++ ·)

namespace Command

/-- The line that `generate` ends with. -/
def generatedLine (r : Report) : String :=
  "✅ " ++ toString r.written.length ++ " files written, " ++ toString r.skipped.length ++ " kept\n"

/-- The trees of frames, up to the first that has none. -/
def trees : List Frame → String × Except Failure Unit
  | [] => ("", .ok ())
  | f :: frames =>
    match f.router.tree with
    | .error fault => ("", .error (.fault fault))
    | .ok forest =>
      let (text, result) := trees frames
      (f.name ++ " (" ++ f.router.name.canonical ++ ")\n" ++ RouteNode.displayText forest ++ text,
        result)

/-- The name of the app that is created in a directory. -/
def appName (dir : String) : Except Failure String :=
  match (FilePath.fileName? dir).filter fun name => !Text.isBlankText name with
  | some name => .ok name
  | none => .error (.plain ("Invalid app name: " ++ dir))

/-- Runs the package in a directory. -/
def runPackage (h : Host) (s : Settings) (dir : String) (fs : FileSystem) :
    FileSystem × Except Failure Unit :=
  match WatchOptions.ofPackage fs h.cwd dir s with
  | .error failure => (fs, .error failure)
  | .ok w => w.run h fs

/-- Runs a command: what it prints, what it leaves behind, and whether it fails. -/
def execute (h : Host) (s : Settings) (fs : FileSystem) :
    Command → String × FileSystem × Except Failure Unit
  | .generate manifest force noFormat =>
    let o := { s.options with force, format := !noFormat }
    match o.generateManifest h manifest fs with
    | .ok report fs => (generatedLine report, fs, .ok ())
    | .error failure fs => ("", fs, .error failure)
  | .tree manifest =>
    match Manifest.load fs h.cwd manifest with
    | .error failure => ("", fs, .error failure)
    | .ok p =>
      let (text, result) := trees p.frames
      (text, fs, result)
  | .new dir _ force noRun =>
    match appName dir with
    | .error failure => ("", fs, .error failure)
    | .ok app =>
      match ({ s.options with force }).createProject h dir app fs with
      | .error failure fs => ("", fs, .error failure)
      | .ok _ fs => if noRun then ("", fs, .ok ()) else ("", runPackage h s dir fs)
  | .run dir => ("", runPackage h s (dir.getD ".") fs)

end Command

/-- Runs a command line with the variables of the environment. -/
def CommandLine.execute (c : CommandLine) (h : Host) (bundled : String)
    (env : String → Option String) (fs : FileSystem) : CommandResult × FileSystem :=
  match Settings.load fs h.cwd c.command.settingsDirectory bundled env with
  | .error failure => ({ code := 1, errors := failure.report }, fs)
  | .ok s =>
    match c.command.execute h s fs with
    | (output, fs, .ok ()) => ({ code := 0, output }, fs)
    | (output, fs, .error failure) => ({ code := 1, output, errors := failure.report }, fs)

/-- Runs the program with arguments. -/
def runArguments (h : Host) (bundled : String) (env : String → Option String)
    (args : List String) (fs : FileSystem) : CommandResult × FileSystem :=
  match CommandLine.ofArguments args with
  | .ok c => c.execute h bundled env fs
  | .error .version => ({ code := 0, output := versionLine }, fs)
  | .error (.help command isFull) => ({ code := 0, output := helpPage command isFull }, fs)
  | .error _ => ({ code := 2 }, fs)

end RouteWorks
