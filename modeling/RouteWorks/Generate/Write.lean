import RouteWorks.Failure
import RouteWorks.Generate.Scaffold
import RouteWorks.Program.Basic
import RouteWorks.Settings.Basic

/-!
# Writing plans

A plan is written file by file. Files that belong to the user are kept when they are there already,
unless told otherwise. Everything is planned before the first file is written, so that a fault in a
declaration changes nothing.
-/

namespace RouteWorks

/-- What has been done to the files of a plan, in the order of the plan. -/
structure Report where
  written : List String := []
  skipped : List String := []
  deriving DecidableEq, Repr, Inhabited

/-- A step that changes the file system and can fail. Changes before a failure stay. -/
abbrev Action := EStateM Failure FileSystem

namespace PlannedFile

/-- Whether a file is kept as it is. -/
def isKept (f : PlannedFile) (cwd : Place) (force : Bool) (fs : FileSystem) : Bool :=
  f.mode = .keep && fs.contains cwd f.path && !force

/-- Writes a file with the directories above it. The result says whether it was written and not
kept. -/
def write (f : PlannedFile) (cwd : Place) (force : Bool) : Action Bool := fun fs =>
  if f.isKept cwd force fs then .ok false fs
  else
    let dir := (FilePath.parent? f.path).getD ""
    match fs.createDirectory cwd dir with
    | (fs, false) => .error (.plain ("Failed to create directory " ++ dir)) fs
    | (fs, true) =>
      match fs.write? cwd f.path f.contents.toUTF8 with
      | some fs => .ok true fs
      | none => .error (.plain ("Failed to write " ++ f.path)) fs

/-- Writes files one after another. -/
def writeAll (cwd : Place) (force : Bool) : List PlannedFile → Action Report
  | [] => pure {}
  | f :: files => do
    let isWritten ← f.write cwd force
    let report ← writeAll cwd force files
    return if isWritten then { report with written := f.path :: report.written }
      else { report with skipped := f.path :: report.skipped }

end PlannedFile

/-- Runs the formatter on the sources among some files. -/
def formatFiles (h : Host) (formatter : String) (files : List String) : Action Unit := fun fs =>
  match files.filter fun f => FilePath.extension? f = some "rs" with
  | [] => .ok () fs
  | sources =>
    match h.programs fs h.cwd formatter ("--edition" :: "2021" :: sources) with
    | (.unstarted, fs) => .error (.plain ("Failed to run " ++ formatter)) fs
    | (.started 0 _, fs) => .ok () fs
    | (.started status _, fs) =>
      .error (.plain (formatter ++ " failed with exit status: " ++ toString status)) fs

namespace GenerateOptions

/-- Writes a plan, and formats what was written if asked to. -/
def writePlan (o : GenerateOptions) (h : Host) (plan : List PlannedFile) : Action Report := do
  let report ← PlannedFile.writeAll h.cwd o.force plan
  if o.format then formatFiles h o.formatter report.written
  return report

/-- A plan that was made, or the failure to make it. -/
def planned (context : String) (plan : Except Fault (List PlannedFile)) :
    Action (List PlannedFile) := fun fs =>
  match plan with
  | .ok files => .ok files fs
  | .error fault => .error (.during context (.fault fault)) fs

/-- Generates a project. -/
def generateProject (o : GenerateOptions) (h : Host) (p : Project) : Action Report := do
  let plan ← planned ("Failed to render project at " ++ p.entry.text)
    (Plan.ofProject p o.runtimeCrate)
  o.writePlan h plan

/-- Generates the files of one router. -/
def generateRouter (o : GenerateOptions) (h : Host) (r : Router) (entry : Option Location) :
    Action Report := do
  let plan ← planned ("Failed to render router " ++ r.name.canonical)
    (Plan.ofRouter r entry o.runtimeCrate)
  o.writePlan h plan

/-- Refuses a directory that is no directory, or that has something in it. -/
def checkVacant (o : GenerateOptions) (cwd : Place) (dir : String) : Action Unit := fun fs =>
  if !fs.contains cwd dir then .ok () fs
  else match fs.names? cwd dir with
    | none => .error (.plain ("Failed to read " ++ dir)) fs
    | some names =>
      if names.isEmpty || o.force then .ok () fs
      else .error
        (.plain (dir ++ " already exists and is not empty (use --force to overwrite)")) fs

/-- Creates a project in a directory. -/
def createProject (o : GenerateOptions) (h : Host) (dir app : String) : Action Report := do
  o.checkVacant h.cwd dir
  match Scaffold.project h.directory dir app Scaffold.version with
  | .error fault => throw (.fault fault)
  | .ok p =>
    let report ← o.generateProject h p
    let support ← PlannedFile.writeAll h.cwd o.force
      (Scaffold.supportFiles dir app o.runtimeCrate o.runtimePath)
    return { report with written := report.written ++ support.written }

end GenerateOptions

end RouteWorks
