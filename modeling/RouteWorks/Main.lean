import RouteWorks.Command.Survey

/-!
# The program

The program looks at the places of the machine that its command line is about, runs the command
line on what it has seen, carries out the changes and prints what there is to print. It starts no
other programs.
-/

namespace RouteWorks

namespace Machine

/-- A place as a path of the machine. -/
def pathOf (p : Place) : String := "/" ++ Text.join "/" p

/-- What is at a place of the machine. What cannot be read counts as absent. -/
def entry? (p : Place) : IO (Option Entry) := do
  let path := (← IO.currentDir) / pathOf p
  if ← path.isDir then return some .directory
  match ← (IO.FS.readBinFile path).toBaseIO with
  | .ok octets => return some (.file { octets, modified := .time 0 })
  | .error _ => return none

/-- The names in a directory of the machine. -/
def names (p : Place) : IO (List String) := do
  match ← ((← IO.currentDir) / pathOf p).readDir.toBaseIO with
  | .ok entries => return entries.toList.map (·.fileName)
  | .error _ => return []

/-- Looks at places that are not known. -/
def look (s : Survey) (places : List Place) : IO Survey :=
  places.foldlM (fun s p => do
    if s.known.contains p then return s else return s.add p (← entry? p)) s

/-- Looks at places, and then at those that a run changes, until they are all known. -/
def survey (run : FileSystem → FileSystem) : Nat → Survey → List Place → IO Survey
  | 0, s, _ => return s
  | n + 1, s, places => do
    let s ← look s places
    match s.unknown (run s.fs) with
    | [] => return s
    | more => survey run n s (more.flatMap fun p => FileSystem.placesAlong [] p)

/-- Puts something at a place of the machine. -/
def put (p : Place) : Entry → IO Unit
  | .directory => IO.FS.createDir (pathOf p)
  | .file data => IO.FS.writeBinFile (pathOf p) data.octets

/-- The variables of the environment that settings are taken from. -/
def environment : IO (String → Option String) := do
  let values ← Settings.variableNames.mapM fun name => return (name, ← IO.getEnv name)
  return fun name => (values.lookup name).join

/-- Runs the program with arguments. -/
def run (args : List String) : IO CommandResult := do
  let cwd := (FileSystem.placesAlong [] (FileSystem.parts (← IO.currentDir).toString)).getLastD []
  let host : Host := { cwd }
  let bundled := ((← IO.appDir) / "runtime").toString
  let env ← environment
  let run := runArguments host bundled env args
  let along (path : String) :=
    FileSystem.placesAlong (FileSystem.origin cwd path) (FileSystem.parts path)
  let .ok line := CommandLine.ofArguments args | return (run {}).1
  let listed ← match line.command.lists? with
    | none => pure []
    | some dir =>
      let p := (along dir).getLastD cwd
      pure ((← names p).map fun name => p ++ [name])
  let places := FileSystem.placesAlong [] cwd ++ (line.command.reads.flatMap along) ++ listed
  let s ← survey (fun fs => (run fs).2) 64 {} places
  let (result, fs) := run s.fs
  (s.changes fs).forM fun (p, e) => put p e
  return result

end Machine

end RouteWorks

/-- The program: what it prints goes to the standard output, what it says about a failure to the
standard error, and it ends with the status of its command line. -/
def main (args : List String) : IO UInt32 := do
  let result ← RouteWorks.Machine.run args
  IO.print result.output
  result.errors.forM IO.eprintln
  return result.code.toUInt32
