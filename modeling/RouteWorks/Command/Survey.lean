import RouteWorks.Command.Execute

/-!
# What a command line looks at

A command line can be run on a part of a file system. The part has to hold the places that the
command reads and those that it changes. The places that it changes show when it is run; once they
are all known, what it leaves behind is what it would leave behind in the whole.
-/

namespace RouteWorks

/-- The places that the parts of a path lead to, one after another. -/
def FileSystem.placesAlong (p : Place) : List String → List Place
  | [] => []
  | part :: parts =>
    if part = "." ∨ part = "" then placesAlong p parts
    else if part = ".." then placesAlong (above p) parts
    else (p ++ [part]) :: placesAlong (p ++ [part]) parts

namespace Command

/-- The paths that matter for the package in a directory. -/
def packagePaths (dir : String) : List String :=
  [FilePath.append dir "Cargo.toml", FilePath.append dir "src"]

/-- The paths that a command reads. -/
def reads (c : Command) : List String :=
  FilePath.append c.settingsDirectory SettingsFile.name ::
    match c with
    | generate manifest .. | tree manifest => [manifest]
    | new dir .. => packagePaths dir
    | run dir => packagePaths (dir.getD ".")

/-- The directory in which a command looks for anything at all. -/
def lists? : Command → Option String
  | new dir .. => some dir
  | _ => none

end Command

/-- A part of a file system. -/
structure Survey where
  fs : FileSystem := {}
  /-- The places that are known, whether there is something or not. -/
  known : List Place := []

namespace Survey

/-- Adds what is at a place. -/
def add (s : Survey) (p : Place) (e : Option Entry) : Survey :=
  { fs := match e with
      | some e => { s.fs with entries := (p, e) :: s.fs.entries }
      | none => s.fs
    known := p :: s.known }

/-- The places of a file system that are not known. -/
def unknown (s : Survey) (fs : FileSystem) : List Place :=
  (fs.entries.map (·.1)).filter fun p => !s.known.contains p

/-- What is new in a file system, in the order in which it came there. -/
def changes (s : Survey) (fs : FileSystem) : List (Place × Entry) :=
  fs.entries.reverse.filter fun (p, e) =>
    match e, s.fs.get? p with
    | .directory, some .directory => false
    | .file new, some (.file old) => decide (new.modified ≠ old.modified)
    | _, _ => true

end Survey

end RouteWorks
