import RouteWorks.Source.Location
import RouteWorks.Text.Ordered

/-!
# The tree of modules

Every generated file is a module. The entry module declares its files and its directories; every
other directory has a file of its own that does the same for what is in it.
-/

namespace RouteWorks

/-- The modules of one directory, both lists ascending. -/
structure ModuleDir where
  files : List String := []
  subdirs : List String := []
  deriving DecidableEq, Repr, Inhabited

/-- The lines that declare the modules of a directory, its directories first. The items of files
are exported as well. A directory with the name of a file is declared once. -/
def ModuleDir.declarations (d : ModuleDir) (visibility : String) : List String :=
  ((d.subdirs.filter fun s => !d.files.contains s).map fun s => visibility ++ "mod " ++ s ++ ";")
    ++ d.files.flatMap fun f => ["mod " ++ f ++ ";", "pub use " ++ f ++ "::*;"]

/-- The directories below the entry module by path, in ascending order. -/
structure ModuleTree where
  dirs : List (List String × ModuleDir) := []
  deriving DecidableEq, Repr, Inhabited

namespace ModuleTree

/-- The path of a location in the tree: none for the entry module. -/
def path? (entry location : Location) : Except Fault (List String) :=
  if location = entry then .ok []
  else match location.properModules? with
    | some modules => .ok modules
    | none => .error (.unresolvableModule location.text)

/-- Enters a file into a directory, and every directory on the way into the one above it. -/
def enter (above below : List String) (file : String) (t : ModuleTree) : ModuleTree :=
  match below with
  | [] =>
    ⟨Ordered.update above {} (fun d => { d with files := Ordered.insert file d.files }) t.dirs⟩
  | dir :: rest =>
    enter (above ++ [dir]) rest file
      ⟨Ordered.update above {} (fun d => { d with subdirs := Ordered.insert dir d.subdirs }) t.dirs⟩

/-- Enters the file of a module at a location. -/
def insert (t : ModuleTree) (entry location : Location) (file : String) :
    Except Fault ModuleTree := do
  return enter [] (← path? entry location) file t

/-- The declarations of the entry module. -/
def rootDeclarations (t : ModuleTree) : List String :=
  ((t.dirs.lookup []).map (·.declarations "")).getD []

/-- The directories other than the entry module, each with the path of its file. -/
def moduleFiles (t : ModuleTree) : List (String × ModuleDir) :=
  (t.dirs.filter fun (path, _) => !path.isEmpty).map fun (path, d) =>
    (Text.join "/" (path ++ ["mod.rs"]), d)

end ModuleTree

end RouteWorks
