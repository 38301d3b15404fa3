import RouteWorks.Generate.Template

/-!
# Plans

A plan is the list of files that a project generates, with their contents. It is made as a whole
before anything is written, so a fault anywhere leaves nothing behind.
-/

namespace RouteWorks

/-- What happens to a file that is already there. -/
inductive WriteMode where
  /-- It is replaced. -/
  | always
  /-- It is kept. -/
  | keep
  deriving DecidableEq, Repr, Inhabited

/-- A file to be written. -/
structure PlannedFile where
  path : String
  contents : String
  mode : WriteMode
  deriving DecidableEq, Repr, Inhabited

/-- The file of a router. -/
def Router.create (r : Router) (entry : Option Location) (runtime : String) :
    Except Fault String := do
  return Template.router r.name (← r.chain entry runtime)

/-- How the entry module calls the router of a frame. -/
def Project.frameCall (p : Project) (f : Frame) : Except Fault Template.FrameCall := do
  let reference ← p.routerReference f
  let function := f.router.functionName
  return {
    name := f.name
    version := f.version
    function := match reference.import? with
      | some path => path ++ "::" ++ function
      | none => function }

/-- The file of the entry module. -/
def Project.createMain (p : Project) (runtime : String) : Except Fault String := do
  let modules ← p.modules
  let calls ← p.frames.mapM p.frameCall
  return Template.entry runtime modules.rootDeclarations calls

namespace Plan

/-- The path of the file of a module. -/
def sourceFile (location : Location) (module : String) : String :=
  location.file (module ++ ".rs")

/-- The file that a spec generates, if it does. -/
def specFile (runtime : String) : Spec → Except Fault (Option PlannedFile)
  | .handler h => do
    return some {
      path := sourceFile h.location h.name.snake
      contents := ← Template.handler h runtime
      mode := .keep }
  | .middleware m => .ok (some {
      path := sourceFile m.location m.name.snake
      contents := Template.middleware m
      mode := .keep })
  | .mount _ => .ok none

/-- The files of a router: its own, and those of its handlers and middleware. -/
def ofRouter (r : Router) (entry : Option Location) (runtime : String) :
    Except Fault (List PlannedFile) := do
  let own : PlannedFile := {
    path := sourceFile r.location r.functionName
    contents := ← r.create entry runtime
    mode := .always }
  let files ← r.specs.mapM (specFile runtime)
  return own :: files.filterMap id

/-- The files of the modules of a project. -/
def moduleFiles (p : Project) (modules : ModuleTree) : List PlannedFile :=
  modules.moduleFiles.map fun (path, d) =>
    { path := p.entry.file path
      contents := Template.moduleFile (d.declarations "pub ")
      mode := .always }

/-- The files with each path once, the first of several with the same path. -/
def firstOfEach (files : List PlannedFile) : List PlannedFile :=
  go [] files
where
  /-- Keeps the files whose path is not in `seen`. -/
  go (seen : List String) : List PlannedFile → List PlannedFile
    | [] => []
    | f :: fs => if seen.contains f.path then go seen fs else f :: go (f.path :: seen) fs

/-- The files of a project. -/
def ofProject (p : Project) (runtime : String) : Except Fault (List PlannedFile) := do
  let main : PlannedFile := {
    path := p.entry.file "main.rs"
    contents := ← p.createMain runtime
    mode := .always }
  let modules ← p.modules
  let files ← p.frames.mapM fun f => ofRouter f.router (some p.entry) runtime
  return firstOfEach (main :: moduleFiles p modules ++ files.flatten)

end Plan

end RouteWorks
