import RouteWorks.Router
import RouteWorks.Source.Modules

/-!
# Projects

A project has an entry module and frames. A frame is an app: a router under a name and a version.
-/

namespace RouteWorks

/-- An app. -/
structure Frame where
  name : String
  version : String
  router : Router
  deriving DecidableEq, Repr, Inhabited

/-- An entry module and the apps it starts. -/
structure Project where
  entry : Location
  frames : List Frame := []
  deriving DecidableEq, Repr, Inhabited

namespace Project

/-- Adds an app at the end. -/
def addFrame (p : Project) (router : Router) (name version : String) : Except Fault Project :=
  let name := Text.trim name
  if name = "" then .error .emptyFrameName
  else .ok { p with frames := p.frames ++ [{ name, version := Text.trim version, router }] }

/-- How the entry module names the router of a frame. -/
def routerReference (p : Project) (f : Frame) : Except Fault ModuleReference :=
  ModuleReference.resolve f.router.location p.entry (some p.entry)

/-- The files that a router generates: where each is and what module it is. -/
def routerModules (r : Router) : List (Location × String) :=
  (r.location, r.functionName) :: r.specs.filterMap fun
    | .handler h => some (h.location, h.name.snake)
    | .middleware m => some (m.location, m.name.snake)
    | .mount _ => none

/-- The modules of all generated files. -/
def modules (p : Project) : Except Fault ModuleTree :=
  (p.frames.flatMap fun f => routerModules f.router).foldlM
    (fun t (location, file) => t.insert p.entry location file) {}

end Project

end RouteWorks
