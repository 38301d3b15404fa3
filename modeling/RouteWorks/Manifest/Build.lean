import RouteWorks.Failure
import RouteWorks.Manifest.Basic
import RouteWorks.Project

/-!
# From manifests to projects

Every route of a manifest is registered with its router, and every app is attached to the router it
names. Names of routers are compared without the blanks around them.
-/

namespace RouteWorks

/-- A directory relative to the manifest, or the directory that stands in for it. -/
def directoryOr (base : String) (dir : Option String) (default : Location) : Location :=
  (dir.map (Location.resolve base)).getD default

/-- Registers what a route declares. -/
def Router.addEntry (base : String) (r : Router) : Option RouteEntry → Except Fault Router
  | none => .error (.absent .route)
  | some entry => do
    match ← entry.kind with
    | .handler h =>
      let location := directoryOr base h.dir r.location
      let spec ← match h.fields with
        | some fields => Handler.record h.name h.path h.methods location fields
        | none => Handler.function h.name h.path h.methods location
      let spec := (spec.withNote h.note).withReturns h.returns
      r.addHandler ((h.body.map spec.withBody).getD spec)
    | .middleware m =>
      let spec ← Middleware.declare m.name m.path (directoryOr base m.dir r.location)
      r.addMiddleware ((m.body.map spec.withBody).getD spec)
    | .mount m =>
      let spec ← Mount.declare m.name m.path m.root
      r.addMount { spec with noCompress := m.noCompress, noCache := m.noCache }

/-- The router that an entry declares. -/
def RouterEntry.build (base : String) (entry : Location) (e : RouterEntry) :
    Except Fault Router := do
  let r ← Router.declare e.name (directoryOr base e.dir entry)
  e.routes.foldlM (Router.addEntry base) r

namespace Manifest

/-- The routers of a manifest by name. -/
def buildRouters (base : String) (entry : Location) (entries : List RouterEntry) :
    Except Failure (List (String × Router)) :=
  entries.foldlM
    (fun routers e => do
      let r ← Failure.within ("router " ++ Text.quote e.name)
        (Failure.ofFault (e.build base entry))
      let name := Text.trim e.name
      if routers.any (·.1 = name) then
        throw (.plain ("duplicate router name " ++ Text.quote e.name))
      return routers ++ [(name, r)])
    []

/-- Attaches an app to the router it names. -/
def addFrame (routers : List (String × Router)) (p : Project) (f : FrameEntry) :
    Except Failure Project :=
  match f.router.bind fun name => routers.lookup (Text.trim name) with
  | none => .error (.during ("frame " ++ Text.quote f.name) (.fault (.absent .router)))
  | some r => Failure.ofFault (p.addFrame r f.name f.version)

/-- The project that a manifest in the directory `base` describes. -/
def build (base : String) (m : Manifest) : Except Failure Project := do
  let entry := Location.resolve base m.entry
  let routers ← buildRouters base entry m.routers
  m.frames.foldlM (addFrame routers) { entry }

end Manifest

end RouteWorks
