import RouteWorks.Field.Basic
import RouteWorks.Spec.Method

/-!
# Manifests

A manifest describes a whole project: the entry module, the routers with their routes in order, and
the apps that start them. Directories are relative to the manifest.
-/

namespace RouteWorks

/-- The declaration of a handler. -/
structure HandlerEntry where
  name : String
  dir : Option String := none
  path : String
  methods : List Method := []
  note : String := ""
  returns : String := ""
  body : Option String := none
  fields : Option (List Field) := none
  deriving DecidableEq, Repr, Inhabited

/-- The declaration of a middleware. -/
structure MiddlewareEntry where
  name : String
  dir : Option String := none
  path : String
  body : Option String := none
  deriving DecidableEq, Repr, Inhabited

/-- The declaration of a mount. -/
structure MountEntry where
  name : String
  path : String
  root : String
  noCompress : Bool := false
  noCache : Bool := false
  deriving DecidableEq, Repr, Inhabited

/-- A route: it should declare one thing. -/
structure RouteEntry where
  handler : Option HandlerEntry := none
  middleware : Option MiddlewareEntry := none
  mount : Option MountEntry := none
  deriving DecidableEq, Repr, Inhabited

/-- The one thing that a route declares. -/
inductive RouteKind where
  | handler (h : HandlerEntry)
  | middleware (m : MiddlewareEntry)
  | mount (m : MountEntry)
  deriving DecidableEq, Repr, Inhabited

/-- What a route declares. -/
def RouteEntry.kind (r : RouteEntry) : Except Fault RouteKind :=
  match (r.handler.map RouteKind.handler).toList ++ (r.middleware.map RouteKind.middleware).toList
    ++ (r.mount.map RouteKind.mount).toList with
  | [] => .error (.absent .route)
  | [k] => .ok k
  | _ => .error .ambiguousRoute

/-- The declaration of a router; a route can be left open. -/
structure RouterEntry where
  name : String
  dir : Option String := none
  routes : List (Option RouteEntry) := []
  deriving DecidableEq, Repr, Inhabited

/-- The declaration of an app. -/
structure FrameEntry where
  name : String
  version : String := ""
  router : Option String := none
  deriving DecidableEq, Repr, Inhabited

/-- A manifest. -/
structure Manifest where
  entry : String := "src"
  routers : List RouterEntry := []
  frames : List FrameEntry := []
  deriving DecidableEq, Repr, Inhabited

/-- The notations of manifests. -/
inductive ManifestFormat where
  | yaml | json | toml
  deriving DecidableEq, Repr, Inhabited

namespace ManifestFormat

/-- The name of a notation. -/
def label : ManifestFormat → String
  | yaml => "YAML"
  | json => "JSON"
  | toml => "TOML"

/-- The notation with an extension of file names, in any case. -/
def ofExtension? (ext : String) : Option ManifestFormat :=
  match Text.asciiLower ext with
  | "yaml" | "yml" => some yaml
  | "json" => some json
  | "toml" => some toml
  | _ => none

end ManifestFormat

end RouteWorks
