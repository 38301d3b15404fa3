import RouteWorks.Manifest.Basic

/-!
# Reading manifests

The records of a manifest, read from the nodes of any format. Members that a record does not have
are refused.
-/

namespace RouteWorks

variable {ν : Type}

/-- Methods in a document: one text, or a list of texts. -/
def readMethods (s : Source ν) (n : ν) : Option (List Method) := do
  let tokens ← match s.onlyText? n with
    | some t => some [t]
    | none => (s.onlyItems? n).bind fun items => items.mapM s.onlyText?
  (Method.readTokens tokens).toOption

/-- Reads the declaration of a handler. -/
def HandlerEntry.read (s : Source ν) (n : ν) : Option HandlerEntry := do
  match ← s.slots ["name", "dir", "path", "methods", "note", "returns", "serve", "fields"] n with
  | [name, dir, path, methods, note, returns, body, fields] =>
    return {
      name := ← Source.required s.text? name
      dir := ← s.nullable s.text? dir
      path := ← Source.required s.text? path
      methods := ← Source.withDefault [] (readMethods s) methods
      note := ← Source.withDefault "" s.text? note
      returns := ← Source.withDefault "" s.text? returns
      body := ← s.nullable s.text? body
      fields := ← s.nullable (s.list (Field.read s)) fields }
  | _ => none

/-- Reads the declaration of a middleware. -/
def MiddlewareEntry.read (s : Source ν) (n : ν) : Option MiddlewareEntry := do
  match ← s.slots ["name", "dir", "path", "serve"] n with
  | [name, dir, path, body] =>
    return {
      name := ← Source.required s.text? name
      dir := ← s.nullable s.text? dir
      path := ← Source.required s.text? path
      body := ← s.nullable s.text? body }
  | _ => none

/-- Reads the declaration of a mount. -/
def MountEntry.read (s : Source ν) (n : ν) : Option MountEntry := do
  match ← s.slots ["name", "path", "root", "no_compress", "no_cache"] n with
  | [name, path, root, noCompress, noCache] =>
    return {
      name := ← Source.required s.text? name
      path := ← Source.required s.text? path
      root := ← Source.required s.text? root
      noCompress := ← Source.withDefault false s.flag? noCompress
      noCache := ← Source.withDefault false s.flag? noCache }
  | _ => none

/-- Reads a route. -/
def RouteEntry.read (s : Source ν) (n : ν) : Option RouteEntry := do
  match ← s.slots ["handler", "middleware", "static"] n with
  | [handler, middleware, mount] =>
    return {
      handler := ← s.nullable (HandlerEntry.read s) handler
      middleware := ← s.nullable (MiddlewareEntry.read s) middleware
      mount := ← s.nullable (MountEntry.read s) mount }
  | _ => none

/-- Reads a route that can be left open. -/
def readRoute (s : Source ν) (n : ν) : Option (Option RouteEntry) :=
  s.nullable (RouteEntry.read s) (some n)

/-- Reads the declaration of a router. -/
def RouterEntry.read (s : Source ν) (n : ν) : Option RouterEntry := do
  match ← s.slots ["name", "dir", "routes"] n with
  | [name, dir, routes] =>
    return {
      name := ← Source.required s.text? name
      dir := ← s.nullable s.text? dir
      routes := ← Source.withDefault [] (s.list (readRoute s)) routes }
  | _ => none

/-- Reads the declaration of an app. -/
def FrameEntry.read (s : Source ν) (n : ν) : Option FrameEntry := do
  match ← s.slots ["name", "version", "router"] n with
  | [name, version, router] =>
    return {
      name := ← Source.required s.text? name
      version := ← Source.withDefault "" s.text? version
      router := ← s.nullable s.text? router }
  | _ => none

/-- Reads a manifest. -/
def Manifest.read (s : Source ν) (n : ν) : Option Manifest := do
  match ← s.slots ["entry", "routers", "frames"] n with
  | [entry, routers, frames] =>
    return {
      entry := ← Source.withDefault "src" s.text? entry
      routers := ← Source.withDefault [] (s.list (RouterEntry.read s)) routers
      frames := ← Source.withDefault [] (s.list (FrameEntry.read s)) frames }
  | _ => none

end RouteWorks
