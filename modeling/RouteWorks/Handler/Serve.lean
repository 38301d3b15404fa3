import RouteWorks.Handler.Bind

/-!
# Serving requests

An app is a list of endpoints. The first one whose pattern matches the path of a request reads it,
binds its fields and answers. Whatever fails before the endpoint can answer is answered by the app,
in a JSON object with the error.
-/

namespace RouteWorks

/-- An answer to a request. -/
structure Response where
  status : Nat
  contentType : Option String
  body : String
  deriving DecidableEq, Repr, Inhabited

namespace Response

/-- An answer in JSON. A status that is none of three digits becomes 200. -/
def json (status : Nat) (v : Json) : Response :=
  { status := if 100 ≤ status ∧ status < 1000 then status else 200
    contentType := some "application/json"
    body := v.render }

/-- An answer that tells what failed. -/
def failure (status : Nat) (fault : BindFault) : Response :=
  json status (.object [("error", .string fault.message)])

/-- The answer to a request for something that is not there. -/
def notFound : Response := { status := 404, contentType := none, body := "" }

end Response

/-- Where uploads are stored. -/
structure Storage where
  files : FileSystem
  cwd : Place
  /-- The directory for uploads. -/
  directory : String

namespace Storage

/-- Stores the first file sent under a name, if there is one. -/
def saveFile (s : Storage) (c : Context) (name : String) (cover : Bool) :
    Except BindFault (Option SavedFile) × Storage :=
  match c.filesNamed name with
  | [] => (.ok none, s)
  | f :: _ =>
    let (saved, files) := f.save s.files s.cwd s.directory cover
    (match saved with
      | some saved => .ok (some saved)
      | none => .error (.unsaved name), { s with files })

/-- Stores all files sent under a name. -/
def saveFiles (s : Storage) (c : Context) (name : String) (cover : Bool) :
    Except BindFault (List SavedFile) × Storage :=
  let (saved, files) := UploadedFile.saveAll s.files s.cwd s.directory cover (c.filesNamed name)
  (match saved with
    | some saved => .ok saved
    | none => .error (.unsaved name), { s with files })

end Storage

/-- A record handler at a path. -/
structure Endpoint where
  pattern : String
  /-- What the documentation says about it, and about its answer. -/
  note : String := ""
  returns : String := ""
  slots : List Slot
  respond : Storage → Context → Bound → Response × Storage

namespace Endpoint

/-- Reads a request, binds the fields of the handler and lets it answer. -/
def serve (e : Endpoint) (limit : Nat) (s : Storage) (path : List (String × String))
    (r : Request) : Response × Storage :=
  let bound : Except BindFault (Context × Bound) := do
    let c ← Context.ofRequest limit path r
    return (c, ← bindAll c e.slots)
  match bound with
  | .ok (c, b) => e.respond s c b
  | .error fault => (.failure fault.status fault, s)

end Endpoint

/-- An app that serves requests. -/
structure App where
  name : String
  version : String
  endpoints : List Endpoint

namespace App

/-- The greatest size of a body that an app reads. -/
def bodyLimit : Nat := 32 * Nat.pow 2 20

/-- The first endpoint whose pattern matches a path, with the parameters of the path. -/
def find? (app : App) (path : String) : Option (Endpoint × List (String × String)) :=
  app.endpoints.findSome? fun e =>
    (matchPath? e.pattern path).map fun found => (e, decodeParameters found)

/-- Answers a request. -/
def serve (app : App) (s : Storage) (r : Request) : Response × Storage :=
  match find? app r.target.path with
  | some (e, path) => e.serve bodyLimit s path r
  | none => (.notFound, s)

end App

end RouteWorks
