import RouteWorks.Field.Basic
import RouteWorks.Parameter.Rules
import RouteWorks.Request.Multipart
import RouteWorks.Request.RoutePattern

/-!
# Requests that are read

Before a handler runs its request is read to the end and taken apart: parameters of the path, query,
cookies, form fields, files and body. A field of the handler finds its values by position and name.
-/

namespace RouteWorks

/-- A request that is read and taken apart. -/
structure Context where
  method : String
  target : RequestTarget
  headers : List HeaderField
  path : List (String × String) := []
  query : List (String × String) := []
  cookies : List (String × String) := []
  form : List (String × String) := []
  files : List (String × UploadedFile) := []
  /-- The body; empty when it was a multipart form. -/
  body : ByteArray := .empty
  deriving Inhabited

namespace Context

/-- The greatest size of a body that is read when nothing else is said. -/
def defaultLimit : Nat := 2 * Nat.pow 2 20

/-- What is known before the body is read. -/
def ofHead (r : Request) (path : List (String × String)) : Context :=
  { method := r.method, target := r.target, headers := r.headers, path
    query := (r.target.query.map fun q => decodePairs (Text.utf8 q)).getD []
    cookies := readCookies (HeaderField.texts r.headers "cookie") }

/-- Adds a part of a multipart form: a file when it has a file name, otherwise a field. -/
def addPart (c : Context) (p : Multipart.Part) : Context :=
  match p.fileName? with
  | some fileName => { c with files := c.files ++ [(p.name, p.toFile fileName)] }
  | none => { c with form := c.form ++ [(p.name, p.text)] }

/-- Reads a request, whose body can have up to `limit` octets. -/
def ofRequest (limit : Nat) (path : List (String × String)) (r : Request) :
    Except BindFault Context :=
  let c := ofHead r path
  let contentType := HeaderField.firstText r.headers "content-type"
  let kind := Text.asciiLower contentType
  if limit < r.body.size then .error .unreadable
  else if Text.startsWith kind "multipart/form-data" then
    match (Multipart.boundary? contentType).bind fun b => Multipart.read b r.body with
    | some parts => .ok (parts.foldl addPart c)
    | none => .error .unreadable
  else if Text.startsWith kind "application/x-www-form-urlencoded" then
    .ok { c with body := r.body, form := decodePairs r.body.toList }
  else .ok { c with body := r.body }

/-- The texts sent under a name at a position, in order. -/
def values (c : Context) (position : Position) (name : String) : List String :=
  match position with
  | .path => (lastValue? c.path name).toList
  | .query => valuesOf c.query name
  | .form => valuesOf c.form name
  | .header => HeaderField.texts c.headers name
  | .cookie => (lastValue? c.cookies name).toList
  | .body => []

/-- The files sent under a name, in order. -/
def filesNamed (c : Context) (name : String) : List UploadedFile :=
  (c.files.filter (·.1 = name)).map (·.2)

end Context

end RouteWorks
