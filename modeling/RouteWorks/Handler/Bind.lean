import RouteWorks.Format.Json.Reader
import RouteWorks.Request.Context

/-!
# Binding the fields of a handler

Each field of a record handler takes its value from the request: a parameter, uploaded files or the
whole body. The fields are bound in order, and the first failure is the answer.
-/

namespace RouteWorks

namespace Rules

/-- Binds uploaded files. -/
def bindFiles (rules : Rules) (key : String) (files : List UploadedFile) :
    Except BindFault (List UploadedFile) :=
  if files.isEmpty && rules.required then .error (rules.fail (.missing key))
  else
    match rules.maxMegabytes with
    | none => .ok files
    | some mb =>
      match files.find? fun f => mb * Nat.pow 2 20 < f.octets.size with
      | some big => .error (rules.fail (.invalid key (.fileTooLarge big.fileName mb)))
      | none => .ok files

/-- Whether an octet is white space of ASCII. -/
def isBlankOctet (b : UInt8) : Bool :=
  b == 0x20 || b == 0x09 || b == 0x0A || b == 0x0C || b == 0x0D

/-- Binds the body as what `read` makes of a JSON value. A blank body was not sent. -/
def bindBody {α : Type} (rules : Rules) (key : String) (read : Json → Option α) (default : α)
    (body : ByteArray) : Except BindFault α :=
  let octets := body.toList
  if octets.all isBlankOctet then
    if rules.required then .error (rules.fail (.missing key)) else .ok default
  else
    match (Json.ofOctets? octets).bind read with
    | some a => .ok a
    | none => .error (rules.fail (.invalid key .body))

end Rules

/-- The types of fields that hold files. -/
inductive UploadType where
  | one
  | optional
  | many
  deriving DecidableEq, Repr, Inhabited

/-- The value of a field that holds files. -/
inductive UploadValue where
  | one (f : UploadedFile)
  | optional (f : Option UploadedFile)
  | many (fs : List UploadedFile)
  deriving Inhabited

namespace UploadType

/-- The files of a field as its type holds them: the first one, or all. -/
def hold (files : List UploadedFile) : UploadType → UploadValue
  | one => .one (files.head?.getD {})
  | optional => .optional files.head?
  | many => .many files

end UploadType

/-- The files of a value. -/
def UploadValue.files : UploadValue → List UploadedFile
  | one f => [f]
  | optional f => f.toList
  | many fs => fs

/-- What a field of a handler is. -/
inductive SlotKind where
  | parameter (position : Position) (type : ParameterType)
  | upload (type : UploadType)
  /-- The body, as what `read` makes of a JSON value. -/
  | body (read : Json → Option Json) (default : Json)
  /-- A field that keeps a value of its own. -/
  | fixed (v : Json)

/-- A field of a handler that is bound to a request. -/
structure Slot where
  name : String
  /-- The name of the value in the request. -/
  key : String
  kind : SlotKind
  rules : Rules := {}

/-- A bound value. -/
inductive BoundValue where
  | parameter (v : ParameterValue)
  | upload (v : UploadValue)
  | json (v : Json)
  deriving Inhabited

mutual

/-- A value of a parameter in JSON. -/
def ParameterValue.toJson : ParameterValue → Json
  | .text s => .string s
  | .flag b => .bool b
  | .cookie name value => .object [("name", .string name), ("value", .string value)]
  | .integer n => .number (.integer n)
  | .real _ x => .number (.real x)
  | .absent => .null
  | .present v => toJson v
  | .many vs => .array (listToJson vs)

/-- Values of a parameter in JSON. -/
def ParameterValue.listToJson : List ParameterValue → List Json
  | [] => []
  | v :: vs => toJson v :: listToJson vs

end

/-- Binds one field. -/
def Slot.bind (slot : Slot) (c : Context) : Except BindFault BoundValue :=
  match slot.kind with
  | .parameter position type =>
    (slot.rules.bind type slot.key (c.values position slot.key)).map .parameter
  | .upload type =>
    (slot.rules.bindFiles slot.key (c.filesNamed slot.key)).map fun files =>
      .upload (type.hold files)
  | .body read default => (slot.rules.bindBody slot.key read default c.body).map .json
  | .fixed v => .ok (.json v)

/-- The fields of a handler with their values. -/
abbrev Bound := List (String × BoundValue)

/-- Binds the fields of a handler in order. -/
def bindAll (c : Context) (slots : List Slot) : Except BindFault Bound :=
  slots.mapM fun slot => (slot.bind c).map fun v => (slot.name, v)

namespace Bound

/-- The files of a field. -/
def files (b : Bound) (name : String) : List UploadedFile :=
  match b.lookup name with
  | some (.upload v) => v.files
  | _ => []

/-- The JSON value of a field that is not a file. -/
def json? (b : Bound) (name : String) : Option Json :=
  match b.lookup name with
  | some (.parameter v) => some v.toJson
  | some (.json v) => some v
  | _ => none

/-- The fields that are not files, in order, as a JSON object. -/
def toJson (b : Bound) : Json :=
  .object (b.filterMap fun (name, _) => (json? b name).map fun v => (name, v))

end Bound

end RouteWorks
