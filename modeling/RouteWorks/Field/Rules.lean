import RouteWorks.Field.Basic
import RouteWorks.Name
import RouteWorks.Number.Literal
import RouteWorks.Pattern.Reader

/-!
# Rules for fields

What the fields of a record handler have to satisfy. The rules for single fields come first, in the
order of the fields; the rules about the body and the form are about all fields together and come
last.
-/

namespace RouteWorks.Field

/-- Digits, at least one. -/
def isDigits (cs : List Char) : Bool := !cs.isEmpty && cs.all Text.isDecimalDigit

/-- An optional minus sign, digits, and optionally a point with more digits. -/
def isDecimal (cs : List Char) : Bool :=
  let unsigned := match cs with
    | '-' :: rest => rest
    | rest => rest
  match Text.cutAt? (· == '.') unsigned with
  | none => isDigits unsigned
  | some (whole, fraction) => isDigits whole && isDigits fraction

/-- How one end of a range is written. -/
def isBound : RangeRule → List Char → Bool
  | .length => isDigits
  | .number => isDecimal

/-- Whether a range has its form: one number, or two ends with a colon between them, each of which
may be missing. -/
def isRangeForm (rule : RangeRule) (cs : List Char) : Bool :=
  let optional (cs : List Char) := cs.isEmpty || isBound rule cs
  match Text.cutAt? (· == ':') cs with
  | none => isBound rule cs
  | some (low, high) => !(low.isEmpty && high.isEmpty) && optional low && optional high

/-- Whether both ends of a range are there and in the wrong order. -/
def isReversed (cs : List Char) : Bool :=
  match Text.cutAt? (· == ':') cs with
  | none => false
  | some (low, high) =>
    match Number.readBinary Number.double low, Number.readBinary Number.double high with
    | .ok low, .ok high => high.lt low
    | _, _ => false

/-- Checks a range, without the blanks around it. -/
def checkRange (rule : RangeRule) (field value : String) : Except FieldFault Unit :=
  let cs := Text.trimChars value.toList
  if isRangeForm rule cs && !isReversed cs then .ok ()
  else .error (.malformed rule field (String.ofList cs))

/-- Checks an optional part of a field. -/
def checkOptional {α : Type} (check : α → Except FieldFault Unit) :
    Option α → Except FieldFault Unit
  | none => .ok ()
  | some a => check a

/-- The rules for the value of a field with a position. -/
def checkValue (f : Field) (position : Position) : Except FieldFault Unit := do
  if (UploadKind.ofType? f.type).isSome && position ≠ .form then
    throw (.uploadOutsideForm f.name)
  checkOptional (checkRange .length f.name) f.len
  checkOptional (checkRange .number f.name) f.range
  checkOptional (fun p => if Pattern.isValid p then .ok () else .error (.badPattern f.name))
    f.pattern

/-- The rules for one field. -/
def check (handler : String) (f : Field) : Except Fault Unit := do
  let _ ← Identifier.ofName f.name
  match f.position with
  | none => return ()
  | some position => (checkValue f position).mapError (.invalidFields handler)

/-- The rules for all fields together. -/
def checkTogether (fields : List Field) : Except FieldFault Unit :=
  let bodies := fields.countP fun f => f.position = some .body
  if 1 < bodies then .error .manyBodies
  else if bodies = 1 ∧ fields.any fun f => f.position = some .form then .error .formWithBody
  else .ok ()

/-- Checks the fields of a record handler. -/
def checkAll (handler : String) (fields : List Field) : Except Fault Unit := do
  fields.forM (check handler)
  (checkTogether fields).mapError (.invalidFields handler)

end RouteWorks.Field
