import RouteWorks.Request.Charset
import RouteWorks.Request.MediaType
import RouteWorks.Text.Blank
import RouteWorks.Upload.Basic

/-!
# Multipart bodies

A multipart body is a sequence of parts between boundary lines. A part has header fields, an empty
line and content. The first boundary can stand anywhere; after the last one nothing is read.
-/

namespace RouteWorks.Multipart

/-- A part of a body. -/
structure Part where
  headers : List HeaderField
  content : ByteArray

/-- A line end. -/
def crlf : ByteArray := ⟨#[0x0D, 0x0A]⟩

/-- Two hyphens, which start a boundary line and end the last one. -/
def hyphens : ByteArray := ⟨#[0x2D, 0x2D]⟩

/-! ## Header fields of a part -/

/-- Whether an octet can be part of the name of a header field. -/
def isNameOctet (b : UInt8) : Bool := MediaType.isTokenChar (Char.ofNat b.toNat) && b < 0x80

/-- Whether an octet can be part of the value of a header field. -/
def isValueOctet (b : UInt8) : Bool := b == 0x09 || (0x20 ≤ b && b ≠ 0x7F)

/-- Whether an octet is a space or a tab. -/
def isGap (b : UInt8) : Bool := b == 0x20 || b == 0x09

/-- What follows a line end; the carriage return can be missing. -/
def skipLineEnd? : List UInt8 → Option (List UInt8)
  | 0x0D :: 0x0A :: rest => some rest
  | 0x0A :: rest => some rest
  | _ => none

/-- One header field, and what follows it. Blanks around the value do not belong to it. -/
def readField (bs : List UInt8) : Option (HeaderField × List UInt8) := do
  let name := bs.takeWhile isNameOctet
  let rest := bs.dropWhile isNameOctet
  if name.isEmpty || rest.head? ≠ some 0x3A then none
  let rest := (rest.drop 1).dropWhile isGap
  let value := rest.takeWhile isValueOctet
  let rest ← skipLineEnd? (rest.dropWhile isValueOctet)
  let name := String.ofList (name.map fun b => (Char.ofNat b.toNat).toLower)
  return ({ name, value := Text.dropEndWhile isGap value }, rest)

/-- Header fields up to an empty line. There can be `count` of them. -/
def readFields : Nat → List UInt8 → Option (List HeaderField)
  | count, bs =>
    match skipLineEnd? bs, count with
    | some _, _ => some []
    | none, 0 => none
    | none, count + 1 => do
      let (field, rest) ← readField bs
      return field :: (← readFields count rest)

/-- The greatest number of header fields of a part. -/
def fieldLimit : Nat := 32

/-- The value of a header field; the last one counts. -/
def Part.header? (p : Part) (name : String) : Option (List UInt8) :=
  (HeaderField.values p.headers name).getLast?

/-! ## Names of parts -/

/-- Whether an octet separates attributes. -/
def isSeparator (b : UInt8) : Bool :=
  b == 0x3B || b == 0x20 || b == 0x09 || b == 0x0A || b == 0x0C || b == 0x0D

/-- What stands before the first occurrence of `needle`, and what follows it. -/
def cutAround? (needle : List UInt8) : List UInt8 → Option (List UInt8 × List UInt8)
  | [] => if needle.isEmpty then some ([], []) else none
  | b :: bs =>
    match Text.stripStart? needle (b :: bs) with
    | some after => some ([], after)
    | none => (cutAround? needle bs).map fun (before, after) => (b :: before, after)

/-- The value of the first attribute with a key: between quotes up to the next quote, otherwise up
to the next semicolon. A key in the middle of a word is passed over, and the search goes on behind
it as if from the start. The fuel bounds how often. -/
def attribute? (key : List UInt8) : Nat → List UInt8 → Option (List UInt8)
  | 0, _ => none
  | fuel + 1, bs =>
    match cutAround? key bs with
    | none => none
    | some (before, after) =>
      if !(before.getLast?.map isSeparator).getD true then attribute? key fuel after
      else match after with
        | 0x22 :: value => (Text.cutAt? (· == 0x22) value).map (·.1)
        | value => some (value.takeWhile (· ≠ 0x3B))

/-- An attribute of the disposition of a part; none when it is no UTF-8. -/
def Part.attribute? (p : Part) (key : String) : Option String := do
  let disposition ← p.header? "content-disposition"
  let value ← Multipart.attribute? (Text.utf8 key) (disposition.length + 1) disposition
  Text.ofUtf8? value

/-- The name of the field that a part is the value of. -/
def Part.name (p : Part) : String := (p.attribute? "name=").getD ""

/-- The name of the file that a part is. -/
def Part.fileName? (p : Part) : Option String := p.attribute? "filename="

/-- The media type of a part. -/
def Part.mediaType? (p : Part) : Option MediaType :=
  ((p.header? "content-type").bind HeaderField.textOf?).bind MediaType.ofText?

/-- The content of a part as text. -/
def Part.text (p : Part) : String :=
  let label := p.mediaType?.bind (·.parameter? "charset")
  ((label.bind Charset.ofLabel?).getD .utf8).decode p.content

/-- The content of a part as a file. -/
def Part.toFile (p : Part) (fileName : String) : UploadedFile :=
  { fileName, contentType := p.mediaType?.map (·.text), octets := p.content }

/-! ## Parts of a body -/

/-- The first index from `i` on that holds neither a space nor a tab. -/
def skipGaps (body : ByteArray) (i : Nat) : Nat :=
  if h : i < body.size then
    if isGap body[i] then skipGaps body (i + 1) else i
  else i
termination_by body.size - i

/-- The parts from a boundary line on, which starts at index `i` with `marker`. `none` when a part
has no end. The fuel bounds the number of parts. -/
def readParts (marker body : ByteArray) : Nat → Nat → Option (List Part)
  | 0, _ => none
  | fuel + 1, i => do
    let afterMarker := i + marker.size
    if body.size < afterMarker + 2 then none
    if Text.octetsAt hyphens body afterMarker then return []
    let lineEnd := skipGaps body afterMarker
    if !Text.octetsAt crlf body lineEnd then none
    let head := lineEnd + 2
    let headEnd ← Text.findOctets? (crlf ++ crlf) body head
    let content := headEnd + 4
    let headers ← readFields fieldLimit (body.extract head content).toList
    let stop ← Text.findOctets? (crlf ++ marker) body content
    return { headers, content := body.extract content stop }
      :: (← readParts marker body fuel (stop + 2))

/-- The parts of a body. -/
def read (boundary : String) (body : ByteArray) : Option (List Part) := do
  let marker := hyphens ++ boundary.toUTF8
  let start ← Text.findOctets? marker body 0
  readParts marker body (body.size + 1) start

/-- The boundary that a request declares for its body. -/
def boundary? (contentType : String) : Option String := do
  let m ← MediaType.ofText? contentType
  if m.essence = "multipart/form-data" then m.parameter? "boundary" else none

end RouteWorks.Multipart
