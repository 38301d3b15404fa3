import RouteWorks.Text.Octets
import RouteWorks.Text.Hex

/-!
# Character sets

How the octets of a text field become characters. A byte order mark at the start decides; without
one it is the declared character set, and UTF-8 when that is unknown.
-/

namespace RouteWorks

/-- A character set. -/
inductive Charset where
  | utf8
  | utf16 (bigEndian : Bool)
  | windows1252
  deriving DecidableEq, Repr, Inhabited

namespace Charset

/-- The labels of the character sets. -/
def labels : List (Charset × List String) :=
  [(utf8, ["unicode-1-1-utf-8", "unicode11utf8", "unicode20utf8", "utf-8", "utf8",
      "x-unicode20utf8"]),
   (windows1252, ["ansi_x3.4-1968", "ascii", "cp1252", "cp819", "csisolatin1", "ibm819",
      "iso-8859-1", "iso-ir-100", "iso8859-1", "iso88591", "iso_8859-1", "iso_8859-1:1987", "l1",
      "latin1", "us-ascii", "windows-1252", "x-cp1252"]),
   (utf16 false, ["csunicode", "iso-10646-ucs-2", "ucs-2", "unicode", "unicodefeff", "utf-16",
      "utf-16le"]),
   (utf16 true, ["unicodefffe", "utf-16be"])]

/-- The character set with a label. -/
def ofLabel? (label : String) : Option Charset :=
  (labels.find? fun entry => entry.2.contains label).map (·.1)

/-- The characters of windows-1252 from 0x80 to 0x9F. -/
def windows1252Special : Array Nat :=
  #[0x20AC, 0x81, 0x201A, 0x192, 0x201E, 0x2026, 0x2020, 0x2021, 0x2C6, 0x2030, 0x160, 0x2039,
    0x152, 0x8D, 0x17D, 0x8F, 0x90, 0x2018, 0x2019, 0x201C, 0x201D, 0x2022, 0x2013, 0x2014, 0x2DC,
    0x2122, 0x161, 0x203A, 0x153, 0x9D, 0x17E, 0x178]

/-- The character of windows-1252 that an octet stands for. -/
def ofWindows1252 (b : UInt8) : Char :=
  Char.ofNat ((windows1252Special[b.toNat - 0x80]?.filter fun _ => 0x80 ≤ b).getD b.toNat)

/-- The 16-bit units of octets, and whether an octet is left over. -/
def units (bigEndian : Bool) : List UInt8 → List Nat × Bool
  | [] => ([], false)
  | [_] => ([], true)
  | a :: b :: rest =>
    let (us, odd) := units bigEndian rest
    ((if bigEndian then 256 * a.toNat + b.toNat else 256 * b.toNat + a.toNat) :: us, odd)

/-- The characters of 16-bit units. Half a surrogate pair becomes U+FFFD, as does an octet that is
left over, together with a first half right before it. -/
def ofUnits (odd : Bool) : List Nat → List Char
  | [] => if odd then ['\ufffd'] else []
  | [u] =>
    match Text.scalar? u with
    | some c => if odd then [c, '\ufffd'] else [c]
    | none => if odd && 0xDC00 ≤ u then ['\ufffd', '\ufffd'] else ['\ufffd']
  | u :: v :: rest =>
    match Text.scalar? u with
    | some c => c :: ofUnits odd (v :: rest)
    | none =>
      if u < 0xDC00 ∧ 0xDC00 ≤ v ∧ v < 0xE000 then
        Char.ofNat (0x10000 + 1024 * (u - 0xD800) + (v - 0xDC00)) :: ofUnits odd rest
      else '\ufffd' :: ofUnits odd (v :: rest)

/-- The text that octets spell in a character set. -/
def decodeIn (octets : ByteArray) : Charset → String
  | utf8 => Text.textOf octets
  | utf16 bigEndian =>
    let (us, odd) := units bigEndian octets.toList
    String.ofList (ofUnits odd us)
  | windows1252 => String.ofList (octets.toList.map ofWindows1252)

/-- The text that octets spell. -/
def decode (charset : Charset) (octets : ByteArray) : String :=
  if Text.octetsAt ⟨#[0xEF, 0xBB, 0xBF]⟩ octets 0 then decodeIn (octets.extract 3 octets.size) utf8
  else if Text.octetsAt ⟨#[0xFF, 0xFE]⟩ octets 0 then
    decodeIn (octets.extract 2 octets.size) (utf16 false)
  else if Text.octetsAt ⟨#[0xFE, 0xFF]⟩ octets 0 then
    decodeIn (octets.extract 2 octets.size) (utf16 true)
  else decodeIn octets charset

end Charset

end RouteWorks
