import RouteWorks.Request.Basic
import RouteWorks.Text.Blank
import RouteWorks.Text.Hex

/-!
# Encoded pairs and cookies

Query strings and forms are pairs of names and values with `&` between them, in which a plus sign is
a space and other octets are written in hexadecimal after a percent sign. Cookies are pairs with `;`
between them, taken as they are, without blanks around names and values or quotes around values.
-/

namespace RouteWorks

/-- The value of an octet that is a hexadecimal digit. -/
def hexOctet? (b : UInt8) : Option Nat := Text.hexDigit? (Char.ofNat b.toNat)

/-- Octets with percent signs decoded. One that no two digits follow stands for itself. -/
def percentDecode : List UInt8 → List UInt8
  | [] => []
  | [a] => [a]
  | [a, b] => [a, b]
  | a :: b :: c :: rest =>
    match a == 0x25, hexOctet? b, hexOctet? c with
    | true, some high, some low => UInt8.ofNat (16 * high + low) :: percentDecode rest
    | _, _, _ => a :: percentDecode (b :: c :: rest)

/-- A name or value of an encoded pair. -/
def decodeComponent (bs : List UInt8) : String :=
  Text.ofUtf8Lossy (percentDecode (bs.map fun b => if b == 0x2B then 0x20 else b))

/-- An encoded pair; without an equals sign the value is empty. -/
def decodePair (bs : List UInt8) : String × String :=
  match Text.cutAt? (· == 0x3D) bs with
  | some (name, value) => (decodeComponent name, decodeComponent value)
  | none => (decodeComponent bs, "")

/-- The pairs of a query string or a form. -/
def decodePairs (bs : List UInt8) : List (String × String) :=
  ((Text.splitWhen (· == 0x26) bs).filter (!·.isEmpty)).map decodePair

/-- A cookie: a name and a value with an equals sign between them. -/
def readCookie? (pair : List Char) : Option (String × String) :=
  (Text.cutAt? (· == '=') pair).map fun (name, value) =>
    (String.ofList (Text.trimChars name),
      String.ofList (Text.stripWhile (· == '"') (Text.trimChars value)))

/-- The cookies of the cookie fields of a request, in order. -/
def readCookies (fields : List String) : List (String × String) :=
  fields.flatMap fun field => (Text.splitWhen (· == ';') field.toList).filterMap readCookie?

end RouteWorks
