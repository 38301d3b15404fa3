import RouteWorks.Text.Utf8

/-!
# Strings of octets

Bodies of requests and contents of files are strings of octets. Parts of them are found by
searching from an index on.
-/

namespace RouteWorks.Text

/-- Whether `needle` is in `hay` at an index. -/
def octetsAt (needle hay : ByteArray) (i : Nat) : Bool :=
  (needle.size == 0 || needle[0]? == hay[i]?) && hay.extract i (i + needle.size) == needle

/-- The first index from `i` on at which `needle` is in `hay`. -/
def findOctets? (needle hay : ByteArray) (i : Nat) : Option Nat :=
  if i + needle.size ≤ hay.size then
    if octetsAt needle hay i then some i else findOctets? needle hay (i + 1)
  else none
termination_by hay.size + 1 - i

/-- The text that octets spell, when they are UTF-8. -/
def textOf? (octets : ByteArray) : Option String := String.fromUTF8? octets

/-- The text that octets spell, with U+FFFD in place of what is not UTF-8. -/
def textOf (octets : ByteArray) : String :=
  (textOf? octets).getD (ofUtf8Lossy octets.toList)

end RouteWorks.Text
