import RouteWorks.Text.Letter

/-!
# Quoted text

A text between double quotes, as error messages and generated source show it. Quotes, backslashes
and the usual control characters have short escapes; other characters without a visible form of
their own are written by code point.
-/

namespace RouteWorks.Text

/-- The digits of a number in lower-case hexadecimal. -/
def hex (n : Nat) : List Char := Nat.toDigits 16 n

/-- A number in lower-case hexadecimal with at least `width` digits. -/
def hexPadded (width n : Nat) : String :=
  let ds := hex n
  String.ofList (List.replicate (width - ds.length) '0' ++ ds)

/-- How a character is written inside double quotes. -/
def escapeChar (c : Char) : List Char :=
  if c = '"' then ['\\', '"']
  else if c = '\\' then ['\\', '\\']
  else if c = '\n' then ['\\', 'n']
  else if c = '\t' then ['\\', 't']
  else if c = '\r' then ['\\', 'r']
  else if c = '\x00' then ['\\', '0']
  else if isPrintable c && !isGraphemeExtend c then [c]
  else '\\' :: 'u' :: '\x7b' :: (hex c.toNat ++ ['\x7d'])

/-- A text between double quotes. -/
def quote (s : String) : String :=
  String.ofList ('"' :: (s.toList.flatMap escapeChar ++ ['"']))

end RouteWorks.Text
