import RouteWorks.Text.Category
import RouteWorks.Text.Table.PropertyRuns

/-!
# Letters, digits and letter case

The properties of characters that names are made of. Below U+0080 each is decided by the ASCII
test of the core library; above, by the general category and the contributory property tables.
-/

namespace RouteWorks.Text

/-- A set of code points kept as runs. -/
private def gaps (table : String) : Runs Bool := Runs.ofGaps (tableNumbers table)

/-- Alphabetic code points outside the letter categories. -/
def otherAlphabetic : Runs Bool := gaps Table.otherAlphabetic
/-- Uppercase code points outside the category of uppercase letters. -/
def otherUppercase : Runs Bool := gaps Table.otherUppercase
/-- Lowercase code points outside the category of lowercase letters. -/
def otherLowercase : Runs Bool := gaps Table.otherLowercase
/-- Grapheme extenders outside the mark categories. -/
def otherGraphemeExtend : Runs Bool := gaps Table.otherGraphemeExtend

namespace Category

/-- Letters and letter numbers. -/
def isLetter : Category → Bool
  | uppercaseLetter | lowercaseLetter | titlecaseLetter | modifierLetter | otherLetter
  | letterNumber => true
  | _ => false

/-- Numbers of every kind. -/
def isNumber : Category → Bool
  | decimalNumber | letterNumber | otherNumber => true
  | _ => false

/-- Marks of every kind. -/
def isMark : Category → Bool
  | nonspacingMark | spacingMark | enclosingMark => true
  | _ => false

/-- Categories without a visible form: controls, formats, unassigned and private code points, and
separators. -/
def isInvisible : Category → Bool
  | control | format | surrogate | privateUse | unassigned
  | lineSeparator | paragraphSeparator | spaceSeparator => true
  | _ => false

end Category

/-- Whether a character is below U+0080. -/
def isAscii (c : Char) : Bool := c.toNat < 128

/-- The Alphabetic property. -/
def isAlphabetic (c : Char) : Bool :=
  if isAscii c then c.isAlpha
  else (category c).isLetter || otherAlphabetic.mem c.toNat

/-- Alphabetic characters and numbers of every kind. -/
def isAlphanumeric (c : Char) : Bool :=
  if isAscii c then c.isAlphanum
  else (category c).isLetter || (category c).isNumber || otherAlphabetic.mem c.toNat

/-- The Uppercase property. -/
def isUppercase (c : Char) : Bool :=
  if isAscii c then c.isUpper
  else category c == .uppercaseLetter || otherUppercase.mem c.toNat

/-- The Lowercase property. -/
def isLowercase (c : Char) : Bool :=
  if isAscii c then c.isLower
  else category c == .lowercaseLetter || otherLowercase.mem c.toNat

/-- Decimal digits of every script. -/
def isDecimalDigit (c : Char) : Bool :=
  if isAscii c then c.isDigit else category c == .decimalNumber

/-- Control characters: the C0 and C1 controls and DEL. -/
def isControl (c : Char) : Bool :=
  c.toNat < 32 || (127 ≤ c.toNat && c.toNat < 160)

/-- Characters that attach to the one before them. -/
def isGraphemeExtend (c : Char) : Bool :=
  !isAscii c &&
    (category c == .nonspacingMark || category c == .enclosingMark
      || otherGraphemeExtend.mem c.toNat)

/-- Characters with a visible form of their own, and the space. -/
def isPrintable (c : Char) : Bool :=
  if isAscii c then 32 ≤ c.toNat && c.toNat < 127 else !(category c).isInvisible

end RouteWorks.Text
