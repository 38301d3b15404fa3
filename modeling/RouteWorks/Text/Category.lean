import RouteWorks.Text.Runs
import RouteWorks.Text.Table.CategoryRuns

/-!
# General categories

Every code point has exactly one general category; code points without a character are
`unassigned`.
-/

namespace RouteWorks.Text

/-- The general category of a code point. -/
inductive Category where
  | uppercaseLetter | lowercaseLetter | titlecaseLetter | modifierLetter | otherLetter
  | nonspacingMark | spacingMark | enclosingMark
  | decimalNumber | letterNumber | otherNumber
  | connectorPunctuation | dashPunctuation | openPunctuation | closePunctuation
  | initialPunctuation | finalPunctuation | otherPunctuation
  | mathSymbol | currencySymbol | modifierSymbol | otherSymbol
  | spaceSeparator | lineSeparator | paragraphSeparator
  | control | format | surrogate | privateUse | unassigned
  deriving DecidableEq, Repr, Inhabited

namespace Category

/-- Every category with its two-letter code. -/
def codes : List (String × Category) :=
  [("Lu", uppercaseLetter), ("Ll", lowercaseLetter), ("Lt", titlecaseLetter),
   ("Lm", modifierLetter), ("Lo", otherLetter), ("Mn", nonspacingMark), ("Mc", spacingMark),
   ("Me", enclosingMark), ("Nd", decimalNumber), ("Nl", letterNumber), ("No", otherNumber),
   ("Pc", connectorPunctuation), ("Pd", dashPunctuation), ("Ps", openPunctuation),
   ("Pe", closePunctuation), ("Pi", initialPunctuation), ("Pf", finalPunctuation),
   ("Po", otherPunctuation), ("Sm", mathSymbol), ("Sc", currencySymbol), ("Sk", modifierSymbol),
   ("So", otherSymbol), ("Zs", spaceSeparator), ("Zl", lineSeparator), ("Zp", paragraphSeparator),
   ("Cc", control), ("Cf", format), ("Cs", surrogate), ("Co", privateUse), ("Cn", unassigned)]

/-- The category of a two-letter code. -/
def ofCode? (code : String) : Option Category :=
  codes.lookup code

/-- Reads run lengths: digits, then a two-letter code, and so on. -/
def readRuns (start count : Nat) (runs : Runs Category) : List Char → Runs Category
  | [] => runs
  | c :: rest =>
    if c.isDigit then readRuns start (10 * count + (c.toNat - 48)) runs rest
    else match rest with
      | [] => runs
      | d :: rest =>
        readRuns (start + count) 0
          (runs.push (start, (ofCode? (String.ofList [c, d])).getD unassigned)) rest

/-- The category of every code point. -/
def runs : Runs Category :=
  readRuns 0 0 #[] Table.categoryRuns.toList

end Category

/-- The general category of a character. -/
def category (c : Char) : Category :=
  (Category.runs.get? c.toNat).getD .unassigned

end RouteWorks.Text
