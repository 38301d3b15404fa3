import RouteWorks.Text.Blank
import RouteWorks.Text.Script

/-!
# Classes of characters

The sets of characters that a regular expression can name: ranges, properties, and what union,
intersection, complement and case folding make of them.
-/

namespace RouteWorks.Pattern

/-- A set of characters. -/
inductive CharClass where
  | none
  /-- The code points from `lo` to `hi`. -/
  | range (lo hi : Nat)
  /-- Decimal digits. -/
  | digit
  /-- Blank characters. -/
  | blank
  /-- Characters of words: letters, marks, digits, connectors and joiners. -/
  | word
  | alphabetic
  | uppercase
  | lowercase
  | category (members : List Text.Category)
  | script (code : String)
  | union (a b : CharClass)
  | inter (a b : CharClass)
  | compl (a : CharClass)
  /-- Every character that some case variant of is in the set. -/
  | fold (a : CharClass)
  deriving DecidableEq, Repr, Inhabited

namespace CharClass

/-- The code points that have the same case folding as another, by their folding. -/
private def foldSources : Text.Runs (List Nat) :=
  let pairs := ((Text.splitWhen (· == ' ') Text.Table.foldRuns.toList).flatMap fun word =>
    match (Text.splitWhen (· == ':') word).map Text.decimal with
    | [start, count, stride, _] =>
      (List.range count).map fun i =>
        let n := start + i * stride
        ((Text.fold (Char.ofNat n)).toNat, n)
    | _ => [])
  (pairs.mergeSort fun a b => a.1 ≤ b.1).foldl
    (fun table (image, source) =>
      match table.back? with
      | some (k, sources) =>
        if k == image then table.pop.push (k, source :: sources) else table.push (image, [source])
      | Option.none => table.push (image, [source]))
    #[]

/-- The characters with the same case folding. -/
def variants (c : Char) : List Char :=
  let image := Text.fold c
  image :: match foldSources.run? image.toNat with
    | some (k, sources) => if k == image.toNat then sources.map Char.ofNat else []
    | Option.none => []

/-- Whether a character can be part of a word. -/
def isWord (c : Char) : Bool :=
  if Text.isAscii c then c.isAlphanum || c == '_'
  else Text.isAlphabetic c || (Text.category c).isMark || Text.isDecimalDigit c
    || Text.category c == .connectorPunctuation || c == '\u200c' || c == '\u200d'

/-- Membership in a class. -/
def mem : CharClass → Char → Bool
  | none, _ => false
  | range lo hi, c => lo ≤ c.toNat && c.toNat ≤ hi
  | digit, c => Text.isDecimalDigit c
  | blank, c => Text.isBlank c
  | word, c => isWord c
  | alphabetic, c => Text.isAlphabetic c
  | uppercase, c => Text.isUppercase c
  | lowercase, c => Text.isLowercase c
  | category members, c => members.contains (Text.category c)
  | script code, c => Text.script c == code
  | union a b, c => mem a c || mem b c
  | inter a b, c => mem a c && mem b c
  | compl a, c => !mem a c
  | fold a, c => (variants c).any (mem a)

/-- One character. -/
def single (c : Char) : CharClass := range c.toNat c.toNat

/-- Several ranges. -/
def ranges (rs : List (Nat × Nat)) : CharClass :=
  rs.foldl (fun a (lo, hi) => union a (range lo hi)) none

/-- Every character. -/
def any : CharClass := range 0 0x10FFFF

/-- The digits, blanks and word characters below U+0080. -/
def asciiDigit : CharClass := range 0x30 0x39
@[inherit_doc asciiDigit] def asciiBlank : CharClass := ranges [(9, 13), (32, 32)]
@[inherit_doc asciiDigit] def asciiWord : CharClass :=
  ranges [(0x30, 0x39), (0x41, 0x5A), (0x5F, 0x5F), (0x61, 0x7A)]

/-- About how many ranges a class has. -/
def size : CharClass → Nat
  | none => 1
  | range _ hi => if hi < 128 then 1 else 4
  | digit => 64
  | blank => 10
  | word => 770
  | alphabetic | uppercase | lowercase => 700
  | category _ => 600
  | script _ => 40
  | union a b => size a + size b
  | inter a b => max (size a) (size b)
  | compl a => size a + 4
  | fold a => 2 * size a

/-- Whether a class can only have characters below U+0080. -/
def isAscii : CharClass → Bool
  | none => true
  | range _ hi => hi < 128
  | union a b => isAscii a && isAscii b
  | inter a b => isAscii a || isAscii b
  | fold a => isAscii a
  | _ => false

end CharClass

end RouteWorks.Pattern
