import RouteWorks.Pattern.CharClass

/-!
# Regular expressions

A regular expression describes where it can match in a text: from a set of positions it leads to
another set of positions. Sets of positions are natural numbers, one bit for each position. A text
matches when some position leads somewhere.
-/

namespace RouteWorks.Pattern

/-- A condition on a position. -/
inductive Assertion where
  | textStart
  | textEnd
  /-- The start of a line; `carriage` says that a carriage return ends lines as well. -/
  | lineStart (carriage : Bool)
  | lineEnd (carriage : Bool)
  /-- A word starts or ends here; `ascii` limits words to characters below U+0080. -/
  | boundary (ascii : Bool)
  | notBoundary (ascii : Bool)
  | wordStart (ascii : Bool)
  | wordEnd (ascii : Bool)
  /-- No word character stands before. -/
  | wordStartHalf (ascii : Bool)
  /-- No word character follows. -/
  | wordEndHalf (ascii : Bool)
  deriving DecidableEq, Repr, Inhabited

namespace Assertion

/-- Whether an optional neighbour is a word character. -/
def isWordSide (ascii : Bool) (c : Option Char) : Bool :=
  (c.map (if ascii then CharClass.asciiWord.mem else CharClass.word.mem)).getD false

/-- Whether the condition holds between two neighbours. -/
def holds (before after : Option Char) : Assertion → Bool
  | textStart => before.isNone
  | textEnd => after.isNone
  | lineStart false => before.isNone || before == some '\n'
  | lineStart true =>
    before.isNone || before == some '\n' || (before == some '\r' && after != some '\n')
  | lineEnd false => after.isNone || after == some '\n'
  | lineEnd true =>
    after.isNone || after == some '\r' || (after == some '\n' && before != some '\r')
  | boundary a => isWordSide a before != isWordSide a after
  | notBoundary a => isWordSide a before == isWordSide a after
  | wordStart a => !isWordSide a before && isWordSide a after
  | wordEnd a => isWordSide a before && !isWordSide a after
  | wordStartHalf a => !isWordSide a before
  | wordEndHalf a => !isWordSide a after

end Assertion

/-- A regular expression. -/
inductive Expr where
  /-- The empty text. -/
  | empty
  /-- One character of a class. -/
  | one (c : CharClass)
  /-- The empty text where a condition holds. -/
  | look (a : Assertion)
  /-- One expression after another. -/
  | seq (a b : Expr)
  /-- One expression or another. -/
  | alt (a b : Expr)
  /-- An expression several times, without a limit when `most` is `none`. -/
  | repeated (least : Nat) (most : Option Nat) (a : Expr)
  deriving DecidableEq, Repr, Inhabited

/-- Applies a step up to `n` times, and stops where it changes nothing. -/
def iterate (step : Nat → Nat) : Nat → Nat → Nat
  | 0, p => p
  | n + 1, p =>
    let q := step p
    if q = p then p else iterate step n q

/-- What an expression does in one text. -/
inductive Moves where
  /-- Nothing. -/
  | stay
  /-- It goes over a character from some positions. -/
  | step (positions : Nat)
  /-- It goes on from some positions without going over anything. -/
  | hold (positions : Nat)
  | seq (a b : Moves)
  | alt (a b : Moves)
  | repeated (least : Nat) (most : Option Nat) (a : Moves)
  deriving DecidableEq, Repr, Inhabited

/-- The positions that are reached from a set of positions. A repetition that leads on does so within
as many steps as there are positions, of which there are fewer than `bound`. -/
def Moves.leadsTo (bound : Nat) : Moves → Nat → Nat
  | stay, from_ => from_
  | step positions, from_ => 2 * (from_ &&& positions)
  | hold positions, from_ => from_ &&& positions
  | seq a b, from_ => leadsTo bound b (leadsTo bound a from_)
  | alt a b, from_ => leadsTo bound a from_ ||| leadsTo bound b from_
  | repeated least most a, from_ =>
    let start := iterate (leadsTo bound a) (min least bound) from_
    let extra := match most with
      | none => bound
      | some m => min (m - least) bound
    iterate (fun p => p ||| leadsTo bound a p) extra start

namespace Expr

/-- The positions of a text whose next character satisfies `p`. -/
def positionsOf (p : Char → Bool) (text : List Char) : Nat :=
  text.foldr (fun c n => 2 * n + (p c).toNat) 0

/-- The positions of a text where a condition on the neighbours holds. -/
def positionsBetween (p : Option Char → Option Char → Bool) (before : Option Char) :
    List Char → Nat
  | [] => (p before none).toNat
  | c :: rest => 2 * positionsBetween p (some c) rest + (p before (some c)).toNat

/-- What an expression does with the positions of a text. -/
def moves (text : List Char) : Expr → Moves
  | empty => .stay
  | one c => .step (positionsOf c.mem text)
  | look a => .hold (positionsBetween (fun x y => a.holds x y) none text)
  | seq a b => .seq (moves text a) (moves text b)
  | alt a b => .alt (moves text a) (moves text b)
  | repeated least most a => .repeated least most (moves text a)

/-- Whether an expression matches somewhere in a text. -/
def isMatch (e : Expr) (text : List Char) : Bool :=
  (e.moves text).leadsTo (text.length + 2) (Nat.pow 2 (text.length + 1) - 1) ≠ 0

/-- Whether an expression can only match the empty text. -/
def isEmptyOnly : Expr → Bool
  | empty | look _ => true
  | one _ => false
  | seq a b | alt a b => isEmptyOnly a && isEmptyOnly b
  | repeated _ most a => most == some 0 || isEmptyOnly a

/-- About how much room an expression takes when it is compiled. -/
def size : Expr → Nat
  | empty => 32
  | one c => 32 + 24 * (c.size - 1)
  | look _ => 32
  | seq a b => size a + size b
  | alt a b => size a + size b + 40
  | repeated least most a =>
    if isEmptyOnly a then size a + 40
    else match most with
      | none => size a * max least 1 + 40
      | some m => size a * m + 40 * (m - least)

end Expr

end RouteWorks.Pattern
