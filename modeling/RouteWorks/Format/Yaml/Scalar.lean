import RouteWorks.Format.Yaml.Cursor
import RouteWorks.Text.Hex

/-!
# Reading YAML scalars

Scalars are plain, in single or double quotes, or blocks of lines that are kept or folded. Where a
scalar goes over several lines, one end of a line becomes a space, and of more all but the first
are kept.
-/

namespace RouteWorks.Yaml

/-- How a scalar is written. -/
inductive Style where
  | plain | quoted | literal | folded
  deriving DecidableEq, Repr, Inhabited

/-- What stands between two words of a scalar. -/
structure Gap where
  /-- The blanks, where the words are on one line. -/
  blanks : List Char := []
  /-- Whether the words are on different lines. -/
  broken : Bool := false
  /-- The first end of a line. -/
  first : List Char := []
  /-- The ends of further lines. -/
  more : List Char := []
  deriving DecidableEq, Repr, Inhabited

/-- The text that a gap stands for. -/
def Gap.text (g : Gap) : List Char :=
  if !g.broken then g.blanks
  else if g.first = ['\n'] then if g.more.isEmpty then [' '] else g.more
  else g.first ++ g.more

/-- Reads a gap. After the end of a line no tab may stand before the column `least`. -/
def readGap (least : Nat) : Nat → Gap → Cursor → Option (Gap × Cursor)
  | 0, g, c => some (g, c)
  | fuel + 1, g, c =>
    match c.rest with
    | [] => some (g, c)
    | x :: _ =>
      if isGap x then
        if g.broken && x == '\t' && c.mark.column < least then none
        else readGap least fuel (if g.broken then g else { g with blanks := g.blanks ++ [x] })
          (c.skip 1)
      else if isBreak x then
        let (b, c) := c.takeBreak
        if g.broken then readGap least fuel { g with more := g.more ++ b } c
        else readGap least fuel { g with broken := true, first := b } c
      else some (g, c)

/-- The character that an escape in double quotes stands for, from after its backslash, and the
number of characters it takes. -/
def readEscape : List Char → Option (Char × Nat)
  | '0' :: _ => some ('\x00', 1)
  | 'a' :: _ => some ('\x07', 1)
  | 'b' :: _ => some ('\x08', 1)
  | 't' :: _ | '\t' :: _ => some ('\t', 1)
  | 'n' :: _ => some ('\n', 1)
  | 'v' :: _ => some ('\x0b', 1)
  | 'f' :: _ => some ('\x0c', 1)
  | 'r' :: _ => some ('\r', 1)
  | 'e' :: _ => some ('\x1b', 1)
  | ' ' :: _ => some (' ', 1)
  | '"' :: _ => some ('"', 1)
  | '/' :: _ => some ('/', 1)
  | '\\' :: _ => some ('\\', 1)
  | 'N' :: _ => some ('\u0085', 1)
  | '_' :: _ => some ('\u00a0', 1)
  | 'L' :: _ => some ('\u2028', 1)
  | 'P' :: _ => some ('\u2029', 1)
  | 'x' :: rest => (Text.readCode 2 rest).map fun (x, _) => (x, 3)
  | 'u' :: rest => (Text.readCode 4 rest).map fun (x, _) => (x, 5)
  | 'U' :: rest => (Text.readCode 8 rest).map fun (x, _) => (x, 9)
  | _ => none

/-- Reads a scalar in quotes from after the opening quote; `acc` holds its characters so far,
backwards. -/
def readQuoted (quote : Char) : Nat → List Char → Cursor → Option (String × Cursor)
  | 0, _, _ => none
  | fuel + 1, acc, c =>
    if c.atDocumentMark then none
    else
      match c.rest with
      | [] => none
      | x :: rest =>
        if x == quote then
          if quote == '\'' && rest.head? = some '\'' then
            readQuoted quote fuel ('\'' :: acc) (c.skip 2)
          else some (String.ofList acc.reverse, c.skip 1)
        else if x == '\\' && quote == '"' then
          if (rest.head?.map isBreak).getD false then
            let (_, c) := (c.skip 1).takeBreak
            match readGap 0 c.rest.length { broken := true } c with
            | some (g, c) => readQuoted quote fuel (g.text.reverse ++ acc) c
            | none => none
          else
            match readEscape rest with
            | some (e, n) => readQuoted quote fuel (e :: acc) (c.skip (n + 1))
            | none => none
        else if isGap x || isBreak x then
          match readGap 0 c.rest.length {} c with
          | some (g, c) => readQuoted quote fuel (g.text.reverse ++ acc) c
          | none => none
        else readQuoted quote fuel (x :: acc) (c.skip 1)

/-- Whether a character opens, closes or separates parts of a flow collection. -/
def isFlowMark (c : Char) : Bool :=
  c == ',' || c == '[' || c == ']' || c == '\x7b' || c == '\x7d'

/-- Reads a word of a plain scalar: characters up to a blank, a colon before a blank, and in a flow
collection its marks. There a colon may not stand right before a mark. -/
def readWord (flow : Bool) (acc : List Char) : List Char → Option (List Char)
  | [] => some acc.reverse
  | x :: rest =>
    if isGap x || isBreak x then some acc.reverse
    else if flow && x == ':' && (rest.head?.map fun y => isFlowMark y || y == '?').getD false then
      none
    else if (x == ':' && isEdge rest) || (flow && isFlowMark x) then some acc.reverse
    else readWord flow (x :: acc) rest

/-- A plain scalar that has been read. -/
structure PlainScalar where
  text : String
  /-- Whether the reader has gone on to another line. -/
  broken : Bool
  cursor : Cursor
  deriving DecidableEq, Repr, Inhabited

/-- Reads a plain scalar whose further lines start at the column `least` or later. -/
def readPlain (flow : Bool) (least : Nat) :
    Nat → List Char → Gap → Cursor → Option PlainScalar
  | 0, acc, g, c => some ⟨String.ofList acc, g.broken, c⟩
  | fuel + 1, acc, g, c =>
    if c.atDocumentMark || c.rest.head? = some '#' then some ⟨String.ofList acc, g.broken, c⟩
    else do
      let word ← readWord flow [] c.rest
      let c := c.skip word.length
      let acc := if word.isEmpty then acc else acc ++ g.text ++ word
      let g : Gap := if word.isEmpty then g else {}
      if (c.rest.head?.map fun x => isGap x || isBreak x).getD false then
        let (g, c) ← readGap least c.rest.length g c
        if !flow && c.mark.column < least then return ⟨String.ofList acc, g.broken, c⟩
        else readPlain flow least fuel acc g c
      else return ⟨String.ofList acc, g.broken, c⟩

/-- What becomes of the ends of lines at the end of a block. -/
inductive Chomping where
  | strip | clip | keep
  deriving DecidableEq, Repr, Inhabited

/-- The sign of a way of chomping. -/
def Chomping.ofSign? : Char → Option Chomping
  | '-' => some strip
  | '+' => some keep
  | _ => none

/-- The header of a block from after its indicator: the chomping and the columns of indentation, if
they are given, in any order. -/
def readBlockHeader (c : Cursor) : Option (Chomping × Option Nat × Cursor) :=
  let sign? (c : Cursor) := c.rest.head?.bind Chomping.ofSign?
  let digit? (c : Cursor) := (c.rest.head?.filter Char.isDigit).map fun d => d.toNat - 48
  let checked (chomping : Chomping) (columns : Option Nat) (c : Cursor) :=
    if columns = some 0 then none else some (chomping, columns, c)
  match sign? c with
  | some k =>
    match digit? (c.skip 1) with
    | some n => checked k (some n) (c.skip 2)
    | none => checked k none (c.skip 1)
  | none =>
    match digit? c with
    | none => checked .clip none c
    | some n =>
      match sign? (c.skip 1) with
      | some k => checked k (some n) (c.skip 2)
      | none => checked .clip (some n) (c.skip 1)

/-- Goes over the indentation of a line and over empty lines. While the indentation is not known,
all spaces belong to it, and the deepest column reached is kept. No tab may stand in it. -/
def readIndentation (columns : Option Nat) :
    Nat → Nat → List Char → Cursor → Option (Nat × List Char × Cursor)
  | 0, deepest, breaks, c => some (deepest, breaks, c)
  | fuel + 1, deepest, breaks, c =>
    let wanted (column : Nat) : Bool := (columns.map fun n => decide (column < n)).getD true
    let spaces := (c.rest.takeWhile (· == ' ')).length
    let c := c.skip ((columns.map fun n => min spaces (n - c.mark.column)).getD spaces)
    let deepest := max deepest c.mark.column
    match c.rest with
    | [] => some (deepest, breaks, c)
    | x :: _ =>
      if wanted c.mark.column && x == '\t' then none
      else if isBreak x then
        let (b, c) := c.takeBreak
        readIndentation columns fuel deepest (breaks ++ b) c
      else some (deepest, breaks, c)

/-- A block of lines while it is read. -/
structure Block where
  text : List Char := []
  /-- The end of the last line. -/
  ending : List Char := []
  /-- The ends of the empty lines after it. -/
  breaks : List Char := []
  /-- Whether the last line starts with a blank. -/
  blank : Bool := false
  deriving DecidableEq, Repr, Inhabited

/-- Reads the lines of a block that start at the column `columns`. A folded block joins two lines
unless one of them starts with a blank. -/
def readLines (folded : Bool) (columns : Nat) : Nat → Block → Cursor → Option (Block × Cursor)
  | 0, b, c => some (b, c)
  | fuel + 1, b, c =>
    match c.rest with
    | [] => some (b, c)
    | x :: _ =>
      if c.mark.column ≠ columns then some (b, c)
      else
        let joined := folded && b.ending = ['\n'] && !b.blank && !isGap x
        let between := if !joined then b.ending else if b.breaks.isEmpty then [' '] else []
        let (line, c) := c.takeWhile fun x => !isBreak x
        let (ending, c) := c.takeBreak
        match readIndentation (some columns) (c.rest.length + 1) 0 [] c with
        | none => none
        | some (_, breaks, c) =>
          readLines folded columns fuel
            ⟨b.text ++ between ++ b.breaks ++ line, ending, breaks, isGap x⟩ c

/-- Reads a block from after its indicator; `parent` is the column of the collection it stands in,
if there is one. -/
def readBlock (folded : Bool) (parent : Option Nat) (c : Cursor) : Option (String × Cursor) := do
  let (chomping, columns, c) ← readBlockHeader c
  let c ← c.endLine?
  let known := columns.map fun n => parent.getD 0 + n
  let (deepest, breaks, c) ← readIndentation known (c.rest.length + 1) 0 [] c
  let least := (parent.map (· + 1)).getD 0
  let columns := known.getD (max (max deepest least) 1)
  let (b, c) ← readLines folded columns (c.rest.length + 1) { breaks } c
  let tail := match chomping with
    | .strip => []
    | .clip => b.ending
    | .keep => b.ending ++ b.breaks
  return (String.ofList (b.text ++ tail), c)

end RouteWorks.Yaml
