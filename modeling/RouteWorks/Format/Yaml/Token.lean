import RouteWorks.Format.Yaml.Scalar
import RouteWorks.Text.Runs
import RouteWorks.Text.Utf8

/-!
# Tokens of YAML

Columns become tokens that open and close block collections. A mapping key is known to be one only
when its colon comes, so the place of every possible key is remembered, and the token for it is put
there later.
-/

namespace RouteWorks.Yaml

/-- A token. -/
inductive Token where
  | version (major minor : Nat)
  /-- A handle for tags and what it stands for. -/
  | handle (name start : String)
  | documentStart | documentEnd
  | blockSequence | blockMapping | blockEnd
  | openSequence | closeSequence | openMapping | closeMapping
  /-- The dash before an item. -/
  | item
  | comma | key | value
  | alias (name : String)
  | anchor (name : String)
  /-- A tag: its handle and the rest of it. -/
  | tag (handle suffix : String)
  | scalar (style : Style) (text : String)
  deriving DecidableEq, Repr, Inhabited

/-- A place where a key may have begun. -/
structure Candidate where
  /-- The number of tokens before it. -/
  place : Nat
  /-- Whether nothing but a key can stand there. -/
  required : Bool
  mark : Mark
  deriving DecidableEq, Repr, Inhabited

/-- The state of the tokenizer. -/
structure Lexer where
  cursor : Cursor
  tokens : Array Token := #[]
  /-- The columns of the open block collections, innermost first. -/
  columns : List Nat := []
  /-- The possible keys: of the innermost flow collection first, of no flow collection last. -/
  candidates : List (Option Candidate) := [none]
  /-- Whether a key may begin here. -/
  keyAllowed : Bool := true
  deriving Repr, Inhabited

namespace Lexer

/-- Whether the place is in a flow collection. -/
def inFlow (l : Lexer) : Bool := 1 < l.candidates.length

/-- The column of the place. -/
def column (l : Lexer) : Nat := l.cursor.mark.column

/-- Adds a token that takes `n` characters. -/
def push (l : Lexer) (t : Token) (n : Nat) : Lexer :=
  { l with tokens := l.tokens.push t, cursor := l.cursor.skip n }

/-- Closes the block collections that are deeper than a column; all of them without one. -/
def closeTo (l : Lexer) (column : Option Nat) : Lexer :=
  if l.inFlow then l
  else
    let isDeeper (n : Nat) : Bool := (column.map fun c => decide (c < n)).getD true
    let closed := l.columns.takeWhile isDeeper
    { l with
      columns := l.columns.dropWhile isDeeper
      tokens := l.tokens ++ closed.map fun _ => Token.blockEnd }

/-- Opens a block collection at a column that is deeper than the open ones; its token goes to the
place `place`. -/
def openAt (l : Lexer) (column place : Nat) (t : Token) : Lexer :=
  if l.inFlow || (l.columns.head?.map fun c => decide (column ≤ c)).getD false then l
  else { l with columns := column :: l.columns, tokens := l.tokens.insertIdxIfInBounds place t }

/-- Gives up the possible key of the innermost flow collection. -/
def dropCandidate (l : Lexer) : Option Lexer :=
  match l.candidates with
  | some k :: rest => if k.required then none else some { l with candidates := none :: rest }
  | _ => some l

/-- Gives up the possible keys that are on another line or too far away. -/
def dropStale (l : Lexer) : Option Lexer := do
  let isStale (k : Candidate) : Bool :=
    k.mark.line < l.cursor.mark.line || k.mark.index + 1024 < l.cursor.mark.index
  let candidates ← l.candidates.mapM fun
    | some k => if isStale k then if k.required then none else some none else some (some k)
    | none => some none
  return { l with candidates }

/-- Remembers that a key may begin here. -/
def remember (l : Lexer) : Option Lexer :=
  if l.keyAllowed then do
    let l ← l.dropCandidate
    let required := !l.inFlow && l.columns.head? = some l.column
    return { l with
      candidates := some ⟨l.tokens.size, required, l.cursor.mark⟩ :: l.candidates.drop 1 }
  else some l

/-- Goes over blanks, comments and ends of lines. Tabs may not stand where a block key may begin.
The fuel bounds the number of lines. -/
def skipBlanks : Nat → Lexer → Lexer
  | 0, l => l
  | fuel + 1, l =>
    let c := l.cursor.skipWhile fun x => x == ' ' || (x == '\t' && (l.inFlow || !l.keyAllowed))
    let c := if c.rest.head? = some '#' then c.skipWhile fun x => !isBreak x else c
    match c.rest with
    | [] => { l with cursor := c }
    | x :: _ =>
      if isBreak x then
        skipBlanks fuel { l with cursor := c.takeBreak.2, keyAllowed := l.keyAllowed || !l.inFlow }
      else { l with cursor := c }

/-- Whether a character can stand in a tag. -/
def isTagChar (c : Char) : Bool :=
  isNameChar c || [';', '/', '?', ':', '@', '&', '=', '+', '$', '.', '!', '~', '*', '\'', '(',
    ')'].contains c

/-- The octets of a run of escapes with a percent sign. -/
def readOctets : List Char → Option (List UInt8 × List Char)
  | '%' :: a :: b :: rest => do
    let n ← Text.hexNumber? [a, b]
    let (more, rest) ← readOctets rest
    return (UInt8.ofNat n :: more, rest)
  | '%' :: _ => none
  | cs => some ([], cs)

/-- The characters of a tag; in angle brackets those of flow collections can be among them. -/
def readTagText (angled : Bool) : Nat → List Char → List Char → Option (List Char × List Char)
  | 0, acc, cs => some (acc, cs)
  | fuel + 1, acc, cs =>
    match cs with
    | '%' :: _ =>
      match readOctets cs with
      | none => none
      | some (octets, rest) =>
        match Text.ofUtf8? octets with
        | none => none
        | some s => readTagText angled fuel (acc ++ s.toList) rest
    | c :: rest =>
      if isTagChar c || (angled && (c == ',' || c == '[' || c == ']')) then
        readTagText angled fuel (acc ++ [c]) rest
      else some (acc, cs)
    | [] => some (acc, cs)

/-- The handle at the front of a tag: names between exclamation marks, where the second mark may be
missing. -/
def readHandle : List Char → Option (List Char × List Char)
  | '!' :: rest =>
    let name := rest.takeWhile isNameChar
    match rest.dropWhile isNameChar with
    | '!' :: after => some ('!' :: name ++ ['!'], after)
    | after => some ('!' :: name, after)
  | _ => none

/-- Reads a tag. -/
def readTag (flow : Bool) (cs : List Char) : Option (Token × List Char) := do
  let (t, rest) ← match cs with
    | '!' :: '<' :: rest => do
      let (suffix, rest) ← readTagText true (rest.length + 1) [] rest
      if suffix.isEmpty ∨ rest.head? ≠ some '>' then none
      pure (Token.tag "" (String.ofList suffix), rest.drop 1)
    | _ => do
      let (handle, rest) ← readHandle cs
      if 1 < handle.length ∧ handle.getLast? = some '!' then
        let (suffix, rest) ← readTagText false (rest.length + 1) [] rest
        if suffix.isEmpty then none
        pure (Token.tag (String.ofList handle) (String.ofList suffix), rest)
      else
        let (suffix, rest) ← readTagText false (rest.length + 1) (handle.drop 1) rest
        pure (if suffix.isEmpty then .tag "" "!" else .tag "!" (String.ofList suffix), rest)
  if isEdge rest || (flow && rest.head? = some ',') then return (t, rest) else none

/-- Reads a directive from after its percent sign up to the end of its line. -/
def readDirective (c : Cursor) : Option (Token × Cursor) := do
  let (name, c) := c.takeWhile isNameChar
  if !isEdge c.rest then none
  let c := c.skipWhile isGap
  if name = "YAML".toList then
    let (major, c) := c.takeWhile Char.isDigit
    if c.rest.head? ≠ some '.' then none
    let (minor, c) := (c.skip 1).takeWhile Char.isDigit
    if major.isEmpty || minor.isEmpty || 9 < major.length || 9 < minor.length then none
    return (.version (Text.decimal major) (Text.decimal minor), ← c.endLine?)
  else if name = "TAG".toList then
    let (handle, rest) ← readHandle c.rest
    if handle ≠ ['!'] ∧ handle.getLast? ≠ some '!' then none
    if !(rest.head?.map isGap).getD false then none
    let c := (c.skip handle.length).skipWhile isGap
    let (start, rest) ← readTagText true (c.rest.length + 1) [] c.rest
    if start.isEmpty || !isEdge rest then none
    let c ← (c.skip (c.rest.length - rest.length)).endLine?
    return (.handle (String.ofList handle) (String.ofList start), c)
  else none

/-- Reads the name of an anchor or an alias from after its sign. -/
def readName (c : Cursor) : Option (String × Cursor) :=
  let (name, c) := c.takeWhile isNameChar
  let isEnd := isEdge c.rest || (c.rest.head?.map fun x =>
    ['?', ':', ',', ']', '\x7d', '%', '@', '\x60'].contains x).getD false
  if name.isEmpty || !isEnd then none else some (String.ofList name, c)

/-- Adds a token that can be a key. -/
def pushContent (l : Lexer) (t : Token) (c : Cursor) : Option Lexer := do
  let l ← l.remember
  return { l with tokens := l.tokens.push t, cursor := c, keyAllowed := false }

/-- Adds a token that opens a flow collection. -/
def openFlow (l : Lexer) (t : Token) : Option Lexer := do
  let l ← l.remember
  let l := l.push t 1
  return { l with candidates := none :: l.candidates, keyAllowed := true }

/-- Adds a token that closes a flow collection. -/
def closeFlow (l : Lexer) (t : Token) : Option Lexer := do
  let l ← l.dropCandidate
  let l := l.push t 1
  return { l with
    candidates := if l.inFlow then l.candidates.drop 1 else l.candidates
    keyAllowed := false }

/-- Adds the dash before an item. -/
def takeItem (l : Lexer) : Option Lexer := do
  if !l.inFlow && !l.keyAllowed then none
  let l := l.openAt l.column l.tokens.size .blockSequence
  let l ← l.dropCandidate
  return { l.push .item 1 with keyAllowed := true }

/-- Adds the question mark before a key. -/
def takeKey (l : Lexer) : Option Lexer := do
  if !l.inFlow && !l.keyAllowed then none
  let l := l.openAt l.column l.tokens.size .blockMapping
  let l ← l.dropCandidate
  return { l.push .key 1 with keyAllowed := !l.inFlow }

/-- Adds the colon before a value. What could have been a key before it is one. -/
def takeValue (l : Lexer) : Option Lexer :=
  match l.candidates with
  | some k :: rest =>
    let l := { l with
      candidates := none :: rest
      tokens := l.tokens.insertIdxIfInBounds k.place .key }
    let l := l.openAt k.mark.column k.place .blockMapping
    some { l.push .value 1 with keyAllowed := false }
  | _ =>
    if !l.inFlow && !l.keyAllowed then none
    else
      let l := l.openAt l.column l.tokens.size .blockMapping
      some { l.push .value 1 with keyAllowed := !l.inFlow }

/-- Adds a plain scalar. -/
def takePlain (l : Lexer) : Option Lexer := do
  let l ← l.remember
  let least := (l.columns.head?.map (· + 1)).getD 0
  let p ← readPlain l.inFlow least (l.cursor.rest.length + 1) [] {} l.cursor
  return { l with
    tokens := l.tokens.push (.scalar .plain p.text), cursor := p.cursor, keyAllowed := p.broken }

/-- Adds a block of lines. -/
def takeBlock (l : Lexer) (folded : Bool) : Option Lexer := do
  let l ← l.dropCandidate
  let (s, c) ← readBlock folded l.columns.head? (l.cursor.skip 1)
  return { l with
    tokens := l.tokens.push (.scalar (if folded then .folded else .literal) s)
    cursor := c
    keyAllowed := true }

/-- Whether a character can begin a plain scalar whatever follows it. -/
def startsPlain (c : Char) : Bool :=
  !(isFlowMark c || ['-', '?', ':', '#', '&', '*', '!', '|', '>', '\'', '"', '%', '@',
    '\x60'].contains c)

/-- Adds the token that begins at a character. -/
def takeToken (l : Lexer) (x : Char) (rest : List Char) : Option Lexer :=
  let c := l.cursor
  if c.mark.column == 0 && x == '%' then do
    let l ← (l.closeTo none).dropCandidate
    let (t, c) ← readDirective (c.skip 1)
    return { l with tokens := l.tokens.push t, cursor := c, keyAllowed := false }
  else if c.atDocumentMark then do
    let l ← (l.closeTo none).dropCandidate
    return { l.push (if x == '-' then .documentStart else .documentEnd) 3 with keyAllowed := false }
  else if x == '[' then l.openFlow .openSequence
  else if x == '\x7b' then l.openFlow .openMapping
  else if x == ']' then l.closeFlow .closeSequence
  else if x == '\x7d' then l.closeFlow .closeMapping
  else if x == ',' then do
    let l ← l.dropCandidate
    return { l.push .comma 1 with keyAllowed := true }
  else if x == '-' && isEdge rest then l.takeItem
  else if x == '?' && (l.inFlow || isEdge rest) then l.takeKey
  else if x == ':' && (l.inFlow || isEdge rest) then l.takeValue
  else if x == '*' then do
    let (name, c) ← readName (c.skip 1)
    l.pushContent (.alias name) c
  else if x == '&' then do
    let (name, c) ← readName (c.skip 1)
    l.pushContent (.anchor name) c
  else if x == '!' then do
    let (t, after) ← readTag l.inFlow c.rest
    l.pushContent t (c.skip (c.rest.length - after.length))
  else if (x == '|' || x == '>') && !l.inFlow then l.takeBlock (x == '>')
  else if x == '\'' || x == '"' then do
    let (s, c) ← readQuoted x (c.rest.length + 1) [] (c.skip 1)
    l.pushContent (.scalar .quoted s) c
  else if startsPlain x || (x == '-' && !(rest.head?.map isGap).getD false)
      || (!l.inFlow && (x == '?' || x == ':') && !isEdge rest) then l.takePlain
  else none

/-- Adds tokens to the end of the text; the fuel bounds their number. -/
def run : Nat → Lexer → Option Lexer
  | 0, _ => none
  | fuel + 1, l => do
    let l ← (skipBlanks (l.cursor.rest.length + 1) l).dropStale
    let l := l.closeTo (some l.column)
    match l.cursor.rest with
    | [] => (l.closeTo none).dropCandidate
    | x :: rest => run fuel (← l.takeToken x rest)

end Lexer

/-- The tokens of a text. A byte order mark in front does not count. -/
def tokens (s : String) : Option (List Token) := do
  let cs := s.toList
  if !cs.all isPrintable then none
  let cs := if cs.head? = some '\ufeff' then cs.drop 1 else cs
  let l ← Lexer.run (cs.length + 1) { cursor := ⟨cs, {}⟩ }
  return l.tokens.toList

end RouteWorks.Yaml
