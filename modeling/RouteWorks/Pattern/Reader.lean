import RouteWorks.Pattern.Basic
import RouteWorks.Text.Hex
import RouteWorks.Text.Split

/-!
# Reading regular expressions

The notation of regular expressions: alternatives, groups with flags and names, bounded and
unbounded repetition, classes with set operations, escapes and assertions. There are neither
backreferences nor look-around.
-/

namespace RouteWorks.Pattern

/-- What the flags of a group change. -/
structure Flags where
  ignoreCase : Bool := false
  multiLine : Bool := false
  dotAll : Bool := false
  carriage : Bool := false
  /-- Blanks and comments between the parts do not count. -/
  verbose : Bool := false
  /-- Classes and boundaries know characters below U+0080 only. -/
  ascii : Bool := false
  deriving DecidableEq, Repr, Inhabited

/-- An expression as it is read. -/
structure Part where
  expr : Expr
  /-- How deep containers nest in it. -/
  depth : Nat := 0
  /-- Whether it can be repeated. -/
  repeatable : Bool := true
  deriving DecidableEq, Repr, Inhabited

/-- Skips blanks and comments where they do not count. -/
def skipVerbose (flags : Flags) (cs : List Char) : List Char :=
  if flags.verbose then go false cs else cs
where
  /-- Skips; `comment` says that a comment has started. -/
  go (comment : Bool) : List Char → List Char
    | [] => []
    | c :: rest =>
      if comment then go (c ≠ '\n') rest
      else if Text.isBlank c then go false rest
      else if c == '#' then go true rest
      else c :: rest

/-- The characters with a meaning outside of escapes. -/
def isMeta (c : Char) : Bool :=
  ['\\', '.', '+', '*', '?', '(', ')', '|', '[', ']', '\x7b', '\x7d', '^', '$', '#', '&', '-',
    '~'].contains c

/-- What a backslash and what follows it stand for. -/
inductive Escaped where
  | char (c : Char)
  | set (c : CharClass)
  | assertion (a : Assertion)
  deriving DecidableEq, Repr, Inhabited

/-- A character written by its code point: `count` digits, or any number of them in braces. -/
def readCode (count : Nat) (cs : List Char) : Option (Char × List Char) :=
  match cs with
  | '\x7b' :: rest => do
    let (digits, rest) ← Text.cutAt? (· == '\x7d') rest
    let c ← Text.scalar? (← Text.hexNumber? digits)
    return (c, rest)
  | _ => Text.readCode count cs

/-- The general categories by loose name, short or long. -/
def categoryNames : List (String × List Text.Category) :=
  [("lu", [.uppercaseLetter]), ("uppercaseletter", [.uppercaseLetter]),
   ("ll", [.lowercaseLetter]), ("lowercaseletter", [.lowercaseLetter]),
   ("lt", [.titlecaseLetter]), ("titlecaseletter", [.titlecaseLetter]),
   ("lc", cased), ("casedletter", cased), ("l&", cased),
   ("lm", [.modifierLetter]), ("modifierletter", [.modifierLetter]),
   ("lo", [.otherLetter]), ("otherletter", [.otherLetter]),
   ("l", letters), ("letter", letters),
   ("mn", [.nonspacingMark]), ("nonspacingmark", [.nonspacingMark]),
   ("mc", [.spacingMark]), ("spacingmark", [.spacingMark]),
   ("me", [.enclosingMark]), ("enclosingmark", [.enclosingMark]),
   ("m", marks), ("mark", marks), ("combiningmark", marks),
   ("nd", [.decimalNumber]), ("decimalnumber", [.decimalNumber]), ("digit", [.decimalNumber]),
   ("nl", [.letterNumber]), ("letternumber", [.letterNumber]),
   ("no", [.otherNumber]), ("othernumber", [.otherNumber]),
   ("n", numbers), ("number", numbers),
   ("pc", [.connectorPunctuation]), ("connectorpunctuation", [.connectorPunctuation]),
   ("pd", [.dashPunctuation]), ("dashpunctuation", [.dashPunctuation]),
   ("ps", [.openPunctuation]), ("openpunctuation", [.openPunctuation]),
   ("pe", [.closePunctuation]), ("closepunctuation", [.closePunctuation]),
   ("pi", [.initialPunctuation]), ("initialpunctuation", [.initialPunctuation]),
   ("pf", [.finalPunctuation]), ("finalpunctuation", [.finalPunctuation]),
   ("po", [.otherPunctuation]), ("otherpunctuation", [.otherPunctuation]),
   ("p", punctuation), ("punctuation", punctuation), ("punct", punctuation),
   ("sm", [.mathSymbol]), ("mathsymbol", [.mathSymbol]),
   ("sc", [.currencySymbol]), ("currencysymbol", [.currencySymbol]),
   ("sk", [.modifierSymbol]), ("modifiersymbol", [.modifierSymbol]),
   ("so", [.otherSymbol]), ("othersymbol", [.otherSymbol]),
   ("s", symbols), ("symbol", symbols),
   ("zs", [.spaceSeparator]), ("spaceseparator", [.spaceSeparator]),
   ("zl", [.lineSeparator]), ("lineseparator", [.lineSeparator]),
   ("zp", [.paragraphSeparator]), ("paragraphseparator", [.paragraphSeparator]),
   ("z", separators), ("separator", separators),
   ("cc", [.control]), ("control", [.control]), ("cntrl", [.control]),
   ("cf", [.format]), ("format", [.format]), ("co", [.privateUse]), ("privateuse", [.privateUse]),
   ("cn", [.unassigned]), ("unassigned", [.unassigned]),
   ("cs", [.surrogate]), ("surrogate", [.surrogate]),
   ("c", others), ("other", others)]
where
  /-- Letters with case. -/
  cased : List Text.Category := [.uppercaseLetter, .lowercaseLetter, .titlecaseLetter]
  /-- Letters. -/
  letters : List Text.Category := cased ++ [.modifierLetter, .otherLetter]
  /-- Marks. -/
  marks : List Text.Category := [.nonspacingMark, .spacingMark, .enclosingMark]
  /-- Numbers. -/
  numbers : List Text.Category := [.decimalNumber, .letterNumber, .otherNumber]
  /-- Punctuation. -/
  punctuation : List Text.Category :=
    [.connectorPunctuation, .dashPunctuation, .openPunctuation, .closePunctuation,
     .initialPunctuation, .finalPunctuation, .otherPunctuation]
  /-- Symbols. -/
  symbols : List Text.Category := [.mathSymbol, .currencySymbol, .modifierSymbol, .otherSymbol]
  /-- Separators. -/
  separators : List Text.Category := [.spaceSeparator, .lineSeparator, .paragraphSeparator]
  /-- Everything else. -/
  others : List Text.Category := [.control, .format, .surrogate, .privateUse, .unassigned]

/-- The class of a property that is named alone. -/
def property? (name : String) : Option CharClass :=
  let name := if Text.startsWith name "is" ∧ name ≠ "isc" then String.ofList (name.toList.drop 2)
    else name
  match name with
  | "any" => some .any
  | "ascii" => some (.range 0 127)
  | "assigned" => some (.compl (.category [.unassigned]))
  | "alphabetic" | "alpha" => some .alphabetic
  | "uppercase" | "upper" => some .uppercase
  | "lowercase" | "lower" => some .lowercase
  | "whitespace" | "wspace" | "space" => some .blank
  | _ =>
    match categoryNames.lookup name with
    | some members => some (.category members)
    | none => (Text.scriptCodes.lookup name).map .script

/-- The class that the text in the braces of a property names. -/
def readProperty? (text : List Char) : Option CharClass :=
  let s := String.ofList text
  match Text.cutAt? (fun c => c == '=' || c == ':') text with
  | none => property? (Text.looseName s)
  | some (key, value) =>
    let negated := key.getLast? == some '!'
    let key := Text.looseName (String.ofList (if negated then key.dropLast else key))
    let value := Text.looseName (String.ofList value)
    let found : Option CharClass := match key with
      | "gc" | "generalcategory" => (categoryNames.lookup value).map .category
      | "sc" | "script" | "scx" | "scriptextensions" => (Text.scriptCodes.lookup value).map .script
      | _ => none
    found.map fun c => if negated then .compl c else c

/-- The complement of a class when asked for. Without the characters above U+007F a complement
could match half a character, so there is none. -/
def negateIf (flags : Flags) (negated : Bool) (c : CharClass) : Option CharClass :=
  if !negated then some c
  else if flags.ascii then none
  else some (.compl c)

/-- A class with the case variants of its members when case does not count. -/
def foldIf (flags : Flags) (c : CharClass) : CharClass :=
  if flags.ignoreCase then .fold c else c

/-- What follows the letter of a property escape: one letter, or a name in braces. -/
def readPropertyEscape (flags : Flags) (negated : Bool) (cs : List Char) :
    Option (Escaped × List Char) := do
  if flags.ascii then none
  let (text, rest) ← match cs with
    | '\x7b' :: rest => Text.cutAt? (· == '\x7d') rest
    | c :: rest => if c == '\\' then none else some ([c], rest)
    | [] => none
  let (inverted, text) := match text with
    | '^' :: text => (true, text)
    | text => (false, text)
  let c := foldIf flags (← readProperty? text)
  let c ← negateIf flags (negated != inverted) c
  return (.set c, rest)

/-- The words that can follow `\b` in braces. -/
def boundaryWord? (ascii : Bool) : String → Option Assertion
  | "start" => some (.wordStart ascii)
  | "end" => some (.wordEnd ascii)
  | "start-half" => some (.wordStartHalf ascii)
  | "end-half" => some (.wordEndHalf ascii)
  | _ => none

/-- A word boundary, with what may follow it in braces. Braces that hold something else repeat the
boundary. -/
def readBoundary (flags : Flags) (cs : List Char) : Option (Escaped × List Char) :=
  match cs with
  | '\x7b' :: rest =>
    match rest.head? with
    | some c =>
      if c.isAlpha || c == '-' then do
        let (word, rest) ← Text.cutAt? (· == '\x7d') rest
        let a ← boundaryWord? flags.ascii (String.ofList word)
        return (.assertion a, rest)
      else some (.assertion (.boundary flags.ascii), cs)
    | none => none
  | _ => some (.assertion (.boundary flags.ascii), cs)

/-- What follows a backslash. -/
def readEscape (flags : Flags) (cs : List Char) : Option (Escaped × List Char) :=
  match cs with
  | [] => none
  | c :: rest =>
    let plain (d : Char) : Option (Escaped × List Char) := some (.char d, rest)
    let set (negated : Bool) (a b : CharClass) : Option (Escaped × List Char) :=
      (negateIf flags negated (if flags.ascii then a else b)).map fun k => (.set k, rest)
    match c with
    | 'x' => (readCode 2 rest).map fun (d, rest) => (.char d, rest)
    | 'u' => (readCode 4 rest).map fun (d, rest) => (.char d, rest)
    | 'U' => (readCode 8 rest).map fun (d, rest) => (.char d, rest)
    | 'p' => readPropertyEscape flags false rest
    | 'P' => readPropertyEscape flags true rest
    | 'd' => set false .asciiDigit .digit
    | 'D' => set true .asciiDigit .digit
    | 's' => set false .asciiBlank .blank
    | 'S' => set true .asciiBlank .blank
    | 'w' => set false .asciiWord .word
    | 'W' => set true .asciiWord .word
    | 'a' => plain '\x07'
    | 'f' => plain '\x0c'
    | 't' => plain '\t'
    | 'n' => plain '\n'
    | 'r' => plain '\r'
    | 'v' => plain '\x0b'
    | 'A' => some (.assertion .textStart, rest)
    | 'z' => some (.assertion .textEnd, rest)
    | 'b' => readBoundary flags rest
    | 'B' => some (.assertion (.notBoundary flags.ascii), rest)
    | '<' => some (.assertion (.wordStart flags.ascii), rest)
    | '>' => some (.assertion (.wordEnd flags.ascii), rest)
    | c => if c.toNat < 128 && !c.isAlphanum then plain c else none

/-- A character that stands for itself. Without the characters above U+007F it has to be one
below. -/
def readPlain (flags : Flags) (c : Char) : Option CharClass :=
  if flags.ascii && 128 ≤ c.toNat then none else some (.single c)

/-- The classes that are named inside brackets. -/
def bracketName? : String → Option CharClass
  | "alnum" => some (.ranges [(48, 57), (65, 90), (97, 122)])
  | "alpha" => some (.ranges [(65, 90), (97, 122)])
  | "ascii" => some (.range 0 127)
  | "blank" => some (.ranges [(9, 9), (32, 32)])
  | "cntrl" => some (.ranges [(0, 31), (127, 127)])
  | "digit" => some (.range 48 57)
  | "graph" => some (.range 33 126)
  | "lower" => some (.range 97 122)
  | "print" => some (.range 32 126)
  | "punct" => some (.ranges [(33, 47), (58, 64), (91, 96), (123, 126)])
  | "space" => some .asciiBlank
  | "upper" => some (.range 65 90)
  | "word" => some .asciiWord
  | "xdigit" => some (.ranges [(48, 57), (65, 70), (97, 102)])
  | _ => none

/-- A named class inside brackets, from after its opening bracket. -/
def readBracketName (flags : Flags) (cs : List Char) : Option (CharClass × List Char) := do
  let rest ← Text.stripStart? [':'] cs
  let (inverted, rest) := match rest with
    | '^' :: rest => (true, rest)
    | rest => (false, rest)
  let (name, rest) ← Text.cutAt? (· == ':') rest
  let rest ← Text.stripStart? [']'] rest
  let c ← bracketName? (String.ofList name)
  let c ← negateIf flags inverted (foldIf flags c)
  return (c, rest)

/-- An operation between the sets of a class. -/
inductive SetOp where
  | inter | diff | symmetric
  deriving DecidableEq, Repr, Inhabited

/-- The set that an operation makes of two. -/
def SetOp.apply : SetOp → CharClass → CharClass → CharClass
  | inter, a, b => .inter a b
  | diff, a, b => .inter a (.compl b)
  | symmetric, a, b => .union (.inter a (.compl b)) (.inter b (.compl a))

/-- A set inside brackets so far: the operation still to be done, and the members read since. -/
structure SetSoFar where
  pending : Option (CharClass × SetOp) := none
  members : CharClass := .none
  deriving DecidableEq, Repr, Inhabited

/-- The set that the operation makes with what was read. -/
def SetSoFar.close (flags : Flags) (s : SetSoFar) : CharClass :=
  match s.pending with
  | none => s.members
  | some (a, op) => op.apply a (foldIf flags s.members)

/-- One item of a class: a character or a set. -/
def readItem (flags : Flags) (cs : List Char) : Option (Char ⊕ CharClass) × List Char :=
  match cs with
  | '\\' :: rest =>
    match readEscape flags rest with
    | some (.char c, rest) => (some (.inl c), rest)
    | some (.set c, rest) => (some (.inr c), rest)
    | _ => (none, rest)
  | c :: rest => (some (.inl c), rest)
  | [] => (none, [])

/-- Hyphens in front of a class stand for themselves, and so does a closing bracket in front. -/
def readClassStart (flags : Flags) (cs : List Char) : CharClass × List Char :=
  let hyphens := cs.takeWhile (· == '-')
  let rest := skipVerbose flags (cs.dropWhile (· == '-'))
  if !hyphens.isEmpty then (.single '-', rest)
  else match rest with
    | ']' :: rest => (.single ']', skipVerbose flags rest)
    | _ => (.none, rest)

/-- The rest of a class from after its opening bracket. The result holds the class, how deep
brackets nest in it, and what follows its closing bracket; the fuel bounds the number of items. -/
def readClass (flags : Flags) : Nat → List Char → Option (CharClass × Nat × List Char)
  | 0, _ => none
  | fuel + 1, cs =>
    let cs := skipVerbose flags cs
    let (negated, cs) := match cs with
      | '^' :: rest => (true, skipVerbose flags rest)
      | _ => (false, cs)
    let (first, cs) := readClassStart flags cs
    items negated { members := first } 1 fuel cs
where
  /-- Reads items up to the closing bracket. -/
  items (negated : Bool) (s : SetSoFar) (depth : Nat) :
      Nat → List Char → Option (CharClass × Nat × List Char)
    | 0, _ => none
    | fuel + 1, cs =>
      let add (c : CharClass) (depth : Nat) (rest : List Char) :=
        items negated { s with members := .union s.members c } depth fuel rest
      let operate (op : SetOp) (rest : List Char) :=
        items negated { pending := some (s.close flags, op) } (depth + 1) fuel rest
      match skipVerbose flags cs with
      | [] => none
      | ']' :: rest => (negateIf flags negated (foldIf flags (s.close flags))).map (·, depth, rest)
      | '&' :: '&' :: rest => operate .inter rest
      | '-' :: '-' :: rest => operate .diff rest
      | '~' :: '~' :: rest => operate .symmetric rest
      | '[' :: rest =>
        match readBracketName flags rest with
        | some (c, rest) => add c depth rest
        | none =>
          let rest := skipVerbose flags rest
          let (inner, rest) := match rest with
            | '^' :: rest => (true, skipVerbose flags rest)
            | _ => (false, rest)
          let (first, rest) := readClassStart flags rest
          match items inner { members := first } 1 fuel rest with
          | none => none
          | some (c, below, rest) => add c (max depth (below + 1)) rest
      | cs =>
        match readItem flags cs with
        | (none, _) => none
        | (some (.inr c), rest) =>
          match skipVerbose flags rest with
          | '-' :: after =>
            match skipVerbose flags after with
            | ']' :: _ | '-' :: _ => add c depth rest
            | _ => none
          | _ => add c depth rest
        | (some (.inl lo), rest) =>
          let single := (readPlain flags lo).bind fun c => add c depth rest
          match skipVerbose flags rest with
          | '-' :: after =>
            match skipVerbose flags after with
            | [] => none
            | ']' :: _ | '-' :: _ => single
            | after =>
              match readItem flags after with
              | (some (.inl hi), rest) =>
                if lo ≤ hi && !(flags.ascii && 128 ≤ hi.toNat)
                then add (.range lo.toNat hi.toNat) depth rest else none
              | _ => none
          | _ => single

/-- Sets one flag. -/
def Flags.set (f : Flags) (on : Bool) : Char → Option Flags
  | 'i' => some { f with ignoreCase := on }
  | 'm' => some { f with multiLine := on }
  | 's' => some { f with dotAll := on }
  | 'R' => some { f with carriage := on }
  | 'x' => some { f with verbose := on }
  | 'u' => some { f with ascii := !on }
  | 'U' => some f
  | _ => none

/-- Reads flags up to the end of a flag group, which is a colon or a closing parenthesis. `seen`
holds the letters so far, and `minus` whether they are switched off and whether one was. -/
def readFlags (f : Flags) (seen : List Char) (minus : Option Bool) :
    List Char → Option (Flags × Bool × Bool × List Char)
  | [] => none
  | c :: rest =>
    if c == ':' || c == ')' then
      if minus == some false then none else some (f, c == ':', seen.isEmpty, rest)
    else if c == '-' then
      if minus.isSome then none else readFlags f seen (some false) rest
    else if seen.contains c then none
    else match f.set minus.isNone c with
      | none => none
      | some f => readFlags f (c :: seen) (minus.map fun _ => true) rest

/-- Whether a character may stand in the name of a group. -/
def isGroupNameChar (first : Bool) (c : Char) : Bool :=
  if first then c == '_' || Text.isAlphabetic c
  else c == '_' || c == '.' || c == '[' || c == ']' || Text.isAlphanumeric c

/-- The name of a group, up to its closing angle bracket. -/
def readGroupName (cs : List Char) : Option (String × List Char) := do
  let (name, rest) ← Text.cutAt? (· == '>') cs
  match name with
  | [] => none
  | c :: more =>
    if isGroupNameChar true c && more.all (isGroupNameChar false)
    then some (String.ofList name, rest) else none

/-- A count, with blanks around it. -/
def readCount (cs : List Char) : Option (Nat × List Char) :=
  let cs := cs.dropWhile Text.isBlank
  let digits := cs.takeWhile Char.isDigit
  let n := Text.decimal digits
  if digits.isEmpty || Nat.pow 2 32 ≤ n then none
  else some (n, (cs.dropWhile Char.isDigit).dropWhile Text.isBlank)

/-- The counts of a bounded repetition, from after its opening brace. -/
def readCounts (flags : Flags) (cs : List Char) : Option (Nat × Option Nat × List Char) := do
  let (least, rest) ← readCount (skipVerbose flags cs)
  match rest with
  | '\x7d' :: rest => some (least, some least, rest)
  | ',' :: rest =>
    match skipVerbose flags rest with
    | '\x7d' :: rest => some (least, none, rest)
    | rest =>
      let (most, rest) ← readCount rest
      match rest with
      | '\x7d' :: rest => if least ≤ most then some (least, some most, rest) else none
      | _ => none
  | _ => none

/-- Parts one after another, given backwards. -/
def sequence (parts : List Part) : Part :=
  match parts with
  | [] => { expr := .empty }
  | [p] => p
  | p :: ps =>
    { expr := ps.foldl (fun e q => .seq q.expr e) p.expr
      depth := 1 + (p :: ps).foldl (fun d q => max d q.depth) 0 }

/-- Alternatives, given backwards. -/
def alternatives (parts : List Part) : Part :=
  match parts with
  | [] => { expr := .empty }
  | [p] => p
  | p :: ps =>
    { expr := ps.foldl (fun e q => .alt q.expr e) p.expr
      depth := 1 + (p :: ps).foldl (fun d q => max d q.depth) 0 }

/-- Any character that a dot stands for. -/
def dotClass (flags : Flags) : Option CharClass :=
  if flags.ascii then none
  else if flags.dotAll then some .any
  else some (.compl (if flags.carriage then .ranges [(10, 10), (13, 13)] else .single '\n'))

/-- What starts a group: its flags, whether it only sets flags, and the names of groups so far. -/
inductive GroupStart where
  | group (flags : Flags) (names : List String) (rest : List Char)
  | setFlags (flags : Flags) (rest : List Char)

/-- What follows an opening parenthesis. -/
def readGroupStart (flags : Flags) (names : List String) (cs : List Char) : Option GroupStart :=
  let named (rest : List Char) : Option GroupStart := do
    let (name, rest) ← readGroupName rest
    if names.contains name then none else some (.group flags (name :: names) rest)
  match skipVerbose flags cs with
  | '?' :: 'P' :: '<' :: rest => named rest
  | '?' :: '<' :: rest => named rest
  | '?' :: rest => do
    let (inner, colon, unchanged, rest) ← readFlags flags [] none rest
    if colon then some (.group inner names rest)
    else if unchanged then none
    else some (.setFlags inner rest)
  | rest => some (.group flags names rest)

/-- Reads the parts of a group. `done` holds the alternatives so far and `parts` those of the last
one, both backwards; the result holds the group, the names in use and what follows it. -/
def readGroup (inside : Bool) (flags : Flags) (names : List String) (done parts : List Part) :
    Nat → List Char → Option (Part × List String × List Char)
  | 0, _ => none
  | fuel + 1, cs =>
    let close (rest : List Char) := some (alternatives (sequence parts :: done), names, rest)
    let add (p : Part) (rest : List Char) :=
      readGroup inside flags names done (p :: parts) fuel rest
    let set (c : Option CharClass) (rest : List Char) :=
      c.bind fun c => add { expr := .one c } rest
    let repeated (least : Nat) (most : Option Nat) (rest : List Char) :=
      match parts with
      | [] => none
      | p :: ps =>
        if !p.repeatable then none
        else
          let rest := match rest with
            | '?' :: rest => rest
            | rest => rest
          readGroup inside flags names done
            ({ expr := .repeated least most p.expr, depth := p.depth + 1 } :: ps) fuel rest
    match skipVerbose flags cs with
    | [] => if inside then none else close []
    | ')' :: rest => if inside then close rest else none
    | '|' :: rest => readGroup inside flags names (sequence parts :: done) [] fuel rest
    | '(' :: rest =>
      match readGroupStart flags names rest with
      | none => none
      | some (.setFlags flags rest) =>
        readGroup inside flags names done ({ expr := .empty, repeatable := false } :: parts)
          fuel rest
      | some (.group inner names rest) =>
        match readGroup true inner names [] [] fuel rest with
        | none => none
        | some (p, names, rest) =>
          readGroup inside flags names done ({ expr := p.expr, depth := p.depth + 1 } :: parts)
            fuel rest
    | '[' :: rest =>
      match readClass flags (2 * rest.length + 2) rest with
      | none => none
      | some (c, depth, rest) => add { expr := .one c, depth } rest
    | '.' :: rest => set (dotClass flags) rest
    | '^' :: rest =>
      add { expr := .look (if flags.multiLine then .lineStart flags.carriage else .textStart) } rest
    | '$' :: rest =>
      add { expr := .look (if flags.multiLine then .lineEnd flags.carriage else .textEnd) } rest
    | '*' :: rest => repeated 0 none rest
    | '+' :: rest => repeated 1 none rest
    | '?' :: rest => repeated 0 (some 1) rest
    | '\x7b' :: rest =>
      match readCounts flags rest with
      | none => none
      | some (least, most, rest) => repeated least most rest
    | '\\' :: rest =>
      match readEscape flags rest with
      | none => none
      | some (.char c, rest) => set ((readPlain flags c).map (foldIf flags)) rest
      | some (.set c, rest) => add { expr := .one c } rest
      | some (.assertion a, rest) => add { expr := .look a } rest
    | c :: rest => set ((readPlain flags c).map (foldIf flags)) rest

/-- The greatest depth of containers. -/
def depthLimit : Nat := 250

/-- The greatest size. -/
def sizeLimit : Nat := 10 * Nat.pow 2 20

/-- Reads a regular expression. -/
def ofText? (s : String) : Option Expr := do
  let cs := s.toList
  let (p, _, _) ← readGroup false {} [] [] [] (2 * cs.length + 2) cs
  if depthLimit < p.depth || sizeLimit < p.expr.size then none else some p.expr

/-- Whether a text is a regular expression. -/
def isValid (s : String) : Bool := (ofText? s).isSome

end RouteWorks.Pattern
