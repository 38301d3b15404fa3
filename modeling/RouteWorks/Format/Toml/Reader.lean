import RouteWorks.Format.Toml.Assembly
import RouteWorks.Number.Literal
import RouteWorks.Text.Hex
import RouteWorks.Text.Split

/-!
# Reading TOML

The notation of TOML, with line breaks and a comma at the end allowed in inline tables.
-/

namespace RouteWorks.Toml

/-- Skips spaces and tabs. -/
def skipSpaces (cs : List Char) : List Char := cs.dropWhile fun c => c == ' ' || c == '\t'

/-- Whether a control character may not be written as it is. -/
def isForbidden (c : Char) : Bool := c ≠ '\t' && (c.toNat < 32 || c.toNat == 127)

/-- Skips a comment up to the end of its line. -/
def skipComment : List Char → Option (List Char)
  | '#' :: rest =>
    let after := rest.dropWhile fun c => !isForbidden c
    match after with
    | [] | '\n' :: _ | '\r' :: '\n' :: _ => some after
    | _ => none
  | cs => some cs

/-- Skips the end of a line, if there is one. -/
def skipNewline? : List Char → Option (List Char)
  | '\n' :: rest => some rest
  | '\r' :: '\n' :: rest => some rest
  | _ => none

/-- Skips spaces, comments and ends of lines; the fuel bounds the number of lines. -/
def skipLines : Nat → List Char → Option (List Char)
  | 0, cs => some cs
  | fuel + 1, cs => do
    let cs ← skipComment (skipSpaces cs)
    match skipNewline? cs with
    | some rest => skipLines fuel rest
    | none => return cs

/-- The character that an escape writes, from after its backslash. -/
def readEscape : List Char → Option (Char × List Char)
  | 'b' :: rest => some ('\x08', rest)
  | 't' :: rest => some ('\t', rest)
  | 'n' :: rest => some ('\n', rest)
  | 'f' :: rest => some ('\x0c', rest)
  | 'r' :: rest => some ('\r', rest)
  | 'e' :: rest => some ('\x1b', rest)
  | '"' :: rest => some ('"', rest)
  | '\\' :: rest => some ('\\', rest)
  | 'x' :: rest => Text.readCode 2 rest
  | 'u' :: rest => Text.readCode 4 rest
  | 'U' :: rest => Text.readCode 8 rest
  | _ => none

/-- A basic text up to its closing quote. -/
def readBasic (acc : List Char) : Nat → List Char → Option (String × List Char)
  | 0, _ => none
  | fuel + 1, cs =>
    match cs with
    | '"' :: rest => some (String.ofList acc.reverse, rest)
    | '\\' :: rest => do
      let (c, rest) ← readEscape rest
      readBasic (c :: acc) fuel rest
    | c :: rest => if isForbidden c then none else readBasic (c :: acc) fuel rest
    | [] => none

/-- A literal text up to its closing quote. -/
def readLiteral (cs : List Char) : Option (String × List Char) := do
  let (inside, rest) ← Text.cutAt? (· == '\'') cs
  if inside.any isForbidden then none else some (String.ofList inside, rest)

/-- The end of a text in triple quotes: up to two more quotes belong to the text. -/
def closeTriple? (quote : Char) (cs : List Char) : Option (List Char × List Char) :=
  let quotes := cs.takeWhile (· == quote)
  if quotes.length < 3 || 5 < quotes.length then none
  else some (quotes.drop 3, cs.drop quotes.length)

/-- After a backslash at the end of a line, blanks and ends of lines do not count. -/
def skipFold? (cs : List Char) : Option (List Char) := do
  let rest ← skipNewline? (skipSpaces cs)
  return rest.dropWhile fun c => c == ' ' || c == '\t' || c == '\n' || c == '\r'

/-- A text in triple quotes up to its end. Ends of lines become line feeds. -/
def readTriple (quote : Char) (acc : List Char) : Nat → List Char → Option (String × List Char)
  | 0, _ => none
  | fuel + 1, cs =>
    match closeTriple? quote cs with
    | some (more, rest) => some (String.ofList (acc.reverse ++ more), rest)
    | none =>
      match cs with
      | '\r' :: '\n' :: rest => readTriple quote ('\n' :: acc) fuel rest
      | '\n' :: rest => readTriple quote ('\n' :: acc) fuel rest
      | '\\' :: rest =>
        if quote == '\'' then readTriple quote ('\\' :: acc) fuel rest
        else match skipFold? rest with
          | some rest => readTriple quote acc fuel rest
          | none =>
            match readEscape rest with
            | some (c, rest) => readTriple quote (c :: acc) fuel rest
            | none => none
      | c :: rest => if isForbidden c then none else readTriple quote (c :: acc) fuel rest
      | [] => none

/-- A line end right after the opening quotes does not count. -/
def dropFirstNewline (cs : List Char) : List Char := (skipNewline? cs).getD cs

/-- A text in quotes of any kind; `lines` says whether triple quotes are allowed. -/
def readText (lines : Bool) (cs : List Char) : Option (String × List Char) :=
  match cs with
  | '"' :: '"' :: '"' :: rest =>
    if lines then readTriple '"' [] (rest.length + 1) (dropFirstNewline rest) else none
  | '\'' :: '\'' :: '\'' :: rest =>
    if lines then readTriple '\'' [] (rest.length + 1) (dropFirstNewline rest) else none
  | '"' :: rest => readBasic [] (rest.length + 1) rest
  | '\'' :: rest => readLiteral rest
  | _ => none

/-- Whether a character can stand in a key without quotes. -/
def isKeyChar (c : Char) : Bool := c.isAlphanum || c == '_' || c == '-'

/-- One part of a key. -/
def readKeyPart (cs : List Char) : Option (String × List Char) :=
  match cs with
  | '"' :: _ | '\'' :: _ => readText false cs
  | _ =>
    let word := cs.takeWhile isKeyChar
    if word.isEmpty then none else some (String.ofList word, cs.dropWhile isKeyChar)

/-- A key: parts with dots between them, and spaces around everything. -/
def readKey : Nat → List Char → Option (List String × List Char)
  | 0, _ => none
  | fuel + 1, cs => do
    let (part, rest) ← readKeyPart (skipSpaces cs)
    match skipSpaces rest with
    | '.' :: rest =>
      let (parts, rest) ← readKey fuel rest
      return (part :: parts, rest)
    | rest => return ([part], rest)

/-- Digits with single underscores between them. -/
def readGrouped (isDigit : Char → Bool) (cs : List Char) : Option (List Char) :=
  let parts := Text.splitWhen (· == '_') cs
  if parts.all fun p => !p.isEmpty && p.all isDigit then some parts.flatten else none

/-- An integer in a base that a letter after a zero names. -/
def readBased? : List Char → Option Int
  | '0' :: 'x' :: ds => based 16 (fun c => (Text.hexDigit? c).isSome) ds
  | '0' :: 'o' :: ds => based 8 (fun c => '0' ≤ c && c ≤ '7') ds
  | '0' :: 'b' :: ds => based 2 (fun c => c == '0' || c == '1') ds
  | _ => none
where
  /-- The number that digits write in a base. -/
  based (base : Nat) (isDigit : Char → Bool) (ds : List Char) : Option Int := do
    let ds ← readGrouped isDigit ds
    let n ← ds.foldlM (fun n c => (Text.hexDigit? c).map (base * n + ·)) 0
    return n

/-- Decimal digits without superfluous zeros in front. -/
def readWhole? (cs : List Char) : Option (List Char) := do
  let ds ← readGrouped Char.isDigit cs
  match ds with
  | '0' :: _ :: _ => none
  | _ => some ds

/-- The sign of a number and what follows it. -/
def splitSign : List Char → Bool × List Char
  | '+' :: rest => (false, rest)
  | '-' :: rest => (true, rest)
  | cs => (false, cs)

/-- Whether a text is a number with a fraction or an exponent. -/
def isReal (cs : List Char) : Bool :=
  let (_, unsigned) := splitSign cs
  if unsigned = ['i', 'n', 'f'] ∨ unsigned = ['n', 'a', 'n'] then true
  else
    let (mantissa, exponent) := match Text.cutAt? (fun c => c == 'e' || c == 'E') unsigned with
      | some (m, e) => (m, some e)
      | none => (unsigned, none)
    let goodExponent := match exponent with
      | none => true
      | some e => (readGrouped Char.isDigit (splitSign e).2).isSome
    match Text.cutAt? (· == '.') mantissa with
    | some (whole, fraction) =>
      goodExponent && (readWhole? whole).isSome && (readGrouped Char.isDigit fraction).isSome
    | none => exponent.isSome && goodExponent && (readWhole? mantissa).isSome

/-- Whether digits write a number between two bounds. -/
def isBetween (count lo hi : Nat) (cs : List Char) : Bool :=
  cs.length == count && cs.all Char.isDigit && lo ≤ Text.decimal cs && Text.decimal cs ≤ hi

/-- The number of days of a month. -/
def daysOf (year month : Nat) : Nat :=
  if month = 2 then
    if year % 4 = 0 ∧ (year % 100 ≠ 0 ∨ year % 400 = 0) then 29 else 28
  else if month = 4 ∨ month = 6 ∨ month = 9 ∨ month = 11 then 30
  else 31

/-- Whether a text is a date. -/
def isDate (cs : List Char) : Bool :=
  match Text.splitWhen (· == '-') cs with
  | [y, m, d] => isBetween 4 0 9999 y && isBetween 2 1 12 m
      && isBetween 2 1 (daysOf (Text.decimal y) (Text.decimal m)) d
  | _ => false

/-- Whether a text is a time of day. -/
def isTime (cs : List Char) : Bool :=
  let (clock, fraction) := match Text.cutAt? (· == '.') cs with
    | some (a, b) => (a, some b)
    | none => (cs, none)
  (match fraction with
    | none => true
    | some f => !f.isEmpty && f.all Char.isDigit)
  && match Text.splitWhen (· == ':') clock with
    | [h, m] => fraction.isNone && isBetween 2 0 23 h && isBetween 2 0 59 m
    | [h, m, s] => isBetween 2 0 23 h && isBetween 2 0 59 m && isBetween 2 0 60 s
    | _ => false

/-- Whether a text is a time of day with an optional offset. -/
def isOffsetTime (cs : List Char) : Bool :=
  match cs.getLast? with
  | some 'Z' | some 'z' => isTime cs.dropLast
  | _ =>
    match Text.cutAt? (fun c => c == '+' || c == '-') cs with
    | none => isTime cs
    | some (time, offset) =>
      isTime time && match Text.splitWhen (· == ':') offset with
        | [h, m] => isBetween 2 0 23 h && isBetween 2 0 59 m
        | _ => false

/-- Whether a text is a date, a time, or both. -/
def isMoment (cs : List Char) : Bool :=
  isDate cs || isTime cs
    || (isDate (cs.take 10) && match cs.drop 10 with
      | 'T' :: rest | 't' :: rest | ' ' :: rest => isOffsetTime rest
      | _ => false)

/-- The value that a word without quotes writes. -/
def wordValue? (word : List Char) : Option Toml :=
  if word = ['t', 'r', 'u', 'e'] then some (.bool true)
  else if word = ['f', 'a', 'l', 's', 'e'] then some (.bool false)
  else
    let (negative, unsigned) := splitSign word
    match readBased? word, readWhole? unsigned with
    | some n, _ => some (.integer n)
    | none, some ds =>
      let n : Int := Text.decimal ds
      some (.integer (if negative then -n else n))
    | none, none =>
      if isReal word then some .real else if isMoment word then some .moment else none

/-- Whether a character can stand in a value without quotes. -/
def isWordChar (c : Char) : Bool :=
  c.isAlphanum || c == '_' || c == '-' || c == '+' || c == '.' || c == ':'

/-- A value without quotes. A date and a time may have a space between them. -/
def readWord (cs : List Char) : Option (Toml × List Char) := do
  let word := cs.takeWhile isWordChar
  let rest := cs.dropWhile isWordChar
  if word.isEmpty then none
  match rest with
  | ' ' :: more =>
    let time := more.takeWhile isWordChar
    if isDate word && (time.head?.map Char.isDigit).getD false then
      let v ← wordValue? (word ++ ' ' :: time)
      return (v, more.dropWhile isWordChar)
    else return (← wordValue? word, rest)
  | _ => return (← wordValue? word, rest)

mutual

/-- A value. -/
def readValue : Nat → List Char → Option (Toml × List Char)
  | 0, _ => none
  | fuel + 1, cs =>
    match cs with
    | '"' :: _ | '\'' :: _ => (readText true cs).map fun (s, rest) => (.string s, rest)
    | '[' :: rest => readItems [] fuel rest
    | '\x7b' :: rest => readMembers {} fuel rest
    | _ => readWord cs

/-- The items of an array up to its closing bracket. -/
def readItems (items : List Toml) : Nat → List Char → Option (Toml × List Char)
  | 0, _ => none
  | fuel + 1, cs =>
    match skipLines cs.length cs with
    | none => none
    | some (']' :: rest) => some (.array items.reverse, rest)
    | some cs =>
      match readValue fuel cs with
      | none => none
      | some (v, rest) =>
        match skipLines rest.length rest with
        | some (',' :: rest) => readItems (v :: items) fuel rest
        | some (']' :: rest) => some (.array (v :: items).reverse, rest)
        | _ => none

/-- The members of an inline table up to its closing brace. -/
def readMembers (d : Draft) : Nat → List Char → Option (Toml × List Char)
  | 0, _ => none
  | fuel + 1, cs =>
    let close : Toml := .table (valueMembers d.members)
    match skipLines cs.length cs with
    | none => none
    | some ('\x7d' :: rest) => some (close, rest)
    | some cs =>
      match readKey cs.length cs with
      | some (path, '=' :: rest) =>
        match readValue fuel (skipSpaces rest) with
        | none => none
        | some (v, rest) =>
          match d.add (.entry path v), skipLines rest.length rest with
          | some d, some (',' :: rest) => readMembers d fuel rest
          | some d, some ('\x7d' :: rest) => some (.table (valueMembers d.members), rest)
          | _, _ => none
      | _ => none

end

/-- One statement. -/
def readStatement (cs : List Char) : Option (Statement × List Char) :=
  match cs with
  | '[' :: '[' :: rest =>
    match readKey (rest.length + 1) rest with
    | some (path, ']' :: ']' :: rest) => some (.itemHeader path, rest)
    | _ => none
  | '[' :: rest =>
    match readKey (rest.length + 1) rest with
    | some (path, ']' :: rest) => some (.header path, rest)
    | _ => none
  | _ =>
    match readKey (cs.length + 1) cs with
    | some (path, '=' :: rest) =>
      (readValue (2 * rest.length + 2) (skipSpaces rest)).map fun (v, rest) => (.entry path v, rest)
    | _ => none

/-- The statements of a document, each on a line of its own. -/
def readStatements : Nat → List Char → Option (List Statement)
  | 0, _ => none
  | fuel + 1, cs => do
    match ← skipLines (cs.length + 1) cs with
    | [] => return []
    | cs =>
      let (s, rest) ← readStatement cs
      let rest ← skipComment (skipSpaces rest)
      if rest.isEmpty then return [s]
      return s :: (← readStatements fuel (← skipNewline? rest))

/-- Reads a document. A byte order mark in front does not count. -/
def ofText? (s : String) : Option Toml := do
  let cs := match s.toList with
    | '\ufeff' :: cs => cs
    | cs => cs
  assemble (← readStatements (cs.length + 1) cs)

end RouteWorks.Toml
