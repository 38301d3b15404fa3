import RouteWorks.Text.Quoted
import RouteWorks.Text.Split

/-!
# Writing texts in TOML

A text is written in the plainest of four notations that can hold it: basic, literal, and each of
them over several lines. Only the basic notations have escapes.
-/

namespace RouteWorks.Toml

/-- The length of the longest run of a character. -/
def longestRun (c : Char) (cs : List Char) : Nat :=
  (cs.foldl (fun (best, run) d => if d == c then (max best (run + 1), run + 1) else (best, 0))
    ((0, 0) : Nat × Nat)).1

/-- Control characters that only an escape can write. -/
def isCode (c : Char) : Bool :=
  c ≠ '\t' && c ≠ '\n' && (c.toNat < 32 || c.toNat == 127)

/-- A number in upper-case hexadecimal with four digits. -/
def hex4 (n : Nat) : List Char := (Text.hexPadded 4 n).toList.map Char.toUpper

/-- A character in a basic notation. -/
def escapeChar (c : Char) : List Char :=
  if c = '\\' then ['\\', '\\']
  else if c = '\t' then ['\\', 't']
  else if c = '\r' then ['\\', 'r']
  else if c = '\x08' then ['\\', 'b']
  else if c = '\x0c' then ['\\', 'f']
  else if c.toNat < 32 || c.toNat == 127 then '\\' :: 'u' :: hex4 c.toNat
  else [c]

/-- A basic text on one line. -/
def basic (cs : List Char) : List Char :=
  ['"'] ++ cs.flatMap (fun c =>
    if c = '"' then ['\\', '"'] else if c = '\n' then ['\\', 'n'] else escapeChar c) ++ ['"']

/-- The inside of a basic text over several lines: every third quote in a row is escaped. -/
def basicLines (run : Nat) : List Char → List Char
  | [] => []
  | '"' :: cs => if run = 2 then '\\' :: '"' :: basicLines 0 cs else '"' :: basicLines (run + 1) cs
  | '\n' :: cs => '\n' :: basicLines 0 cs
  | c :: cs => escapeChar c ++ basicLines 0 cs

/-- A text between triple quotes. A text of several lines starts on a line of its own. -/
def multiline (quote : Char) (cs inside : List Char) : List Char :=
  let marks := List.replicate 3 quote
  marks ++ (if cs.contains '\n' then ['\n'] else []) ++ inside ++ marks

/-- A text in the plainest notation. -/
def quoteChars (cs : List Char) : List Char :=
  let codes := cs.any isCode
  let escape := cs.contains '\\'
  let newline := cs.contains '\n'
  let doubles := longestRun '"' cs
  let singles := longestRun '\'' cs
  if !codes && !escape && doubles == 0 && !newline then basic cs
  else if !codes && singles == 0 && !newline then ['\''] ++ cs ++ ['\'']
  else if !codes && !escape && doubles ≤ 2 then multiline '"' cs (basicLines 0 cs)
  else if !codes && singles ≤ 2 then multiline '\'' cs cs
  else if newline then multiline '"' cs (basicLines 0 cs)
  else basic cs

/-- A text in the plainest notation. -/
def quote (s : String) : String := String.ofList (quoteChars s.toList)

end RouteWorks.Toml
