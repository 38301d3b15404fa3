import RouteWorks.Fault
import RouteWorks.Text.Blank
import RouteWorks.Text.Case
import RouteWorks.Text.Split

/-!
# Names

A declared name such as `user profile-view` becomes an exported name in camel case
(`UserProfileView`). Functions, fields and files take its snake case form (`user_profile_view`).
-/

namespace RouteWorks

namespace Name

/-- A word with its first character raised and the others kept. -/
def capitalize : List Char → List Char
  | [] => []
  | c :: cs => Text.upper c ++ cs

/-- Camel case: every character that is neither letter nor digit ends a word and is dropped, and
every word is capitalized. -/
def camelChars (cs : List Char) : List Char :=
  (splitWords cs).flatMap capitalize
where
  /-- The words of a name; empty ones are harmless. -/
  splitWords (cs : List Char) : List (List Char) :=
    Text.splitWhen (fun c => !Text.isAlphanumeric c) cs

theorem isNameChar_of_mem_camelChars {cs : List Char} {d : Char} (hd : d ∈ camelChars cs) :
    Text.isNameChar d = true := by
  obtain ⟨word, hword, hd⟩ := List.mem_flatMap.mp hd
  have hall : ∀ c ∈ word, Text.isNameChar c = true := by
    intro c hc
    have hsep := Text.not_sep_of_mem_splitWhen hword hc
    exact Text.isNameChar_of_isAlphanumeric (by simpa using hsep)
  cases word with
  | nil => cases hd
  | cons c rest =>
      rcases List.mem_append.mp hd with hd | hd
      · exact Text.isNameChar_of_mem_upper (hall c List.mem_cons_self) hd
      · exact hall d (List.mem_cons_of_mem c hd)

/-- Camel case of a text. -/
def camel (s : String) : String := String.ofList (camelChars s.toList)

/-- An underscore at the end of the text that `out` holds backwards, unless that is empty or has
one already. -/
def breakWord (out : List Char) : List Char :=
  match out with
  | [] => []
  | '_' :: _ => out
  | _ => '_' :: out

/-- Whether a word starts at an uppercase character between `prev` and what follows. -/
def startsWord (prev : Char) (next : Option Char) : Bool :=
  Text.isLowercase prev || prev.isDigit
    || (Text.isUppercase prev && (next.map Text.isLowercase).getD false)

/-- One pass over a name: `prev` is the character before, `out` the snake case so far, backwards. -/
def snakeInto (prev : Option Char) (out : List Char) : List Char → List Char
  | [] => out
  | c :: rest =>
    if !Text.isAlphanumeric c then snakeInto (some c) (breakWord out) rest
    else
      let boundary := Text.isUppercase c && (prev.map (startsWord · rest.head?)).getD false
      let out := if boundary then breakWord out else out
      snakeInto (some c) ((Text.lower c).reverse ++ out) rest

/-- Snake case: words are separated by one underscore and lowered. A word ends at characters that
are neither letters nor digits, before an uppercase character that follows a lowercase one or a
digit, and before the last capital of a run that a lowercase character follows. -/
def snakeChars (cs : List Char) : List Char :=
  ((snakeInto none [] cs).dropWhile (· == '_')).reverse

/-- What snake case is written with. -/
def isSnakeChar (c : Char) : Bool := Text.isNameChar c || c == '_'

theorem isSnakeChar_of_mem_breakWord {out : List Char} (hout : ∀ c ∈ out, isSnakeChar c = true)
    {d : Char} (hd : d ∈ breakWord out) : isSnakeChar d = true := by
  unfold breakWord at hd
  split at hd
  · cases hd
  · exact hout d hd
  · rcases List.mem_cons.mp hd with rfl | hd
    · rfl
    · exact hout d hd

theorem isSnakeChar_of_mem_snakeInto {prev : Option Char} {out cs : List Char}
    (hout : ∀ c ∈ out, isSnakeChar c = true) {d : Char} (hd : d ∈ snakeInto prev out cs) :
    isSnakeChar d = true := by
  induction cs generalizing prev out with
  | nil => exact hout d hd
  | cons c rest ih =>
      rw [snakeInto] at hd
      split at hd
      · exact ih (fun e he => isSnakeChar_of_mem_breakWord hout he) hd
      · rename_i hc
        have hname : Text.isNameChar c = true :=
          Text.isNameChar_of_isAlphanumeric (by simpa using hc)
        refine ih ?_ hd
        intro e he
        rcases List.mem_append.mp he with he | he
        · have hlower := Text.isNameChar_of_mem_lower hname (List.mem_reverse.mp he)
          rw [isSnakeChar, hlower, Bool.true_or]
        · split at he
          · exact isSnakeChar_of_mem_breakWord hout he
          · exact hout e he

theorem isSnakeChar_of_mem_snakeChars {cs : List Char} {d : Char} (hd : d ∈ snakeChars cs) :
    isSnakeChar d = true := by
  have hd := (List.dropWhile_suffix _).subset (List.mem_reverse.mp hd)
  exact isSnakeChar_of_mem_snakeInto (by simp) hd

/-- Snake case of a text. -/
def snake (s : String) : String := String.ofList (snakeChars s.toList)

/-- The reserved words of the generated language. -/
def keywords : List String :=
  ["as", "async", "await", "break", "const", "continue", "crate", "dyn", "else", "enum",
   "extern", "false", "fn", "for", "gen", "if", "impl", "in", "let", "loop", "match", "mod",
   "move", "mut", "pub", "ref", "return", "self", "static", "struct", "super", "trait", "true",
   "try", "type", "unsafe", "use", "where", "while", "yield"]

/-- The reserved words that no mark can make an identifier of. -/
def unescapable : List String := ["crate", "self", "Self", "super"]

/-- A name as an identifier: a reserved word is marked as raw, or gets an underscore when that is
not allowed. -/
def escape (name : String) : String :=
  if unescapable.contains name then name ++ "_"
  else if keywords.contains name then "r#" ++ name
  else name

/-- Whether a name can name a module as it is written. -/
def isModuleName (name : String) : Bool :=
  match name.toList with
  | [] => false
  | c :: cs =>
    (c.isAlpha || c == '_') && cs.all (fun d => d.isAlphanum || d == '_')
      && name ≠ "_" && !keywords.contains name

end Name

/-- An exported name: it starts with an ASCII capital, and its ASCII characters are letters and
digits. -/
structure Identifier where
  /-- The name in camel case. -/
  canonical : String
  /-- The first character is an ASCII capital. -/
  capital : (canonical.toList.head?.map Char.isUpper).getD false = true
  /-- Nothing in it separates words. -/
  nameChars : canonical.toList.all Text.isNameChar = true
  deriving DecidableEq, Repr

namespace Identifier

instance : Inhabited Identifier := ⟨⟨"A", by decide, by decide⟩⟩

/-- Reads a declared name. -/
def ofName (raw : String) : Except Fault Identifier :=
  let canonical := Name.camel (Text.trim raw)
  if h : (canonical.toList.head?.map Char.isUpper).getD false = true then
    .ok ⟨canonical, h, List.all_eq_true.mpr fun _ hc =>
      Name.isNameChar_of_mem_camelChars (String.toList_ofList ▸ hc)⟩
  else .error (.invalidName raw)

/-- The first letter in lower case, which names the value in generated code. -/
def token (i : Identifier) : Char :=
  (i.canonical.toList.headD 'a').toLower

/-- The name in snake case, for functions and files. -/
def snake (i : Identifier) : String := Name.snake i.canonical

theorem isSnakeChar_of_mem_snake {i : Identifier} {c : Char} (h : c ∈ i.snake.toList) :
    Name.isSnakeChar c = true := by
  rw [snake, Name.snake, String.toList_ofList] at h
  exact Name.isSnakeChar_of_mem_snakeChars h

end Identifier

end RouteWorks
