import RouteWorks.Text.Runs

/-!
# Cutting and joining text

Texts are cut at separators and put together again. The functions work on lists of characters; the
versions on `String` wrap them.
-/

namespace RouteWorks.Text

/-- The parts of a text between the characters that satisfy `sep`; never empty. -/
def split (sep : Char → Bool) (s : String) : List String :=
  (splitWhen sep s.toList).map String.ofList

/-- Cuts a list at the first element that satisfies `sep`; `none` when there is none. -/
def cutAt? {α : Type} (sep : α → Bool) (xs : List α) : Option (List α × List α) :=
  match xs.span (fun x => !sep x) with
  | (_, []) => none
  | (before, _ :: after) => some (before, after)

/-- Cuts a text at the first occurrence of a character. -/
def cut? (sep : Char) (s : String) : Option (String × String) :=
  (cutAt? (· == sep) s.toList).map fun (a, b) => (String.ofList a, String.ofList b)

/-- Puts texts together with a separator between each two. -/
def join (sep : String) (parts : List String) : String :=
  sep.intercalate parts

/-- Every occurrence of one character replaced by a text. -/
def replace (c : Char) (by_ : String) (s : String) : String :=
  String.ofList (s.toList.flatMap fun x => if x == c then by_.toList else [x])

/-- The lines of a text: a line ends at a line feed, which goes together with a carriage return
right before it. An empty last line does not count. -/
def lines (s : String) : List String :=
  let parts := splitWhen (· == '\n') s.toList
  let ended := parts.dropLast.map fun l => if l.getLast? == some '\r' then l.dropLast else l
  let last := (parts.getLast?.filter (!·.isEmpty)).toList
  (ended ++ last).map String.ofList

/-- Whether `pre` starts `xs`, and what follows it then. -/
def stripStart? {α : Type} [BEq α] : List α → List α → Option (List α)
  | [], xs => some xs
  | _ :: _, [] => none
  | p :: ps, x :: xs => if p == x then stripStart? ps xs else none

/-- Whether a text starts with another. -/
def startsWith (s pre : String) : Bool :=
  (stripStart? pre.toList s.toList).isSome

/-- Whether a text ends with another. -/
def endsWith (s post : String) : Bool :=
  (stripStart? post.toList.reverse s.toList.reverse).isSome

/-- Whether `needle` occurs in `xs` as a contiguous part. -/
def occursIn {α : Type} [BEq α] (needle : List α) : List α → Bool
  | [] => needle.isEmpty
  | x :: xs => (stripStart? needle (x :: xs)).isSome || occursIn needle xs

/-- Text `s` repeated `n` times. -/
def replicate (n : Nat) (s : String) : String :=
  String.join (List.replicate n s)

end RouteWorks.Text
