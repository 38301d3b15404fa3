/-!
# Decoding UTF-8

Octets become characters by the UTF-8 grammar. The lossy reading puts U+FFFD in place of every
longest part of a character that the grammar can start but not finish, and of every octet that can
start nothing.
-/

namespace RouteWorks.Text

/-- Whether an octet continues a character. -/
def isContinuation (b : UInt8) : Bool := 0x80 ≤ b && b ≤ 0xBF

/-- What the first octet of a character promises: how many octets follow it, the least and the
greatest value of the first of those, and the bits it contributes. -/
def leadOctet? (b : UInt8) : Option (Nat × UInt8 × UInt8 × Nat) :=
  if b < 0x80 then some (0, 0, 0, b.toNat)
  else if b < 0xC2 then none
  else if b < 0xE0 then some (1, 0x80, 0xBF, b.toNat - 0xC0)
  else if b < 0xF0 then
    some (2, if b == 0xE0 then 0xA0 else 0x80, if b == 0xED then 0x9F else 0xBF, b.toNat - 0xE0)
  else if b < 0xF5 then
    some (3, if b == 0xF0 then 0x90 else 0x80, if b == 0xF4 then 0x8F else 0xBF, b.toNat - 0xF0)
  else none

/-- Takes up to `n` continuation octets, the first of them between `lo` and `hi`. The result is the
code point when all are there, and what is left. -/
def followers (n : Nat) (lo hi : UInt8) (code : Nat) (bs : List UInt8) :
    Option Nat × List UInt8 :=
  match n, bs with
  | 0, bs => (some code, bs)
  | _ + 1, [] => (none, [])
  | n + 1, b :: rest =>
    if lo ≤ b && b ≤ hi then followers n 0x80 0xBF (64 * code + (b.toNat - 0x80)) rest
    else (none, b :: rest)

theorem followers_length (n : Nat) (lo hi : UInt8) (code : Nat) (bs : List UInt8) :
    (followers n lo hi code bs).2.length ≤ bs.length := by
  induction n generalizing lo hi code bs with
  | zero => simp [followers]
  | succ n ih =>
    cases bs with
    | nil => simp [followers]
    | cons b rest =>
      simp only [followers]
      split
      · exact Nat.le_trans (ih _ _ _ _) (by simp)
      · simp

/-- Reads octets one character at a time; `none` stands for what is not UTF-8. -/
def decodeInto (acc : List (Option Char)) (bs : List UInt8) : List (Option Char) :=
  match bs with
  | [] => acc.reverse
  | b :: rest =>
    match leadOctet? b with
    | none => decodeInto (none :: acc) rest
    | some (n, lo, hi, code) =>
      decodeInto ((followers n lo hi code rest).1.map Char.ofNat :: acc)
        (followers n lo hi code rest).2
termination_by bs.length
decreasing_by
  · simp
  · simp only [List.length_cons]
    exact Nat.lt_succ_of_le (followers_length n lo hi code rest)

/-- The characters of a list of octets, with `none` for every malformed part. -/
def decodeUtf8 (bs : List UInt8) : List (Option Char) := decodeInto [] bs

/-- The text that octets spell, when they are UTF-8. -/
def ofUtf8? (bs : List UInt8) : Option String :=
  let cs := decodeUtf8 bs
  if cs.all Option.isSome then some (String.ofList (cs.filterMap id)) else none

/-- The text that octets spell, with U+FFFD in place of what is not UTF-8. -/
def ofUtf8Lossy (bs : List UInt8) : String :=
  String.ofList ((decodeUtf8 bs).map fun c => c.getD '\ufffd')

/-- The octets of a text. -/
def utf8 (s : String) : List UInt8 := s.toUTF8.toList

end RouteWorks.Text
