import RouteWorks.Field.Declaration
import RouteWorks.Proofs.Text.Ascii
import RouteWorks.Proofs.Text.Joined
import RouteWorks.Proofs.Text.Literal

/-!
# Attributes of bound fields

An attribute is read by the rules of the language that it is written in: a word, and in brackets items with
commas between them, each a word alone or a word with a string literal or a number.  The attribute of a bound
field is read as what it was written from, whatever its texts hold (`Binding.attribute_decodable`).
-/

namespace RouteWorks

open Text

/-! ## Words and numbers -/

namespace Attribute

variable {cs rest word : List Char} {s : String} {n : Nat}

/-- What words and numbers consist of. -/
def isWordChar (c : Char) : Bool := isAlphanumeric c || c == '_'

/-- What follows the blanks in front. -/
def skipBlanks (cs : List Char) : List Char := cs.dropWhile Char.isWhitespace

/-- Reads a word, which does not start with a digit. -/
def readWord : Reader String := fun cs =>
  match cs.takeWhile isWordChar with
  | [] => none
  | c :: word =>
      if c.isDigit then none else some (String.ofList (c :: word), cs.dropWhile isWordChar)

/-- Reads a number in decimal digits. -/
def readNumber : Reader Nat := fun cs =>
  let digits := cs.takeWhile isWordChar
  if digits.isEmpty || !digits.all Char.isDigit then none
  else some (decimal digits, cs.dropWhile isWordChar)

/-- A text is a word. -/
def IsWord (s : String) : Prop :=
  s.toList.head?.map Char.isDigit = some false ∧ ∀ c ∈ s.toList, isWordChar c = true

instance (s : String) : Decidable (IsWord s) :=
  decidable_of_iff (s.toList.head?.map Char.isDigit = some false ∧ s.toList.all isWordChar = true)
    (and_congr_right' List.all_eq_true)

theorem IsWord.exists_cons (h : IsWord s) : ∃ c cs, s.toList = c :: cs ∧ c.isDigit = false := by
  obtain ⟨c, hhead, hc⟩ := Option.map_eq_some_iff.mp h.1
  obtain ⟨cs, hcs⟩ := List.head?_eq_some_iff.mp hhead
  exact ⟨c, cs, hcs, hc⟩

theorem isWordChar_of_isDigit {c : Char} (h : c.isDigit = true) : isWordChar c = true := by
  have hname : c.isAlphanum = true := isAlphanum_iff.mpr (Or.inr (Or.inr h))
  rw [isWordChar, isAlphanumeric_of_isAscii (isAscii_of_isAlphanum hname), hname, Bool.true_or]

theorem isWhitespace_of_isWordChar {c : Char} (h : isWordChar c = true) : c.isWhitespace = false := by
  rw [Bool.eq_false_iff]
  intro hblank
  simp only [Char.isWhitespace, Bool.or_eq_true, decide_eq_true_eq] at hblank
  rcases hblank with ((rfl | rfl) | rfl) | rfl <;> exact absurd h (by decide)

/-- A run of characters ends where another kind of character starts. -/
theorem span_append {p : Char → Bool} (hword : ∀ c ∈ word, p c = true)
    (hrest : ∀ c, rest.head? = some c → p c = false) :
    (word ++ rest).takeWhile p = word ∧ (word ++ rest).dropWhile p = rest := by
  rw [List.takeWhile_append_of_pos hword, List.dropWhile_append_of_pos hword]
  cases rest with
  | nil => simp
  | cons c rest => simp [hrest c rfl]

theorem readWord_append (hs : IsWord s) (hrest : ∀ c, rest.head? = some c → isWordChar c = false) :
    readWord (s.toList ++ rest) = some (s, rest) := by
  obtain ⟨c, cs, hcs, hc⟩ := hs.exists_cons
  obtain ⟨htake, hdrop⟩ := span_append hs.2 hrest
  rw [readWord, htake, hdrop, hcs]
  simp only [hc, Bool.false_eq_true, if_false]
  rw [← hcs, String.ofList_toList]

theorem readNumber_append (n : Nat) (hrest : ∀ c, rest.head? = some c → isWordChar c = false) :
    readNumber ((toString n).toList ++ rest) = some (n, rest) := by
  have hdigits : ∀ c ∈ Nat.toDigits 10 n, c.isDigit = true :=
    fun c hc => Nat.isDigit_of_mem_toDigits (by decide) (by decide) hc
  have hne : Nat.toDigits 10 n ≠ [] := Nat.toDigits_ne_nil
  have hvalue : decimal (Nat.toDigits 10 n) = n := Nat.ofDigitChars_ten_toDigits
  obtain ⟨htake, hdrop⟩ := span_append (fun c hc => isWordChar_of_isDigit (hdigits c hc)) hrest
  rw [Nat.toString_eq_ofList_toDigits, String.toList_ofList]
  simp only [readNumber, htake, hdrop]
  rw [if_neg, hvalue]
  simpa [hne] using hdigits

/-- A number is written with at least one digit. -/
theorem exists_cons_toString (n : Nat) : ∃ c cs, (toString n).toList = c :: cs ∧ c.isDigit = true := by
  rw [Nat.toString_eq_ofList_toDigits, String.toList_ofList]
  obtain ⟨c, cs, hcs⟩ := List.exists_cons_of_ne_nil (Nat.toDigits_ne_nil (n := n) (b := 10))
  refine ⟨c, cs, hcs, ?_⟩
  exact Nat.isDigit_of_mem_toDigits (by decide) (by decide) (hcs ▸ List.mem_cons_self)

/-! ## Items -/

/-- An item in the brackets of an attribute. -/
inductive Item where
  | flag (key : String)
  | text (key value : String)
  | number (key : String) (value : Nat)
  deriving DecidableEq, Repr

namespace Item

/-- The word of an item. -/
def key : Item → String
  | flag key | text key _ | number key _ => key

/-- How an item is written. -/
def written : Item → String
  | flag key => key
  | text key value => key ++ " = " ++ quote value
  | number key value => key ++ " = " ++ toString value

end Item

/-- Reads what an item says of its word. -/
def readValue (key : String) : Reader Item
  | '"' :: cs => (readLiteral ('"' :: cs)).map fun (s, rest) => (.text key s, rest)
  | cs => (readNumber cs).map fun (n, rest) => (.number key n, rest)

/-- Reads an item. -/
def readItem : Reader Item := fun cs => do
  let (key, rest) ← readWord (skipBlanks cs)
  match skipBlanks rest with
  | '=' :: rest => readValue key (skipBlanks rest)
  | _ => some (.flag key, rest)

/-- Reads an item behind a comma. -/
def readNext : Reader Item := fun cs =>
  match skipBlanks cs with
  | ',' :: rest => readItem rest
  | _ => none

/-- Reads items with commas between them; one more comma may stand behind the last. -/
def readItems (cs : List Char) : List Item × List Char :=
  match readItem cs with
  | none => ([], cs)
  | some (item, rest) =>
      let (items, rest) := readMany readNext rest
      (item :: items, match skipBlanks rest with
        | ',' :: rest => rest
        | _ => rest)

/-- Reads an attribute: its word, and the items in its brackets. -/
def read? (text : String) : Option (String × List Item) := do
  let (name, rest) ← readWord (skipBlanks text.toList)
  match skipBlanks rest with
  | '(' :: rest =>
      match skipBlanks (readItems rest).2 with
      | ')' :: last => if (skipBlanks last).isEmpty then some (name, (readItems rest).1) else none
      | _ => none
  | _ => none

/-- An item ends at a comma or at the closing bracket. -/
def Ends (cs : List Char) : Prop := ∃ c rest, cs = c :: rest ∧ (c = ',' ∨ c = ')')

theorem Ends.not_isWordChar (h : Ends cs) : ∀ c, cs.head? = some c → isWordChar c = false := by
  obtain ⟨c, rest, rfl, hc⟩ := h
  rintro _ ⟨⟩
  rcases hc with rfl | rfl <;> decide

theorem skipBlanks_eq_self (h : ∀ c, cs.head? = some c → c.isWhitespace = false) :
    skipBlanks cs = cs := by
  cases cs with
  | nil => rfl
  | cons c cs => simp [skipBlanks, h c rfl]

theorem skipBlanks_word (hs : IsWord s) (rest : List Char) :
    skipBlanks (s.toList ++ rest) = s.toList ++ rest := by
  obtain ⟨c, cs, hcs, -⟩ := hs.exists_cons
  refine skipBlanks_eq_self ?_
  rw [hcs]
  rintro _ ⟨⟩
  exact isWhitespace_of_isWordChar (hs.2 _ (hcs ▸ List.mem_cons_self))

theorem readItem_space (cs : List Char) : readItem (' ' :: cs) = readItem cs := rfl

/-- What follows the word of an item with a value is read as this value. -/
theorem readItem_value {key : String} (hkey : IsWord key) (value : String) {i : Item}
    (hvalue : readValue key (value.toList ++ rest) = some (i, rest))
    (hblank : ∀ c, (value.toList ++ rest).head? = some c → c.isWhitespace = false) :
    readItem ((key ++ " = " ++ value).toList ++ rest) = some (i, rest) := by
  have htext : (key ++ " = " ++ value).toList ++ rest =
      key.toList ++ (' ' :: '=' :: ' ' :: (value.toList ++ rest)) := by simp [String.toList_append]
  have hspace : ∀ cs, skipBlanks (' ' :: cs) = skipBlanks cs := fun cs => rfl
  have hword : readWord (key.toList ++ (' ' :: '=' :: ' ' :: (value.toList ++ rest))) =
      some (key, ' ' :: '=' :: ' ' :: (value.toList ++ rest)) := by
    refine readWord_append hkey ?_
    rintro _ ⟨⟩
    decide
  have hmark : skipBlanks (' ' :: '=' :: ' ' :: (value.toList ++ rest)) =
      '=' :: ' ' :: (value.toList ++ rest) := rfl
  rw [htext, readItem, skipBlanks_word hkey, hword]
  simp only [Option.bind_eq_bind, Option.bind_some, hmark, hspace, skipBlanks_eq_self hblank, hvalue]

/-- An item is read as it was written. -/
theorem readItem_written (i : Item) (hkey : IsWord i.key) (hrest : Ends rest) :
    readItem (i.written.toList ++ rest) = some (i, rest) := by
  cases i with
  | flag key =>
      obtain ⟨c, rest, rfl, hc⟩ := hrest
      have hends : Ends (c :: rest) := ⟨c, rest, rfl, hc⟩
      have hskip : skipBlanks (c :: rest) = c :: rest := by
        rcases hc with rfl | rfl <;> rfl
      change IsWord key at hkey
      rw [Item.written, readItem, skipBlanks_word hkey, readWord_append hkey hends.not_isWordChar]
      simp only [Option.bind_eq_bind, Option.bind_some, hskip]
      rcases hc with rfl | rfl <;> rfl
  | text key value =>
      have hquote : (quote value).toList ++ rest =
          '"' :: (value.toList.flatMap escapeChar ++ '"' :: rest) := by simp [quote]
      refine readItem_value hkey (quote value) ?_ ?_
      · have hread := readLiteral_quote value rest
        rw [hquote] at hread ⊢
        rw [readValue, hread]
        rfl
      · rw [hquote]
        rintro _ ⟨⟩
        decide
  | number key value =>
      obtain ⟨c, cs, hnumber, hc⟩ := exists_cons_toString value
      refine readItem_value hkey (toString value) ?_ ?_
      · have hread := readNumber_append value hrest.not_isWordChar
        rw [hnumber, List.cons_append] at hread ⊢
        rw [readValue, hread]
        · rfl
        · rintro _ ⟨⟩
          cases hc
      · rw [hnumber]
        rintro _ ⟨⟩
        exact isWhitespace_of_isWordChar (isWordChar_of_isDigit hc)

/-- Items behind the first one are read as they were written. -/
theorem readMany_readNext {items : List Item} (hkeys : ∀ i ∈ items, IsWord i.key) (rest : List Char) :
    readMany readNext (items.flatMap (fun i => ", ".toList ++ i.written.toList) ++ ')' :: rest) =
      (items, ')' :: rest) := by
  refine readMany_written Ends ?_ ?_ ?_ ⟨')', rest, rfl, Or.inr rfl⟩ rfl
  · intro i hi cs hcs
    change readItem (' ' :: (i.written.toList ++ cs)) = some (i, cs)
    rw [readItem_space]
    exact readItem_written i (hkeys i hi) hcs
  · intro i _ cs _
    exact ⟨',', _, rfl, Or.inl rfl⟩
  · intro i _
    exact List.cons_ne_nil _ _

/-- An attribute is read as it was written. -/
theorem read?_written {name : String} (hname : IsWord name) {items : List Item} (hitems : items ≠ [])
    (hkeys : ∀ i ∈ items, IsWord i.key) :
    read? (name ++ "(" ++ join ", " (items.map Item.written) ++ ")") = some (name, items) := by
  obtain ⟨i, items, rfl⟩ := List.exists_cons_of_ne_nil hitems
  have htext : (name ++ "(" ++ join ", " ((i :: items).map Item.written) ++ ")").toList =
      name.toList ++ '(' :: (i.written.toList ++
        (items.flatMap (fun j => ", ".toList ++ j.written.toList) ++ [')'])) := by
    simp [toList_join_cons, List.flatMap_map]
  have hword : ∀ cs, readWord (name.toList ++ '(' :: cs) = some (name, '(' :: cs) := by
    intro cs
    refine readWord_append hname ?_
    rintro _ ⟨⟩
    decide
  have hends : Ends (items.flatMap (fun j => ", ".toList ++ j.written.toList) ++ [')']) := by
    cases items with
    | nil => exact ⟨')', [], rfl, Or.inr rfl⟩
    | cons j items => exact ⟨',', _, rfl, Or.inl rfl⟩
  have hfirst := readItem_written i (hkeys i List.mem_cons_self) hends
  have hrest := readMany_readNext (fun j hj => hkeys j (List.mem_cons_of_mem i hj)) []
  have hall : readItems (i.written.toList ++
      (items.flatMap (fun j => ", ".toList ++ j.written.toList) ++ [')'])) = (i :: items, [')']) := by
    rw [readItems, hfirst]
    simp only [hrest]
    rfl
  have hopen : ∀ cs, skipBlanks ('(' :: cs) = '(' :: cs := fun cs => rfl
  have hclose : skipBlanks [')'] = [')'] := rfl
  rw [read?, htext, skipBlanks_word hname, hword]
  simp only [Option.bind_eq_bind, Option.bind_some, hopen, hall, hclose]
  rfl

end Attribute

/-! ## The attribute of a bound field -/

namespace Binding

open Attribute (Item IsWord)

/-- What an item of the attribute of a bound field says. -/
inductive Part where
  | position (p : Position)
  | key (name : String)
  | rule (c : Constraint)
  deriving DecidableEq, Repr

namespace Part

/-- The position in a part. -/
def position? : Part → Option Position
  | position p => some p
  | key _ | rule _ => none

/-- The name in a part. -/
def key? : Part → Option String
  | key name => some name
  | position _ | rule _ => none

/-- The constraint in a part. -/
def rule? : Part → Option Constraint
  | rule c => some c
  | position _ | key _ => none

/-- The item that a part is written as. -/
def item : Part → Item
  | position p => .text "in" p.word
  | key name => .text "name" name
  | rule .required => .flag "required"
  | rule .nonzero => .flag "nonzero"
  | rule (.len v) => .text "len" v
  | rule (.range v) => .text "range" v
  | rule (.regex v) => .text "regex" v
  | rule (.maxmb n) => .number "maxmb" n
  | rule (.err v) => .text "err" v
  | rule (.desc v) => .text "desc" v

/-- The position with a word. -/
def positionOf? (word : String) : Option Position :=
  [.path, .query, .form, .body, .header, .cookie].find? fun p => p.word == word

/-- What an item says; none if it is none of those that a bound field has. -/
def ofItem? : Item → Option Part
  | .text "in" word => (positionOf? word).map .position
  | .text "name" name => some (.key name)
  | .flag "required" => some (.rule .required)
  | .flag "nonzero" => some (.rule .nonzero)
  | .text "len" v => some (.rule (.len v))
  | .text "range" v => some (.rule (.range v))
  | .text "regex" v => some (.rule (.regex v))
  | .number "maxmb" n => some (.rule (.maxmb n))
  | .text "err" v => some (.rule (.err v))
  | .text "desc" v => some (.rule (.desc v))
  | _ => none

theorem positionOf?_word (p : Position) : positionOf? p.word = some p := by
  cases p <;> decide

theorem ofItem?_item (p : Part) : ofItem? p.item = some p := by
  cases p with
  | position p =>
      change (positionOf? p.word).map Part.position = some (.position p)
      rw [positionOf?_word, Option.map_some]
  | key name => rfl
  | rule c => cases c <;> rfl

theorem isWord_key (p : Part) : IsWord p.item.key := by
  have hwords : ∀ word ∈ ["in", "name", "required", "nonzero", "len", "range", "regex", "maxmb", "err",
      "desc"], IsWord word := by decide
  refine hwords _ ?_
  cases p with
  | position p => exact List.mem_of_elem_eq_true rfl
  | key name => exact List.mem_of_elem_eq_true rfl
  | rule c => cases c <;> exact List.mem_of_elem_eq_true rfl

/-- The text of a constraint is that of its item. -/
theorem written_rule (c : Constraint) : (rule c).item.written = c.text := by
  have hmark : ∀ {key mark : String}, key ++ " = " = mark →
      ∀ value, key ++ " = " ++ value = mark ++ value := fun h _ => congrArg (· ++ _) h
  cases c with
  | required => rfl
  | nonzero => rfl
  | len v => exact hmark (by decide) _
  | range v => exact hmark (by decide) _
  | regex v => exact hmark (by decide) _
  | maxmb n => exact hmark (by decide) _
  | err v => exact hmark (by decide) _
  | desc v => exact hmark (by decide) _

end Part

variable {b : Binding}

/-- What the attribute of a bound field says, in order. -/
def parts (b : Binding) : List Part :=
  .position b.position :: ((b.key.map .key).toList ++ b.constraints.map .rule)

/-- How a field is bound whose attribute says these parts: a position or a name that is said twice counts the
last time. -/
def ofParts? (parts : List Part) : Option Binding := do
  let position ← (parts.filterMap Part.position?).getLast?
  return {
    position
    key := (parts.filterMap Part.key?).getLast?
    constraints := parts.filterMap Part.rule? }

/-- Reads the attribute of a bound field. -/
def ofAttribute? (text : String) : Option Binding := do
  let (name, items) ← Attribute.read? text
  if name = "param" then ofParts? (← items.mapM Part.ofItem?) else none

theorem attribute_eq (b : Binding) :
    b.attribute = "param" ++ "(" ++ join ", " ((b.parts.map Part.item).map Item.written) ++ ")" := by
  have hposition : (Part.position b.position).item.written = "in = " ++ quote b.position.word :=
    congrArg (· ++ _) (show "in" ++ " = " = "in = " by decide)
  have hkey : ∀ name, (Part.key name).item.written = "name = " ++ quote name :=
    fun name => congrArg (· ++ _) (show "name" ++ " = " = "name = " by decide)
  have hopen : "param" ++ "(" = "param(" := by decide
  have hparts : (b.parts.map Part.item).map Item.written = ("in = " ++ quote b.position.word)
      :: ((b.key.map fun k => "name = " ++ quote k).toList ++ b.constraints.map Constraint.text) := by
    cases hname : b.key <;>
      simp [parts, hname, hposition, hkey, Part.written_rule, Function.comp_def]
  rw [hparts, hopen]
  rfl

theorem read?_attribute (b : Binding) :
    Attribute.read? b.attribute = some ("param", b.parts.map Part.item) := by
  rw [attribute_eq]
  refine Attribute.read?_written (by decide) ?_ ?_
  · simp [parts]
  · intro i hi
    obtain ⟨p, -, rfl⟩ := List.mem_map.mp hi
    exact Part.isWord_key p

theorem ofParts?_parts (b : Binding) : ofParts? b.parts = some b := by
  have hposition : b.parts.filterMap Part.position? = [b.position] := by
    cases hkey : b.key <;> simp [parts, hkey, List.filterMap_cons, Part.position?]
  have hkey : b.parts.filterMap Part.key? = b.key.toList := by
    cases hkey : b.key <;> simp [parts, hkey, List.filterMap_cons, Part.key?]
  have hrules : b.parts.filterMap Part.rule? = b.constraints := by
    have hrule : Part.rule? ∘ Part.rule = some := rfl
    cases hkey : b.key <;> simp [parts, hkey, List.filterMap_cons, Part.rule?, hrule]
  rw [ofParts?, hposition, hkey, hrules]
  cases b with
  | mk position key constraints => cases key <;> rfl

theorem mapM_ofItem? (parts : List Part) : (parts.map Part.item).mapM Part.ofItem? = some parts := by
  induction parts with
  | nil => rfl
  | cons p parts ih => simp [ih, Part.ofItem?_item]

/-- The attribute of a bound field is read as the position, the name and the constraints that it was written
from, in their order and whatever texts they hold; so no two bindings have the same attribute. -/
theorem attribute_decodable :
    (∀ b : Binding, ofAttribute? b.attribute = some b) ∧ Function.Injective Binding.attribute := by
  have hread : ∀ b : Binding, ofAttribute? b.attribute = some b := by
    intro b
    rw [ofAttribute?, read?_attribute]
    simp only [Option.bind_eq_bind, Option.bind_some, if_true, mapM_ofItem?, ofParts?_parts]
  refine ⟨hread, ?_⟩
  intro a b h
  have hsame := hread a
  rw [h, hread b] at hsame
  exact (Option.some.inj hsame).symm

/-- Blanks, continued lines, other escapes and a comma at the end make no difference. -/
example :
    ofAttribute? "param ( in=\"form\",name = \"\\x61\\u\x7b1F_600\x7d\\\n  b\",\n required, maxmb = 2, )" =
      some { position := .form, key := some "a😀b", constraints := [.required, .maxmb 2] } := by
  decide +kernel

end Binding

end RouteWorks
