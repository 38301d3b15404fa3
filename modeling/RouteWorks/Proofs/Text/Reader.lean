import Mathlib.Data.List.TakeDrop
import RouteWorks.Text.Split

/-!
# Reading written text

A reader takes what it reads from the front of a text.  The laws here say that it takes exactly what
was written, whatever follows: a fixed text (`expect_append`), a text up to a delimiter
(`readUntil_append`), and a row of items, as long as the reader refuses what comes after the row
(`many_written`).
-/

namespace RouteWorks.Text

/-- Reads from the front of a text; none when something else stands there. -/
abbrev Reader (α : Type) := List Char → Option (α × List Char)

/-! ## Fixed texts and delimiters -/

/-- What follows a fixed text. -/
def expect (text : String) (cs : List Char) : Option (List Char) := stripStart? text.toList cs

theorem stripStart?_append {α : Type} [BEq α] [LawfulBEq α] (front rest : List α) :
    stripStart? front (front ++ rest) = some rest := by
  induction front with
  | nil => rfl
  | cons a front ih =>
      rw [List.cons_append, stripStart?, if_pos BEq.rfl]
      exact ih

/-- A text that differs from a fixed one in some place does not start with it. -/
theorem stripStart?_eq_none_of_getElem? {α : Type} [BEq α] [LawfulBEq α] {front xs : List α} {n : Nat}
    {a : α} (ha : front[n]? = some a) (hxs : xs[n]? ≠ some a) : stripStart? front xs = none := by
  induction front generalizing xs n with
  | nil => cases ha
  | cons b front ih =>
      cases xs with
      | nil => rfl
      | cons x xs =>
          rw [stripStart?]
          split
          · rename_i hbx
            cases n with
            | zero => exact absurd (eq_of_beq hbx ▸ ha) hxs
            | succ n => exact ih ha hxs
          · rfl

theorem stripStart?_eq_none_of_mem {α : Type} [BEq α] [LawfulBEq α] {front xs : List α} {a : α}
    (ha : a ∈ front) (hxs : a ∉ xs) : stripStart? front xs = none := by
  obtain ⟨n, hn⟩ := List.mem_iff_getElem?.mp ha
  exact stripStart?_eq_none_of_getElem? hn fun h => hxs (List.mem_of_getElem? h)

@[simp] theorem expect_append (text : String) (rest : List Char) :
    expect text (text.toList ++ rest) = some rest := stripStart?_append _ _

/-- Reads up to a delimiter and takes it as well. -/
def readUntil (close : Char) : Reader String := fun cs =>
  (cutAt? (· == close) cs).map fun (front, rest) => (String.ofList front, rest)

theorem cutAt?_append {α : Type} {sep : α → Bool} {front : List α} {a : α}
    (hfront : ∀ b ∈ front, sep b = false) (ha : sep a = true) (rest : List α) :
    cutAt? sep (front ++ a :: rest) = some (front, rest) := by
  have hkeep : ∀ b ∈ front, (!sep b) = true := by
    intro b hb
    rw [hfront b hb]
    rfl
  rw [cutAt?, List.span_eq_takeWhile_dropWhile, List.takeWhile_append_of_pos hkeep,
    List.dropWhile_append_of_pos hkeep]
  simp [ha]

theorem beq_eq_false_of_not_mem {α : Type} [BEq α] [LawfulBEq α] {mark : α} {xs : List α}
    (h : mark ∉ xs) : ∀ x ∈ xs, (x == mark) = false := by
  intro x hx
  rw [beq_eq_false_iff_ne]
  rintro rfl
  exact h hx

theorem bne_of_not_mem {α : Type} [BEq α] [LawfulBEq α] {mark : α} {xs : List α}
    (h : mark ∉ xs) : ∀ x ∈ xs, (x != mark) = true := by
  intro x hx
  rw [bne, beq_eq_false_of_not_mem h x hx]
  rfl

theorem readUntil_append {close : Char} {text : String} (h : close ∉ text.toList) (mark : String)
    (hmark : mark.toList = [close]) (rest : List Char) :
    readUntil close (text.toList ++ (mark.toList ++ rest)) = some (text, rest) := by
  have hfront : ∀ c ∈ text.toList, (c == close) = false := beq_eq_false_of_not_mem h
  rw [readUntil, hmark, List.singleton_append, cutAt?_append hfront BEq.rfl]
  simp only [Option.map_some, String.ofList_toList]

/-! ## Rows of items -/

/-- Reads items as long as there are any, at most `n`. -/
def many {α : Type} (p : Reader α) : Nat → List Char → List α × List Char
  | 0, cs => ([], cs)
  | n + 1, cs =>
      match p cs with
      | none => ([], cs)
      | some (a, rest) => (a :: (many p n rest).1, (many p n rest).2)

/-- Reads all items in front. -/
def readMany {α : Type} (p : Reader α) (cs : List Char) : List α × List Char := many p cs.length cs

/-- What items keep, a row of items keeps. -/
theorem keep_written {α : Type} {write : α → List Char} {xs : List α} (Follows : List Char → Prop)
    (hkeep : ∀ a ∈ xs, ∀ cs, Follows cs → Follows (write a ++ cs))
    {rest : List Char} (hrest : Follows rest) : Follows (xs.flatMap write ++ rest) := by
  induction xs with
  | nil => exact hrest
  | cons a xs ih =>
      rw [List.flatMap_cons, List.append_assoc]
      exact hkeep a List.mem_cons_self _ (ih fun b hb => hkeep b (List.mem_cons_of_mem a hb))

/-- A row of written items is read as these items.  `Follows` is what the reader needs to know of the
text behind an item; the items keep it. -/
theorem many_written {α : Type} {p : Reader α} {write : α → List Char} {xs : List α}
    (Follows : List Char → Prop)
    (hread : ∀ a ∈ xs, ∀ cs, Follows cs → p (write a ++ cs) = some (a, cs))
    (hkeep : ∀ a ∈ xs, ∀ cs, Follows cs → Follows (write a ++ cs))
    {rest : List Char} (hrest : Follows rest) (hstop : p rest = none)
    {n : Nat} (hn : xs.length ≤ n) :
    many p n (xs.flatMap write ++ rest) = (xs, rest) := by
  induction xs generalizing n with
  | nil =>
      rw [List.flatMap_nil, List.nil_append]
      cases n with
      | zero => rfl
      | succ n => rw [many, hstop]
  | cons a xs ih =>
      cases n with
      | zero => exact absurd hn (by simp)
      | succ n =>
          have hkeepTail : ∀ b ∈ xs, ∀ cs, Follows cs → Follows (write b ++ cs) :=
            fun b hb => hkeep b (List.mem_cons_of_mem a hb)
          have hfollows := keep_written Follows hkeepTail hrest
          have htail := ih (fun b hb => hread b (List.mem_cons_of_mem a hb)) hkeepTail
            (Nat.le_of_succ_le_succ hn)
          rw [List.flatMap_cons, List.append_assoc, many, hread a List.mem_cons_self _ hfollows]
          simp only [htail]

theorem length_le_flatMap {α : Type} {write : α → List Char} {xs : List α}
    (h : ∀ a ∈ xs, write a ≠ []) : xs.length ≤ (xs.flatMap write).length := by
  induction xs with
  | nil => exact Nat.le_refl 0
  | cons a xs ih =>
      have ha := List.length_pos_iff.mpr (h a List.mem_cons_self)
      have htail := ih fun b hb => h b (List.mem_cons_of_mem a hb)
      rw [List.flatMap_cons, List.length_append, List.length_cons]
      omega

theorem readMany_written {α : Type} {p : Reader α} {write : α → List Char} {xs : List α}
    (Follows : List Char → Prop)
    (hread : ∀ a ∈ xs, ∀ cs, Follows cs → p (write a ++ cs) = some (a, cs))
    (hkeep : ∀ a ∈ xs, ∀ cs, Follows cs → Follows (write a ++ cs))
    (hwrite : ∀ a ∈ xs, write a ≠ [])
    {rest : List Char} (hrest : Follows rest) (hstop : p rest = none) :
    readMany p (xs.flatMap write ++ rest) = (xs, rest) := by
  refine many_written Follows hread hkeep hrest hstop ?_
  have := length_le_flatMap hwrite
  rw [List.length_append]
  omega

end RouteWorks.Text
