import RouteWorks.Proofs.Text.Reader
import RouteWorks.Text.Hex
import RouteWorks.Text.Quoted

/-!
# String literals

All that can stand between the quotes of a string literal in the source of a program: characters, escapes of
one letter, escapes by code points in two hexadecimal digits or in braces, and lines that are continued.
A quoted text is a literal for this text (`readLiteral_quote`).
-/

namespace RouteWorks.Text

/-! ## Escapes -/

theorem hexDigit?_digitChar {d : Nat} (hd : d < 16) : hexDigit? d.digitChar = some d := by
  have hall : ∀ d < 16, hexDigit? d.digitChar = some d := by decide
  exact hall d hd

/-- The digits of a number write it. -/
theorem hexNumber?_hex (n : Nat) :
    hexNumber? (hex n) = some n ∧ ∀ c ∈ hex n, (hexDigit? c).isSome := by
  induction n using Nat.strongRecOn with
  | ind n ih =>
      by_cases hn : n < 16
      · have hdigit := hexDigit?_digitChar hn
        rw [hex, Nat.toDigits_of_lt_base hn]
        refine ⟨?_, ?_⟩
        · simp [hexNumber?, hdigit]
        · intro c hc
          rw [List.mem_singleton.mp hc, hdigit]
          rfl
      · have hbase : 16 ≤ n := Nat.le_of_not_lt hn
        have hdigit := hexDigit?_digitChar (Nat.mod_lt n (by decide : 0 < 16))
        obtain ⟨hfront, hdigits⟩ := ih (n / 16) (Nat.div_lt_self (by omega) (by decide))
        rw [hex, Nat.toDigits_of_base_le (by decide) hbase]
        rw [hex] at hfront hdigits
        refine ⟨?_, ?_⟩
        · rw [hexNumber?] at hfront ⊢
          split at hfront
          · cases hfront
          · rw [if_neg (by simp), List.foldlM_append, hfront]
            simp only [Option.bind_eq_bind, Option.bind_some, List.foldlM_cons, List.foldlM_nil,
              hdigit, Option.map_some, Option.pure_def, Option.some.injEq]
            exact Nat.div_add_mod n 16
        · intro c hc
          rcases List.mem_append.mp hc with hc | hc
          · exact hdigits c hc
          · rw [List.mem_singleton.mp hc, hdigit]
            rfl

theorem scalar?_toNat (c : Char) : scalar? c.toNat = some c := by
  have hvalid : c.toNat < 0xD800 ∨ (0xDFFF < c.toNat ∧ c.toNat < 0x110000) := c.valid
  rw [scalar?, if_pos hvalid, Char.ofNat_toNat]

/-- The characters with a short escape. -/
def shortEscapes : List Char := ['"', '\\', '\n', '\t', '\r', '\x00']

/-- All other characters stand for themselves or are written by their code points. -/
theorem escapeChar_of_not_short {c : Char} (h : c ∉ shortEscapes) :
    escapeChar c = [c] ∨
      escapeChar c = '\\' :: 'u' :: '\x7b' :: (hex c.toNat ++ ['\x7d']) := by
  simp only [shortEscapes, List.mem_cons, List.not_mem_nil, or_false, not_or] at h
  obtain ⟨hquote, hback, hline, htab, hreturn, hzero⟩ := h
  rw [escapeChar, if_neg hquote, if_neg hback, if_neg hline, if_neg htab, if_neg hreturn,
    if_neg hzero]
  split
  · exact Or.inl rfl
  · exact Or.inr rfl

/-! ## Literals -/

/-- What a backslash and one character stand for. -/
def shortEscape? : Char → Option Char
  | '"' => some '"'
  | '\\' => some '\\'
  | '\'' => some '\''
  | 'n' => some '\n'
  | 't' => some '\t'
  | 'r' => some '\r'
  | '0' => some '\x00'
  | _ => none

/-- Reads the digits of a code point up to the brace that closes them.  There are at most six, and underscores
may stand behind any of them. -/
def readCodePoint : Reader Char := fun cs => do
  let (digits, rest) ← cutAt? (· == '\x7d') cs
  let plain := digits.filter (· != '_')
  if digits.head? = some '_' ∨ 6 < plain.length then none
  else return (← scalar? (← hexNumber? plain), rest)

/-- Reads a piece of a string literal: a character, or none at the end of a line that is continued.  A
continued line goes on behind the blanks of the next one.  A carriage return is always written as an
escape. -/
def readPiece : Reader (Option Char)
  | '\\' :: 'x' :: high :: low :: cs => do
      let n ← hexNumber? [high, low]
      if n < 128 then return (some (Char.ofNat n), cs) else none
  | '\\' :: 'u' :: '\x7b' :: cs => (readCodePoint cs).map fun (c, rest) => (some c, rest)
  | '\\' :: '\n' :: cs => some (none, cs.dropWhile Char.isWhitespace)
  | '\\' :: c :: cs => (shortEscape? c).map fun d => (some d, cs)
  | '"' :: _ => none
  | '\r' :: _ => none
  | c :: cs => some (some c, cs)
  | [] => none

/-- Reads a string literal. -/
def readLiteral : Reader String
  | '"' :: cs =>
      match readMany readPiece cs with
      | (pieces, '"' :: rest) => some (String.ofList (pieces.filterMap id), rest)
      | _ => none
  | _ => none

/-- The code point of a character has at most six digits. -/
theorem length_hex_le (c : Char) : (hex c.toNat).length ≤ 6 := by
  have hvalid : c.toNat < 0xD800 ∨ (0xDFFF < c.toNat ∧ c.toNat < 0x110000) := c.valid
  rw [hex, Nat.length_toDigits_le_iff (by decide) (by decide)]
  omega

theorem ne_of_mem_hex {n : Nat} {d mark : Char} (hd : d ∈ hex n) (hmark : hexDigit? mark = none) :
    d ≠ mark := by
  rintro rfl
  have hdigit := (hexNumber?_hex n).2 d hd
  rw [hmark] at hdigit
  cases hdigit

theorem readCodePoint_hex (c : Char) (cs : List Char) :
    readCodePoint (hex c.toNat ++ '\x7d' :: cs) = some (c, cs) := by
  have hcut : cutAt? (· == '\x7d') (hex c.toNat ++ '\x7d' :: cs) = some (hex c.toNat, cs) :=
    cutAt?_append (fun d hd => beq_eq_false_iff_ne.mpr (ne_of_mem_hex hd (by decide))) BEq.rfl cs
  have hplain : (hex c.toNat).filter (· != '_') = hex c.toNat :=
    List.filter_eq_self.mpr fun d hd => bne_iff_ne.mpr (ne_of_mem_hex hd (by decide))
  have hfirst : (hex c.toNat).head? ≠ some '_' := by
    intro h
    have hmark : hexDigit? '_' = none := by decide
    exact ne_of_mem_hex (List.mem_of_mem_head? h) hmark rfl
  have hshort : ¬((hex c.toNat).head? = some '_' ∨ 6 < (hex c.toNat).length) := by
    rw [not_or]
    exact ⟨hfirst, Nat.not_lt.mpr (length_hex_le c)⟩
  simp only [readCodePoint, hcut, hplain, if_neg hshort, (hexNumber?_hex c.toNat).1, scalar?_toNat,
    Option.bind_eq_bind, Option.bind_some, Option.pure_def]

/-- A character is a piece of a literal in the way it is escaped. -/
theorem readPiece_escapeChar (c : Char) (cs : List Char) :
    readPiece (escapeChar c ++ cs) = some (some c, cs) := by
  by_cases hshort : c ∈ shortEscapes
  · simp only [shortEscapes, List.mem_cons, List.not_mem_nil, or_false] at hshort
    rcases hshort with rfl | rfl | rfl | rfl | rfl | rfl <;> rfl
  · rcases escapeChar_of_not_short hshort with hself | hcode
    · have hne : ∀ d ∈ shortEscapes, c ≠ d := by
        rintro d hd rfl
        exact hshort hd
      have hback := hne '\\' (by decide)
      rw [hself, List.singleton_append, readPiece]
      · exact fun _ _ _ h _ => hback h
      · exact fun _ h _ => hback h
      · exact fun _ h _ => hback h
      · exact fun _ _ h _ => hback h
      · exact fun h => hne '"' (by decide) h
      · exact fun h => hne '\r' (by decide) h
    · rw [hcode]
      simp only [List.cons_append, List.append_assoc, List.nil_append, readPiece, readCodePoint_hex,
        Option.map_some]

theorem escapeChar_ne_nil (c : Char) : escapeChar c ≠ [] := by
  intro h
  have hread := readPiece_escapeChar c []
  rw [h] at hread
  cases hread

/-- A quoted text is a literal for it. -/
theorem readLiteral_quote (s : String) (rest : List Char) :
    readLiteral ((quote s).toList ++ rest) = some (s, rest) := by
  -- the pieces of a quoted text are its characters; no line is continued
  have hwritten : s.toList.flatMap escapeChar =
      (s.toList.map some).flatMap fun piece => (piece.map escapeChar).getD [] := by
    rw [List.flatMap_map]
    rfl
  have hpiece : ∀ piece ∈ s.toList.map some, ∃ c, piece = some c := by
    intro piece hpiece
    obtain ⟨c, -, rfl⟩ := List.mem_map.mp hpiece
    exact ⟨c, rfl⟩
  have hpieces : readMany readPiece (s.toList.flatMap escapeChar ++ '"' :: rest) =
      (s.toList.map some, '"' :: rest) := by
    rw [hwritten]
    refine readMany_written (fun _ => True) ?_ (fun _ _ _ _ => trivial) ?_ trivial rfl
    · intro piece hmem cs _
      obtain ⟨c, rfl⟩ := hpiece piece hmem
      exact readPiece_escapeChar c cs
    · intro piece hmem
      obtain ⟨c, rfl⟩ := hpiece piece hmem
      exact escapeChar_ne_nil c
  rw [quote, String.toList_ofList, List.cons_append, List.append_assoc, List.singleton_append,
    readLiteral, hpieces]
  simp only [List.filterMap_map, Function.comp_def, id_eq, List.filterMap_some, String.ofList_toList]

end RouteWorks.Text
