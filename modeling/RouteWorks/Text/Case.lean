import RouteWorks.Text.Letter
import RouteWorks.Text.Table.CaseRuns

/-!
# Case mapping

Upper and lower case images of single characters. An image can have several characters (`ß` becomes
`SS`), so it is a list. No rule here looks at the neighbours of a character.
-/

namespace RouteWorks.Text

/-- A stretch of code points moved together: `count` of them, `stride` apart, by `delta`. -/
structure Shift where
  count : Nat
  stride : Nat
  delta : Int
  deriving Repr, Inhabited

/-- Reads a number with an optional minus sign. -/
private def signed : List Char → Int
  | '-' :: ds => -(decimal ds : Int)
  | ds => decimal ds

/-- Reads the words `start:count:stride:delta` of a table. -/
def shiftRuns (table : String) : Runs Shift :=
  (splitWhen (· == ' ') table.toList).foldl
    (fun runs word =>
      match splitWhen (· == ':') word with
      | [start, count, stride, delta] =>
        runs.push (decimal start, ⟨decimal count, decimal stride, signed delta⟩)
      | _ => runs)
    #[]

/-- Reads the words `code:image:…` of a table. -/
def specialRuns (table : String) : Runs (List Char) :=
  (splitWhen (· == ' ') table.toList).foldl
    (fun runs word =>
      match splitWhen (· == ':') word with
      | code :: image@(_ :: _) => runs.push (decimal code, image.map (Char.ofNat ∘ decimal))
      | _ => runs)
    #[]

/-- Where a shift table moves a code point; code points in no stretch stay. -/
def Runs.shift (runs : Runs Shift) (n : Nat) : Nat :=
  match runs.run? n with
  | none => n
  | some (start, s) =>
    if (n - start) < s.count * s.stride && (n - start) % s.stride == 0
    then (n + s.delta).toNat else n

/-- The image that a table of special mappings lists. -/
def Runs.special? (runs : Runs (List Char)) (n : Nat) : Option (List Char) :=
  match runs.run? n with
  | some (code, image) => if code == n then some image else none
  | none => none

private def upperRuns : Runs Shift := shiftRuns Table.upperRuns
private def upperSpecial : Runs (List Char) := specialRuns Table.upperSpecial
private def lowerRuns : Runs Shift := shiftRuns Table.lowerRuns
private def lowerSpecial : Runs (List Char) := specialRuns Table.lowerSpecial
private def foldRuns : Runs Shift := shiftRuns Table.foldRuns

/-- The uppercase image of a character. -/
def upper (c : Char) : List Char :=
  if isAscii c then [c.toUpper]
  else (upperSpecial.special? c.toNat).getD [Char.ofNat (upperRuns.shift c.toNat)]

/-- The lowercase image of a character. -/
def lower (c : Char) : List Char :=
  if isAscii c then [c.toLower]
  else (lowerSpecial.special? c.toNat).getD [Char.ofNat (lowerRuns.shift c.toNat)]

/-- The simple case folding of a character. -/
def fold (c : Char) : Char :=
  if isAscii c then c.toLower else Char.ofNat (foldRuns.shift c.toNat)

/-! ## Images of name characters

Names are made of characters that pass `isNameChar`. No case mapping leads out of them, which is a
fact about the tables: each stretch is checked once.
-/

/-- A letter or a digit, or any character beyond ASCII. -/
def isNameChar (c : Char) : Bool := !isAscii c || c.isAlphanum

theorem isNameChar_of_isAlphanumeric {c : Char} (h : isAlphanumeric c = true) :
    isNameChar c = true := by
  unfold isAlphanumeric at h
  unfold isNameChar
  cases hc : isAscii c with
  | false => rfl
  | true => simpa [hc] using h

/-- Whether a stretch moves the code points beyond ASCII to name characters. -/
def Shift.keepsNames (start : Nat) (s : Shift) : Bool :=
  (List.range s.count).all fun i =>
    start + i * s.stride < 128 || isNameChar (Char.ofNat ((start + i * s.stride : Nat) + s.delta).toNat)

theorem Runs.isNameChar_shift {runs : Runs Shift}
    (htable : (runs.all fun r => r.2.keepsNames r.1) = true) {c : Char} (hc : isAscii c = false) :
    isNameChar (Char.ofNat (runs.shift c.toNat)) = true := by
  have hself : isNameChar (Char.ofNat c.toNat) = true := by
    rw [Char.ofNat_toNat, isNameChar, hc]
    rfl
  unfold Runs.shift
  split
  · exact hself
  · rename_i start s hrun
    obtain ⟨hmem, hle⟩ := Runs.run?_eq_some hrun
    split
    · rename_i hin
      simp only [Bool.and_eq_true, decide_eq_true_eq, beq_iff_eq] at hin
      obtain ⟨hlt, hmod⟩ := hin
      -- the code point is the `i`-th of its stretch
      have hpos : 0 < s.stride := by
        rcases Nat.eq_zero_or_pos s.stride with h | h
        · rw [h, Nat.mul_zero] at hlt
          omega
        · exact h
      have hi : (c.toNat - start) / s.stride < s.count := Nat.div_lt_of_lt_mul (by rwa [Nat.mul_comm])
      have hn : start + (c.toNat - start) / s.stride * s.stride = c.toNat := by
        rw [Nat.div_mul_cancel (Nat.dvd_of_mod_eq_zero hmod)]
        omega
      have hall := Array.all_eq_true_iff_forall_mem.mp htable _ hmem
      have hone := List.all_eq_true.mp hall _ (List.mem_range.mpr hi)
      rw [hn] at hone
      have hbig : ¬ c.toNat < 128 := by
        intro h
        rw [isAscii, decide_eq_true h] at hc
        exact Bool.noConfusion hc
      simpa [hbig] using hone
    · exact hself

theorem Runs.isNameChar_special {runs : Runs (List Char)}
    (htable : (runs.all fun r => r.2.all isNameChar) = true) {n : Nat} {image : List Char}
    (h : runs.special? n = some image) : ∀ d ∈ image, isNameChar d = true := by
  unfold Runs.special? at h
  split at h
  · rename_i code img hrun
    split at h
    · cases h
      exact List.all_eq_true.mp (Array.all_eq_true_iff_forall_mem.mp htable _ (run?_eq_some hrun).1)
    · cases h
  · cases h

private theorem isNameChar_image {special : Runs (List Char)} {shifts : Runs Shift}
    (hspecial : (special.all fun r => r.2.all isNameChar) = true)
    (hshifts : (shifts.all fun r => r.2.keepsNames r.1) = true) {c : Char}
    (hc : isAscii c = false) :
    ∀ d ∈ (special.special? c.toNat).getD [Char.ofNat (shifts.shift c.toNat)],
      isNameChar d = true := by
  cases h : special.special? c.toNat with
  | none =>
      intro d hd
      rw [Option.getD_none, List.mem_singleton] at hd
      rw [hd]
      exact Runs.isNameChar_shift hshifts hc
  | some image => exact Runs.isNameChar_special hspecial h

private theorem isNameChar_ascii {c : Char} (hc : isAscii c = true) (h : isNameChar c = true) :
    isNameChar c.toUpper = true ∧ isNameChar c.toLower = true := by
  have hall : ∀ n < 128, isNameChar (Char.ofNat n) = true →
      isNameChar (Char.ofNat n).toUpper = true ∧ isNameChar (Char.ofNat n).toLower = true := by
    decide
  have hlt : c.toNat < 128 := of_decide_eq_true hc
  simpa only [Char.ofNat_toNat] using hall c.toNat hlt (by rwa [Char.ofNat_toNat])

private theorem upperSpecial_names :
    (upperSpecial.all fun r => r.2.all isNameChar) = true := by
  rw [upperSpecial, specialRuns, Table.upperSpecial, String.toList_join]
  simp only [List.flatMap_cons, List.flatMap_nil]
  repeat rw [String.toList_ofList]
  decide +kernel

private theorem upperRuns_names : (upperRuns.all fun r => r.2.keepsNames r.1) = true := by
  rw [upperRuns, shiftRuns, Table.upperRuns, String.toList_join]
  simp only [List.flatMap_cons, List.flatMap_nil]
  repeat rw [String.toList_ofList]
  decide +kernel

private theorem lowerSpecial_names :
    (lowerSpecial.all fun r => r.2.all isNameChar) = true := by
  rw [lowerSpecial, specialRuns, Table.lowerSpecial, String.toList_join]
  simp only [List.flatMap_cons, List.flatMap_nil]
  repeat rw [String.toList_ofList]
  decide +kernel

private theorem lowerRuns_names : (lowerRuns.all fun r => r.2.keepsNames r.1) = true := by
  rw [lowerRuns, shiftRuns, Table.lowerRuns, String.toList_join]
  simp only [List.flatMap_cons, List.flatMap_nil]
  repeat rw [String.toList_ofList]
  decide +kernel

/-- Raising a name character gives name characters. -/
theorem isNameChar_of_mem_upper {c d : Char} (h : isNameChar c = true) (hd : d ∈ upper c) :
    isNameChar d = true := by
  unfold upper at hd
  split at hd
  · rename_i hc
    rw [List.mem_singleton.mp hd]
    exact (isNameChar_ascii hc h).1
  · rename_i hc
    exact isNameChar_image upperSpecial_names upperRuns_names (Bool.not_eq_true _ ▸ hc) d hd

/-- Lowering a name character gives name characters. -/
theorem isNameChar_of_mem_lower {c d : Char} (h : isNameChar c = true) (hd : d ∈ lower c) :
    isNameChar d = true := by
  unfold lower at hd
  split at hd
  · rename_i hc
    rw [List.mem_singleton.mp hd]
    exact (isNameChar_ascii hc h).2
  · rename_i hc
    exact isNameChar_image lowerSpecial_names lowerRuns_names (Bool.not_eq_true _ ▸ hc) d hd

/-- Lowers the ASCII letters of a text and keeps all else. -/
def asciiLower (s : String) : String := String.ofList (s.toList.map Char.toLower)

/-- Raises the ASCII letters of a text and keeps all else. -/
def asciiUpper (s : String) : String := String.ofList (s.toList.map Char.toUpper)

end RouteWorks.Text
