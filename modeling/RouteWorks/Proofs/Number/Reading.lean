import Mathlib.Data.List.TakeWhile
import RouteWorks.Number.Literal
import RouteWorks.Text.Letter

/-!
# Decimals that are read as numbers

A decimal in ASCII digits is read, with or without a sign and a fraction, and what is read is a number
(`readBinary_digits`, `readBinary_point`).  Nothing that has a character beyond ASCII is read
(`isAscii_of_readBinary`).  Numbers are totally ordered.
-/

namespace RouteWorks.Number

variable {f : Format} {negative : Bool}

namespace Binary

variable {x y : Binary}

/-! ## The order -/

theorem le_total (hx : x ≠ nan) (hy : y ≠ nan) : x.le y = true ∨ y.le x = true := by
  cases x with
  | nan => exact absurd rfl hx
  | infinite s =>
      cases y with
      | nan => exact absurd rfl hy
      | infinite t => cases s <;> cases t <;> simp [le]
      | finite t n g => cases s <;> simp [le]
  | finite s m e =>
      cases y with
      | nan => exact absurd rfl hy
      | infinite t => cases t <;> simp [le]
      | finite t n g =>
          simp only [le, decide_eq_true_eq, Int.min_comm g e]
          omega

theorem le_refl (hx : x ≠ nan) : x.le x = true := by
  simpa using le_total hx hx

theorem le_of_lt_eq_false (hx : x ≠ nan) (hy : y ≠ nan) (h : y.lt x = false) : x.le y = true := by
  rcases le_total hx hy with hle | hle
  · exact hle
  · simpa [lt, hle] using h

/-! ## Rounding -/

theorem ofRatio_ne_nan (num den : Nat) : ofRatio f negative num den ≠ nan := by
  rw [ofRatio]
  split
  · simp [zero]
  · simp only [pack]
    split <;> split <;> simp

theorem ofDecimal_ne_nan (digits : Nat) (e : Int) : ofDecimal f negative digits e ≠ nan := by
  simp only [ofDecimal]
  split
  · simp [zero]
  split
  · simp
  split
  · simp [zero]
  split
  · exact ofRatio_ne_nan _ _
  · exact ofRatio_ne_nan _ _

end Binary

/-! ## Decimals that are read -/

section Reads

variable {c : Char} {cs whole fraction : List Char}

namespace Literal

theorem toBinary_ne_nan (l : Literal) : l.toBinary f ≠ .nan := Binary.ofDecimal_ne_nan _ _

theorem readUnsigned?_digits (negative : Bool) (hne : whole ≠ [])
    (hwhole : ∀ c ∈ whole, c.isDigit = true) :
    readUnsigned? negative whole = some { negative, whole, fraction := [], exponent := 0 } := by
  have htake : whole.takeWhile Char.isDigit = whole := List.takeWhile_eq_self_iff.mpr hwhole
  have hdrop : whole.dropWhile Char.isDigit = [] := List.dropWhile_eq_nil_iff.mpr hwhole
  simp [readUnsigned?, htake, hdrop, hne, readExponent?]

theorem readUnsigned?_point (negative : Bool) (hne : whole ≠ [])
    (hwhole : ∀ c ∈ whole, c.isDigit = true) (hfraction : ∀ c ∈ fraction, c.isDigit = true) :
    readUnsigned? negative (whole ++ '.' :: fraction) =
      some { negative, whole, fraction, exponent := 0 } := by
  have hpoint : '.'.isDigit = false := by decide
  have htake : (whole ++ '.' :: fraction).takeWhile Char.isDigit = whole := by
    rw [List.takeWhile_append_of_pos hwhole, List.takeWhile_cons, hpoint]
    simp
  have hdrop : (whole ++ '.' :: fraction).dropWhile Char.isDigit = '.' :: fraction := by
    rw [List.dropWhile_append_of_pos hwhole, List.dropWhile_cons, hpoint]
    simp
  have hfractionTake : fraction.takeWhile Char.isDigit = fraction :=
    List.takeWhile_eq_self_iff.mpr hfraction
  have hfractionDrop : fraction.dropWhile Char.isDigit = [] :=
    List.dropWhile_eq_nil_iff.mpr hfraction
  simp [readUnsigned?, htake, hdrop, hfractionTake, hfractionDrop, hne, readExponent?]

end Literal

/-- Whether a minus sign is in front, and what is behind the sign. -/
def splitSign : List Char → Bool × List Char
  | '+' :: body => (false, body)
  | '-' :: body => (true, body)
  | body => (false, body)

/-- What is read behind a sign: a word, or an unsigned decimal. -/
def readBody (f : Format) (negative : Bool) (body : List Char) : Except DecimalFault Binary :=
  let word := String.ofList (body.map Char.toLower)
  if word = "inf" ∨ word = "infinity" then .ok (.infinite negative)
  else if word = "nan" then .ok .nan
  else match Literal.readUnsigned? negative body with
    | some l => .ok (l.toBinary f)
    | none => .error .invalid

theorem readBinary_eq (hne : cs ≠ []) :
    readBinary f cs = readBody f (splitSign cs).1 (splitSign cs).2 := by
  unfold readBinary
  rw [if_neg (mt List.isEmpty_iff.mp hne)]
  rfl

/-- The minus sign of a negative number. -/
def minus (negative : Bool) : List Char := if negative then ['-'] else []

theorem splitSign_minus (hplus : c ≠ '+') (hminus : c ≠ '-') :
    splitSign (minus negative ++ c :: cs) = (negative, c :: cs) := by
  cases negative with
  | false => simp [minus, splitSign, hplus, hminus]
  | true => simp [minus, splitSign]

theorem toLower_of_isDigit (hc : c.isDigit = true) : c.toLower = c := by
  refine dif_neg ?_
  rintro ⟨hlow, -⟩
  obtain ⟨-, hhigh⟩ := Char.isDigit_iff_toNat.mp hc
  exact absurd (Nat.le_trans hlow hhigh) (by decide)

/-- A text that starts with a digit is none of the words. -/
theorem readBody_of_isDigit {l : Literal} (hc : c.isDigit = true)
    (hread : Literal.readUnsigned? negative (c :: cs) = some l) :
    readBody f negative (c :: cs) = .ok (l.toBinary f) := by
  have hword : ∀ (word : String) (d : Char), word.toList.head? = some d → d.isDigit = false →
      String.ofList ((c :: cs).map Char.toLower) ≠ word := by
    rintro word d hhead hd rfl
    rw [String.toList_ofList, List.map_cons, toLower_of_isDigit hc] at hhead
    rw [← Option.some.inj hhead, hc] at hd
    cases hd
  have hinf := hword "inf" 'i' rfl (by decide)
  have hinfinity := hword "infinity" 'i' rfl (by decide)
  have hnan := hword "nan" 'n' rfl (by decide)
  simp only [readBody, hinf, hinfinity, hnan, hread, or_self, if_false]

/-- Behind a minus sign or none, an unsigned decimal is read. -/
theorem exists_readBinary {l : Literal} (hc : c.isDigit = true)
    (hread : Literal.readUnsigned? negative (c :: cs) = some l) :
    ∃ x, readBinary f (minus negative ++ c :: cs) = .ok x ∧ x ≠ .nan := by
  have hne : ∀ d : Char, d.isDigit = false → c ≠ d := by
    rintro d hd rfl
    rw [hc] at hd
    cases hd
  rw [readBinary_eq (by simp), splitSign_minus (hne '+' (by decide)) (hne '-' (by decide)),
    readBody_of_isDigit hc hread]
  exact ⟨_, rfl, Literal.toBinary_ne_nan l⟩

theorem readBinary_digits (hne : whole ≠ []) (hwhole : ∀ c ∈ whole, c.isDigit = true) :
    ∃ x, readBinary f (minus negative ++ whole) = .ok x ∧ x ≠ .nan := by
  have hread := Literal.readUnsigned?_digits negative hne hwhole
  obtain ⟨c, cs, rfl⟩ := List.exists_cons_of_ne_nil hne
  exact exists_readBinary (hwhole c List.mem_cons_self) hread

theorem readBinary_point (hne : whole ≠ []) (hwhole : ∀ c ∈ whole, c.isDigit = true)
    (hfraction : ∀ c ∈ fraction, c.isDigit = true) :
    ∃ x, readBinary f (minus negative ++ (whole ++ '.' :: fraction)) = .ok x ∧ x ≠ .nan := by
  have hread := Literal.readUnsigned?_point negative hne hwhole hfraction
  obtain ⟨c, cs, rfl⟩ := List.exists_cons_of_ne_nil hne
  exact exists_readBinary (hwhole c List.mem_cons_self) hread

end Reads

/-! ## Texts that are not read -/

section Ascii

open Text (isAscii)

variable {c : Char} {cs : List Char}

theorem isAscii_of_isDigit (h : c.isDigit = true) : isAscii c = true := by
  obtain ⟨-, hle⟩ := Char.isDigit_iff_toNat.mp h
  exact decide_eq_true (Nat.lt_of_le_of_lt hle (by decide))

theorem isAscii_of_toLower (h : isAscii c.toLower = true) : isAscii c = true := by
  by_cases hupper : c.val ≥ 'A'.val ∧ c.val ≤ 'Z'.val
  · have hhigh : c.toNat ≤ 'Z'.toNat := hupper.2
    exact decide_eq_true (Nat.lt_of_le_of_lt hhigh (by decide))
  · have hself : c.toLower = c := dif_neg hupper
    rwa [hself] at h

theorem isAscii_of_mem_takeWhile (h : c ∈ cs.takeWhile Char.isDigit) : isAscii c = true :=
  isAscii_of_isDigit (List.mem_takeWhile_imp h)

/-- A text is ASCII if its digits in front and what is behind them are. -/
theorem isAscii_of_dropWhile (h : ∀ c ∈ cs.dropWhile Char.isDigit, isAscii c = true) :
    ∀ c ∈ cs, isAscii c = true := by
  intro c hc
  rw [← List.takeWhile_append_dropWhile (p := Char.isDigit) (l := cs)] at hc
  rcases List.mem_append.mp hc with hc | hc
  · exact isAscii_of_mem_takeWhile hc
  · exact h c hc

namespace Literal

theorem isAscii_of_readExponent? {e : Int} (h : readExponent? cs = some e) :
    ∀ c ∈ cs, isAscii c = true := by
  have hdigits : ∀ (ds : List Char) (i : Int),
      (if ds.isEmpty || !ds.all Char.isDigit then none else some i) = some e →
      ∀ d ∈ ds, isAscii d = true := by
    intro ds i hds d hd
    split at hds
    · cases hds
    · rename_i hall
      have hall : ds.all Char.isDigit = true := by simp_all
      exact isAscii_of_isDigit (List.all_eq_true.mp hall d hd)
  cases cs with
  | nil => simp
  | cons c cs =>
      simp only [readExponent?] at h
      split at h
      · rename_i hmark
        have hc : isAscii c = true := by
          rcases Bool.or_eq_true _ _ ▸ hmark with hc | hc
          · rw [eq_of_beq hc]; decide
          · rw [eq_of_beq hc]; decide
        refine List.forall_mem_cons.mpr ⟨hc, ?_⟩
        split at h
        · exact List.forall_mem_cons.mpr ⟨by decide, hdigits _ _ h⟩
        · exact List.forall_mem_cons.mpr ⟨by decide, hdigits _ _ h⟩
        · exact hdigits _ _ h
      · cases h

theorem isAscii_of_readUnsigned? {l : Literal} (h : readUnsigned? negative cs = some l) :
    ∀ c ∈ cs, isAscii c = true := by
  apply isAscii_of_dropWhile
  have hexponent : ∀ (whole fraction rest : List Char),
      (if whole.isEmpty && fraction.isEmpty then none
        else (readExponent? rest).bind fun exponent =>
          some { negative, whole, fraction, exponent }) = some l →
      ∀ c ∈ rest, isAscii c = true := by
    intro whole fraction rest h
    split at h
    · cases h
    · obtain ⟨e, he, -⟩ := Option.bind_eq_some_iff.mp h
      exact isAscii_of_readExponent? he
  simp only [readUnsigned?, Option.bind_eq_bind] at h
  split at h
  · rename_i rest hrest
    rw [hrest]
    exact List.forall_mem_cons.mpr ⟨by decide, isAscii_of_dropWhile (hexponent _ _ _ h)⟩
  · exact hexponent _ _ _ h

end Literal

theorem isAscii_of_readBody {x : Binary} (h : readBody f negative cs = .ok x) :
    ∀ c ∈ cs, isAscii c = true := by
  have hword : ∀ word : String, String.ofList (cs.map Char.toLower) = word →
      word.toList.all isAscii = true → ∀ c ∈ cs, isAscii c = true := by
    rintro word rfl hascii c hc
    rw [String.toList_ofList] at hascii
    exact isAscii_of_toLower (List.all_eq_true.mp hascii _ (List.mem_map_of_mem hc))
  simp only [readBody] at h
  split at h
  · rename_i hinfinite
    rcases hinfinite with hinf | hinfinity
    · exact hword _ hinf (by decide)
    · exact hword _ hinfinity (by decide)
  split at h
  · rename_i hnan
    exact hword _ hnan (by decide)
  split at h
  · rename_i l hread
    exact Literal.isAscii_of_readUnsigned? hread
  · cases h

theorem isAscii_of_splitSign (h : ∀ c ∈ (splitSign cs).2, isAscii c = true) :
    ∀ c ∈ cs, isAscii c = true := by
  unfold splitSign at h
  split at h
  · exact List.forall_mem_cons.mpr ⟨by decide, h⟩
  · exact List.forall_mem_cons.mpr ⟨by decide, h⟩
  · exact h

/-- A text that is read is ASCII. -/
theorem isAscii_of_readBinary {x : Binary} (h : readBinary f cs = .ok x) :
    ∀ c ∈ cs, isAscii c = true := by
  cases cs with
  | nil => cases h
  | cons c cs =>
      rw [readBinary_eq (List.cons_ne_nil c cs)] at h
      exact isAscii_of_splitSign (isAscii_of_readBody h)

end Ascii

end RouteWorks.Number
