import RouteWorks.Parameter.Span
import RouteWorks.Parameter.Value
import RouteWorks.Proofs.Text.Blank
import RouteWorks.Proofs.Text.Joined

/-!
# What the rules of a parameter look at

A value may count as zero, have a length and be a number (`ParameterValue.IsZero`, `HasLength`, `IsNumber`),
each of which is said here for every kind of value.  A text denotes a span of numbers (`Span.Denotes`): one
number, or two ends around the first colon.  The values are measured and the texts are read by exactly these
rules.
-/

namespace RouteWorks

open Number (Binary)
open Text (trimChars)

/-! ## Values -/

namespace ParameterValue

/-- A value counts as zero: it is empty, it is nothing, or it is the zero of its kind.  A value that is present
counts as what it is. -/
inductive IsZero : ParameterValue → Prop
  | text : IsZero (.text "")
  | flag : IsZero (.flag false)
  | cookie (name : String) : IsZero (.cookie name "")
  | integer : IsZero (.integer 0)
  | real (f : Number.Format) (negative : Bool) (exponent : Int) :
      IsZero (.real f (.finite negative 0 exponent))
  | absent : IsZero .absent
  | present {v : ParameterValue} (h : IsZero v) : IsZero (.present v)
  | many : IsZero (.many [])

/-- The length of a value: the characters of a text or of what a cookie holds, and the items of a list. -/
inductive HasLength : ParameterValue → Nat → Prop
  | text (s : String) : HasLength (.text s) s.toList.length
  | cookie (name value : String) : HasLength (.cookie name value) value.toList.length
  | present {v : ParameterValue} {n : Nat} (h : HasLength v n) : HasLength (.present v) n
  | many (vs : List ParameterValue) : HasLength (.many vs) vs.length

/-- The number that a value is, in double precision. -/
inductive IsNumber : ParameterValue → Binary → Prop
  | integer (n : Int) : IsNumber (.integer n) (.ofInt Number.double n)
  | real (f : Number.Format) (x : Binary) : IsNumber (.real f x) (x.convert Number.double)
  | present {v : ParameterValue} {x : Binary} (h : IsNumber v x) : IsNumber (.present v) x

theorem isZero_iff {v : ParameterValue} : v.isZero = true ↔ v.IsZero := by
  constructor
  · intro h
    -- one case for each kind of value; only a value that is present has another one inside
    fun_induction isZero v with
    | case1 s => exact String.isEmpty_iff.mp h ▸ .text
    | case2 b =>
        cases b with
        | false => exact .flag
        | true => cases h
    | case3 name value => exact String.isEmpty_iff.mp h ▸ .cookie name
    | case4 n => exact eq_of_beq h ▸ .integer
    | case5 f x =>
        cases x with
        | finite negative m e => exact eq_of_beq h ▸ .real f negative e
        | nan => cases h
        | infinite negative => cases h
    | case6 => exact .absent
    | case7 v ih => exact .present (ih h)
    | case8 vs => exact List.isEmpty_iff.mp h ▸ .many
  · intro h
    induction h with
    | present _ ih => exact ih
    | _ => rfl

theorem length?_eq_some_iff {v : ParameterValue} {n : Nat} : v.length? = some n ↔ v.HasLength n := by
  constructor
  · intro h
    fun_induction length? v with
    | case1 s => exact Option.some.inj h ▸ .text s
    | case2 name value => exact Option.some.inj h ▸ .cookie name value
    | case3 vs => exact Option.some.inj h ▸ .many vs
    | case4 v ih => exact .present (ih h)
    | case5 => cases h
  · intro h
    induction h with
    | present _ ih => exact ih
    | _ => rfl

theorem number?_eq_some_iff {v : ParameterValue} {x : Binary} : v.number? = some x ↔ v.IsNumber x := by
  constructor
  · intro h
    fun_induction number? v with
    | case1 n => exact Option.some.inj h ▸ .integer n
    | case2 f y => exact Option.some.inj h ▸ .real f y
    | case3 v ih => exact .present (ih h)
    | case4 => cases h
  · intro h
    induction h with
    | present _ ih => exact ih
    | _ => rfl

end ParameterValue

/-! ## Spans -/

namespace Span

variable {cs : List Char} {spec : String} {e : Option Binary} {s : Span}

/-- A text denotes an end of a span: a number in double precision, or no end when nothing is written.  Blanks
around it do not count. -/
inductive DenotesEnd (cs : List Char) : Option Binary → Prop
  | unbounded (h : trimChars cs = []) : DenotesEnd cs none
  | bound {x : Binary} (h : Number.readBinary Number.double (trimChars cs) = .ok x) :
      DenotesEnd cs (some x)

/-- A text denotes a span: one number, which is both ends, or two ends around the first colon, each of which
may be missing.  Blanks around it do not count. -/
inductive Denotes (spec : String) : Span → Prop
  | exact {x : Binary} (hcolon : ':' ∉ trimChars spec.toList)
      (h : Number.readBinary Number.double (trimChars spec.toList) = .ok x) :
      Denotes spec { low := some x, high := some x }
  | between {low high : List Char} {a b : Option Binary}
      (hspec : trimChars spec.toList = low ++ ':' :: high) (hcolon : ':' ∉ low)
      (hlow : DenotesEnd low a) (hhigh : DenotesEnd high b) : Denotes spec { low := a, high := b }

theorem readEnd_eq_some_iff : readEnd cs = some e ↔ DenotesEnd cs e := by
  constructor
  · intro h
    simp only [readEnd] at h
    split at h
    · rename_i hempty
      cases h
      exact .unbounded (List.isEmpty_iff.mp hempty)
    split at h
    · rename_i x hread
      cases h
      exact .bound hread
    · cases h
  · intro h
    cases h with
    | unbounded hnone => simp [readEnd, hnone]
    | bound hread =>
        have hne : trimChars cs ≠ [] := by
          intro hnone
          rw [hnone] at hread
          cases hread
        simp [readEnd, hne, hread]

/-- A text is read as a span if and only if it denotes it. -/
theorem ofText?_eq_some_iff : ofText? spec = some s ↔ Denotes spec s := by
  constructor
  · intro h
    -- what is read is cut at the first colon, so both forms exclude one further in front
    simp only [ofText?] at h
    split at h
    · rename_i low high hcut
      obtain ⟨hspec, hcolon⟩ := Text.cutAt?_mark_eq_some_iff.mp hcut
      simp only [Option.bind_eq_bind, Option.bind_eq_some_iff, readEnd_eq_some_iff] at h
      obtain ⟨a, hlow, b, hhigh, hs⟩ := h
      cases hs
      exact .between hspec hcolon hlow hhigh
    · rename_i hcut
      simp only [Option.bind_eq_bind, Option.bind_eq_some_iff, readEnd_eq_some_iff] at h
      obtain ⟨e, hend, x, hx, hs⟩ := h
      cases hs
      cases hx
      cases hend with
      | bound hread =>
          rw [Text.trimChars_trimChars] at hread
          exact .exact (Text.cutAt?_mark_eq_none_iff.mp hcut) hread
  · intro h
    cases h with
    | exact hcolon hread =>
        have hend := readEnd_eq_some_iff.mpr (.bound (by rwa [Text.trimChars_trimChars]))
        simp [ofText?, Text.cutAt?_mark_eq_none_iff.mpr hcolon, hend]
    | between hspec hcolon hlow hhigh =>
        have hcut := Text.cutAt?_mark_eq_some_iff.mpr ⟨hspec, hcolon⟩
        simp [ofText?, hcut, readEnd_eq_some_iff.mpr hlow, readEnd_eq_some_iff.mpr hhigh]

theorem Denotes.unique {t : Span} (hs : Denotes spec s) (ht : Denotes spec t) : s = t := by
  rw [← ofText?_eq_some_iff] at hs ht
  exact Option.some.inj (hs.symm.trans ht)

end Span

end RouteWorks
