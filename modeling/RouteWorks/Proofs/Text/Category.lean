import Mathlib.Data.List.Basic
import RouteWorks.Text.Blank
import RouteWorks.Text.Letter

/-!
# Categories without their table

The table of categories is an array that bisection searches.  A category is also found by going through the
run lengths that the array is built from, up to the runs that some code points lie in (`findRuns`).
-/

namespace RouteWorks.Text

namespace Runs

variable {α : Type} {runs : Runs α} {n k : Nat}

/-- The run right before an index; there is none before the first. -/
def before? (runs : Runs α) (k : Nat) : Option (Nat × α) :=
  if k = 0 then none else runs[k - 1]?

/-- Bisection finds the run before `k`, where the runs that start behind `n` begin, as long as `k` stays
between its ends and `best` is the run before the lower one. -/
theorem bisect_eq (hsplit : ∀ i run, runs[i]? = some run → (run.1 ≤ n ↔ i < k))
    {best : Option (Nat × α)} {lo hi : Nat} (hlo : lo ≤ k) (hhi : k ≤ hi) (hsize : hi ≤ runs.size)
    (hbest : best = before? runs lo) : bisect runs n best lo hi = before? runs k := by
  induction best, lo, hi using bisect.induct runs n with
  | case1 best lo hi hlt mid hnone =>
      have hmid : (lo + hi) / 2 < runs.size := by omega
      rw [Array.getElem?_eq_getElem hmid] at hnone
      cases hnone
  | case2 best lo hi hlt mid run hrun hle ih =>
      have hmid : (lo + hi) / 2 < k := (hsplit _ run hrun).mp hle
      rw [bisect, if_pos hlt]
      simp only [show runs[(lo + hi) / 2]? = some run from hrun, if_pos hle]
      exact ih hmid hhi hsize hrun.symm
  | case3 best lo hi hlt mid run hrun hle ih =>
      have hmid : ¬ (lo + hi) / 2 < k := fun h => hle ((hsplit _ run hrun).mpr h)
      rw [bisect, if_pos hlt]
      simp only [show runs[(lo + hi) / 2]? = some run from hrun, if_neg hle]
      exact ih hlo (by omega) (by omega) hbest
  | case4 best lo hi hlt =>
      have hk : lo = k := by omega
      rw [bisect, if_neg hlt, hbest, hk]

/-- The run that a code point lies in is the one between those that start at or before it and those that
start behind it. -/
theorem get?_eq_some {before after : List (Nat × α)} {run : Nat × α}
    (hruns : runs.toList = before ++ run :: after) (hbefore : ∀ r ∈ before, r.1 ≤ n)
    (hrun : run.1 ≤ n) (hafter : ∀ r ∈ after, n < r.1) : runs.get? n = some run.2 := by
  have hget : ∀ i : Nat, runs[i]? = (before ++ run :: after)[i]? := by
    intro i
    rw [← hruns, Array.getElem?_toList]
  have hsplit : ∀ i r, runs[i]? = some r → (r.1 ≤ n ↔ i < before.length + 1) := by
    intro i r hr
    rw [hget] at hr
    rcases Nat.lt_trichotomy i before.length with hi | rfl | hi
    · rw [List.getElem?_append_left hi] at hr
      have := hbefore r (List.mem_of_getElem? hr)
      omega
    · rw [List.getElem?_append_right (Nat.le_refl _), Nat.sub_self, List.getElem?_cons_zero] at hr
      obtain rfl := Option.some.inj hr
      omega
    · rw [List.getElem?_append_right (Nat.le_of_lt hi), List.getElem?_cons, if_neg (by omega)] at hr
      have := hafter r (List.mem_of_getElem? hr)
      omega
  have hsize : runs.size = before.length + (after.length + 1) := by
    rw [← Array.length_toList, hruns, List.length_append, List.length_cons]
  have hfound : run? runs n = before? runs (before.length + 1) :=
    bisect_eq hsplit (Nat.zero_le _) (by omega) (Nat.le_refl _) rfl
  rw [get?, hfound, before?, if_neg (Nat.succ_ne_zero _), hget, Nat.add_sub_cancel,
    List.getElem?_append_right (Nat.le_refl _), Nat.sub_self, List.getElem?_cons_zero]
  rfl

end Runs

namespace Category

variable {ns : List Nat} {start count lo hi : Nat} {v : Category} {runs : Runs Category}
variable {c d : Char} {cs rest : List Char}

/-- The runs that the code points `ns`, in ascending order, lie in: where each starts, where the next
one does, and its category. -/
def findRuns : (ns : List Nat) → (start count : Nat) → List Char → List (Nat × Nat × Category)
  | [], _, _, _ => []
  | _ :: _, _, _, [] => []
  | n :: ns, start, count, c :: rest =>
    if c.isDigit then findRuns (n :: ns) start (10 * count + (c.toNat - 48)) rest
    else match rest with
      | [] => []
      | d :: rest =>
        if n < start + count then
          (start, start + count, (ofCode? (String.ofList [c, d])).getD unassigned) ::
            findRuns ns (start + count) 0 rest
        else findRuns (n :: ns) (start + count) 0 rest

theorem readRuns_digit (h : c.isDigit = true) : readRuns start count runs (c :: rest) =
    readRuns start (10 * count + (c.toNat - 48)) runs rest := by
  cases rest <;> simp [readRuns, h]

theorem findRuns_digit (h : c.isDigit = true) : findRuns ns start count (c :: rest) =
    findRuns ns start (10 * count + (c.toNat - 48)) rest := by
  cases ns with
  | nil => simp [findRuns]
  | cons n ns => cases rest <;> simp [findRuns, h]

theorem findRuns_code (h : ¬ c.isDigit = true) {run : Nat × Nat × Category}
    (hrun : run ∈ findRuns ns start count (c :: d :: rest)) :
    run = (start, start + count, (ofCode? (String.ofList [c, d])).getD unassigned) ∨
      ∃ ns, run ∈ findRuns ns (start + count) 0 rest := by
  cases ns with
  | nil => simp [findRuns] at hrun
  | cons n ns =>
      rw [findRuns, if_neg h] at hrun
      split at hrun
      · exact (List.mem_cons.mp hrun).imp id fun hrun => ⟨ns, hrun⟩
      · exact Or.inr ⟨n :: ns, hrun⟩

/-- Reading adds runs behind those that are there. -/
theorem readRuns_eq_append (start count : Nat) (runs : Runs Category) (cs : List Char) :
    ∃ more, (readRuns start count runs cs).toList = runs.toList ++ more ∧
      ∀ run ∈ more, start ≤ run.1 := by
  induction start, count, runs, cs using readRuns.induct with
  | case1 start count runs => exact ⟨[], (List.append_nil _).symm, by simp⟩
  | case2 start count runs c rest hdigit ih =>
      obtain ⟨more, hmore, hstart⟩ := ih
      exact ⟨more, by rw [readRuns_digit hdigit, hmore], hstart⟩
  | case3 start count runs c hdigit =>
      exact ⟨[], by simp [readRuns, hdigit], by simp⟩
  | case4 start count runs c hdigit d rest ih =>
      obtain ⟨more, hmore, hstart⟩ := ih
      refine ⟨(start, (ofCode? (String.ofList [c, d])).getD unassigned) :: more, ?_, ?_⟩
      · rw [readRuns, if_neg hdigit, hmore, Array.toList_push, List.append_assoc,
          List.singleton_append]
      · refine List.forall_mem_cons.mpr ⟨(Nat.le_refl _), fun run hrun => ?_⟩
        have := hstart run hrun
        omega

/-- A run that is found has the category of each code point in it. -/
theorem get?_readRuns (hruns : ∀ run ∈ runs.toList, run.1 ≤ start)
    (hfind : (lo, hi, v) ∈ findRuns ns start count cs) {m : Nat} (hlo : lo ≤ m) (hhi : m < hi) :
    start ≤ lo ∧ (readRuns start count runs cs).get? m = some v := by
  induction start, count, runs, cs using readRuns.induct generalizing ns with
  | case1 start count runs => cases ns <;> simp [findRuns] at hfind
  | case2 start count runs c rest hdigit ih =>
      rw [findRuns_digit hdigit] at hfind
      rw [readRuns_digit hdigit]
      exact ih hruns hfind
  | case3 start count runs c hdigit => cases ns <;> simp [findRuns, hdigit] at hfind
  | case4 start count runs c hdigit d rest ih =>
      rw [readRuns, if_neg hdigit]
      rcases findRuns_code hdigit hfind with heq | ⟨ns, hfind⟩
      · -- the run is this one, and what is read from here on starts behind it
        obtain ⟨rfl, rfl, rfl⟩ : lo = start ∧ hi = start + count ∧
            v = (ofCode? (String.ofList [c, d])).getD unassigned := by
          simpa using heq
        refine ⟨(Nat.le_refl _), ?_⟩
        obtain ⟨more, hmore, hbehind⟩ := readRuns_eq_append (lo + count) 0
          (runs.push (lo, (ofCode? (String.ofList [c, d])).getD unassigned)) rest
        rw [Array.toList_push, List.append_assoc, List.singleton_append] at hmore
        refine Runs.get?_eq_some hmore (fun run hrun => Nat.le_trans (hruns run hrun) hlo) hlo ?_
        exact fun run hrun => Nat.lt_of_lt_of_le hhi (hbehind run hrun)
      · have hpush : ∀ run ∈ (runs.push (start,
            (ofCode? (String.ofList [c, d])).getD unassigned)).toList, run.1 ≤ start + count := by
          intro run hrun
          rw [Array.toList_push] at hrun
          rcases List.mem_append.mp hrun with hrun | hrun
          · have := hruns run hrun
            omega
          · rw [List.mem_singleton.mp hrun]
            omega
        obtain ⟨hle, hget⟩ := ih hpush hfind
        exact ⟨by omega, hget⟩

/-- The run of the first decimal digits that are not ASCII, the Arabic-Indic ones. -/
def digitRun : Nat × Nat × Category := (0x660, 0x66A, decimalNumber)

/-- The runs of the blank characters that are not ASCII. -/
def blankRuns : List (Nat × Nat × Category) :=
  [(0x7F, 0xA0, control), (0xA0, 0xA1, spaceSeparator), (0x1680, 0x1681, spaceSeparator),
   (0x2000, 0x200B, spaceSeparator), (0x2028, 0x2029, lineSeparator),
   (0x2029, 0x202A, paragraphSeparator), (0x202F, 0x2030, spaceSeparator),
   (0x205F, 0x2060, spaceSeparator), (0x3000, 0x3001, spaceSeparator)]

set_option maxRecDepth 100000 in
theorem findRuns_table :
    findRuns [0x7F, 0xA0, 0x660, 0x1680, 0x2000, 0x2028, 0x2029, 0x202F, 0x205F, 0x3000] 0 0
      Table.categoryRuns.toList = blankRuns.insertIdx 2 digitRun := by
  rw [Table.categoryRuns, String.toList_join]
  iterate 73 rw [List.flatMap_cons]
  repeat rw [String.toList_ofList]
  decide +kernel

/-- All characters of these runs have the category of their run. -/
theorem category_of_run {c : Char} (hrun : (lo, hi, v) ∈ blankRuns.insertIdx 2 digitRun)
    (hlo : lo ≤ c.toNat) (hhi : c.toNat < hi) : category c = v := by
  rw [← findRuns_table] at hrun
  rw [category, Category.runs, (get?_readRuns (by simp) hrun hlo hhi).2]
  rfl

/-- A blank character that is not ASCII lies in one of these runs. -/
theorem exists_blankRun {c : Char} (hblank : isBlank c = true) (hascii : isAscii c = false) :
    ∃ run ∈ blankRuns, run.1 ≤ c.toNat ∧ c.toNat < run.2.1 := by
  have hbig : ¬ c.toNat < 128 := of_decide_eq_false hascii
  simp [isBlank] at hblank
  simp [blankRuns]
  omega

end Category

/-- The Arabic-Indic digits are decimal digits. -/
theorem isDecimalDigit_arabicIndic {c : Char} (hlo : 0x660 ≤ c.toNat) (hhi : c.toNat < 0x66A) :
    isDecimalDigit c = true := by
  have hascii : isAscii c = false := decide_eq_false (by omega)
  have hcategory : category c = .decimalNumber :=
    Category.category_of_run (by decide) hlo hhi
  rw [isDecimalDigit, hascii, if_neg Bool.false_ne_true, hcategory]
  rfl

/-- No blank character is a digit, in any script. -/
theorem isDecimalDigit_of_isBlank {c : Char} (hblank : isBlank c = true) :
    isDecimalDigit c = false := by
  cases hascii : isAscii c with
  | true =>
      have hdigit : ¬ (48 ≤ c.toNat ∧ c.toNat ≤ 57) := by
        have hsmall : c.toNat < 128 := of_decide_eq_true hascii
        simp [isBlank] at hblank
        omega
      rw [isDecimalDigit, hascii, if_pos rfl, Bool.eq_false_iff]
      exact fun h => hdigit (Char.isDigit_iff_toNat.mp h)
  | false =>
      obtain ⟨⟨lo, hi, v⟩, hrun, hlo, hhi⟩ := Category.exists_blankRun hblank hascii
      have hlisted : (lo, hi, v) ∈ Category.blankRuns.insertIdx 2 Category.digitRun := by
        have hsub : ∀ run ∈ Category.blankRuns,
            run ∈ Category.blankRuns.insertIdx 2 Category.digitRun := by decide
        exact hsub _ hrun
      have hother : ∀ run ∈ Category.blankRuns, (run.2.2 == .decimalNumber) = false := by decide
      rw [isDecimalDigit, hascii, if_neg Bool.false_ne_true,
        Category.category_of_run hlisted hlo hhi]
      exact hother _ hrun

end RouteWorks.Text
