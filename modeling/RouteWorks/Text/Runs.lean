/-!
# Functions on code points given by runs

A property of code points is constant on long stretches, so a table stores where each stretch
starts. Looking a code point up finds the last stretch that starts at or before it.
-/

namespace RouteWorks.Text

/-- Where each stretch starts and the value it has, in ascending order of starts. -/
abbrev Runs (α : Type) := Array (Nat × α)

namespace Runs

variable {α : Type}

/-- Bisection for the last run that starts at or before `n`, among the indices from `lo` to `hi`.
`best` is the answer found so far. -/
def bisect (runs : Runs α) (n : Nat) (best : Option (Nat × α)) (lo hi : Nat) : Option (Nat × α) :=
  if lo < hi then
    let mid := (lo + hi) / 2
    match runs[mid]? with
    | none => best
    | some run =>
      if run.1 ≤ n then bisect runs n (some run) (mid + 1) hi
      else bisect runs n best lo mid
  else best
termination_by hi - lo

/-- The run that `n` lies in, with its start. -/
def run? (runs : Runs α) (n : Nat) : Option (Nat × α) :=
  bisect runs n none 0 runs.size

theorem bisect_eq_some {runs : Runs α} {n lo hi : Nat} {best : Option (Nat × α)} {run : Nat × α}
    (hbest : ∀ r, best = some r → r ∈ runs ∧ r.1 ≤ n)
    (h : bisect runs n best lo hi = some run) : run ∈ runs ∧ run.1 ≤ n := by
  induction best, lo, hi using bisect.induct runs n with
  | case1 best lo hi hlt mid hnone =>
      rw [bisect, if_pos hlt] at h
      simp only [show runs[(lo + hi) / 2]? = none from hnone] at h
      exact hbest run h
  | case2 best lo hi hlt mid r hr hle ih =>
      rw [bisect, if_pos hlt] at h
      simp only [show runs[(lo + hi) / 2]? = some r from hr, if_pos hle] at h
      refine ih ?_ h
      rintro r' ⟨rfl⟩
      exact ⟨Array.mem_of_getElem? hr, hle⟩
  | case3 best lo hi hlt mid r hr hle ih =>
      rw [bisect, if_pos hlt] at h
      simp only [show runs[(lo + hi) / 2]? = some r from hr, if_neg hle] at h
      exact ih hbest h
  | case4 best lo hi hlt =>
      rw [bisect, if_neg hlt] at h
      exact hbest run h

/-- The run that is found is one of the table and starts at or before `n`. -/
theorem run?_eq_some {runs : Runs α} {n : Nat} {run : Nat × α} (h : run? runs n = some run) :
    run ∈ runs ∧ run.1 ≤ n :=
  bisect_eq_some (by simp) h

/-- The value at `n`. -/
def get? (runs : Runs α) (n : Nat) : Option α :=
  (run? runs n).map (·.2)

end Runs

/-- Membership in a set of code points given by runs. -/
def Runs.mem (runs : Runs Bool) (n : Nat) : Bool :=
  (Runs.get? runs n).getD false

/-- The value of a list of decimal digits; other characters count as if they were digits. -/
def decimal (ds : List Char) : Nat :=
  ds.foldl (fun n c => 10 * n + (c.toNat - 48)) 0

/-- Cuts a list at every element that satisfies `sep`, dropping those elements. -/
def splitWhen {α : Type} (sep : α → Bool) (xs : List α) : List (List α) :=
  xs.foldr
    (fun x parts =>
      if sep x then [] :: parts
      else match parts with
        | [] => [[x]]
        | p :: ps => (x :: p) :: ps)
    [[]]

/-- The parts hold no separator. -/
theorem not_sep_of_mem_splitWhen {α : Type} {sep : α → Bool} {xs part : List α} {x : α}
    (hpart : part ∈ splitWhen sep xs) (hx : x ∈ part) : sep x = false := by
  induction xs generalizing part with
  | nil =>
      rw [List.mem_singleton.mp hpart] at hx
      cases hx
  | cons y ys ih =>
      change part ∈ (if sep y then [] :: splitWhen sep ys
        else match splitWhen sep ys with
          | [] => [[y]]
          | p :: ps => (y :: p) :: ps) at hpart
      split at hpart
      · rcases List.mem_cons.mp hpart with rfl | hpart
        · cases hx
        · exact ih hpart hx
      · rename_i hy
        have hhead : sep y = false := Bool.not_eq_true _ ▸ hy
        split at hpart
        · rw [List.mem_singleton.mp hpart] at hx
          rwa [List.mem_singleton.mp hx]
        · rename_i p ps hsplit
          rw [hsplit] at ih
          rcases List.mem_cons.mp hpart with rfl | hpart
          · rcases List.mem_cons.mp hx with rfl | hx
            · exact hhead
            · exact ih List.mem_cons_self hx
          · exact ih (List.mem_cons_of_mem p hpart) hx

/-- The blank-separated numbers of a table. -/
def tableNumbers (table : String) : List Nat :=
  ((splitWhen (· == ' ') table.toList).filter (!·.isEmpty)).map decimal

/-- A set of code points from pairs of numbers: how many to skip, how many to take. -/
def Runs.ofGaps (numbers : List Nat) : Runs Bool :=
  go 0 numbers #[(0, false)]
where
  /-- Adds the pairs that follow code point `at`. -/
  go (start : Nat) : List Nat → Runs Bool → Runs Bool
    | skip :: take :: rest, runs =>
      go (start + skip + take) rest
        ((runs.push (start + skip, true)).push (start + skip + take, false))
    | _, runs => runs

end RouteWorks.Text
