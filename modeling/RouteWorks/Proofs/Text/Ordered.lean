import Mathlib.Data.List.Basic
import Mathlib.Order.Defs.Unbundled
import RouteWorks.Text.Ordered

/-!
# Ordered sets and maps as sets and maps

The set of a list has the elements of the list, each once and in ascending order (`mem_ofList`,
`ascending_ofList`).  Changing the value of a key of an ordered map changes nothing else
(`lookup_update`).
-/

namespace RouteWorks.Ordered

/-! ## Looking up -/

section Lookup

variable {α β : Type} [BEq α] [LawfulBEq α]

theorem lookup_cons_eq [DecidableEq α] (i j : α) (b : β) (xs : List (α × β)) :
    ((i, b) :: xs).lookup j = if j = i then some b else xs.lookup j := by
  rw [List.lookup_cons]
  split
  · rename_i h
    rw [if_pos (eq_of_beq h)]
  · rename_i h
    rw [if_neg fun heq => Bool.eq_false_iff.mp h (beq_iff_eq.mpr heq)]

theorem lookup_eq_none_of_lt [LT α] [Std.Irrefl fun a b : α => a < b] {k : α} {xs : List (α × β)}
    (h : ∀ j ∈ xs.map Prod.fst, k < j) : xs.lookup k = none := by
  refine List.lookup_eq_none_iff.mpr ?_
  intro x hx
  rw [bne_iff_ne]
  intro heq
  have hlt := h x.1 (List.mem_map_of_mem hx)
  rw [heq] at hlt
  exact Std.Irrefl.irrefl x.1 hlt

/-- A key that is there once has one value. -/
theorem lookup_eq_some_iff [DecidableEq α] {xs : List (α × β)} (h : (xs.map Prod.fst).Nodup)
    {k : α} {b : β} : xs.lookup k = some b ↔ (k, b) ∈ xs := by
  induction xs with
  | nil => simp
  | cons x xs ih =>
      obtain ⟨i, c⟩ := x
      obtain ⟨hi, hxs⟩ := List.pairwise_cons.mp h
      rw [lookup_cons_eq, List.mem_cons, Prod.mk.injEq]
      split
      · rename_i hki
        subst hki
        have hnot : (k, b) ∉ xs := fun hmem => hi k (List.mem_map.mpr ⟨_, hmem, rfl⟩) rfl
        rw [or_iff_left hnot, Option.some.injEq, eq_comm, and_iff_right rfl]
      · rename_i hki
        rw [ih hxs, or_iff_right fun heq => hki heq.1]

end Lookup

variable {α β : Type} [LT α] [DecidableEq α] [DecidableLT α]

/-! ## What is in a set or a map -/

theorem mem_insert {a x : α} {xs : List α} : x ∈ insert a xs ↔ x = a ∨ x ∈ xs := by
  induction xs with
  | nil => rw [insert, List.mem_singleton, or_iff_left List.not_mem_nil]
  | cons b bs ih =>
      rw [insert]
      split
      · rename_i hab
        rw [hab, List.mem_cons]
        tauto
      · split
        · rw [List.mem_cons]
        · rw [List.mem_cons, List.mem_cons, ih]
          tauto

theorem mem_ofList {x : α} {xs : List α} : x ∈ ofList xs ↔ x ∈ xs := by
  have hfold : ∀ set : List α, x ∈ xs.foldl (fun set a => insert a set) set ↔ x ∈ xs ∨ x ∈ set := by
    induction xs with
    | nil => simp
    | cons a xs ih =>
        intro set
        rw [List.foldl_cons, ih, mem_insert, List.mem_cons]
        tauto
  rw [ofList, hfold, or_iff_left List.not_mem_nil]

theorem keys_update (k : α) (empty : β) (f : β → β) (xs : List (α × β)) :
    (update k empty f xs).map Prod.fst = insert k (xs.map Prod.fst) := by
  induction xs with
  | nil => rfl
  | cons x xs ih =>
      obtain ⟨j, b⟩ := x
      rw [update, List.map_cons, insert]
      split
      · rfl
      · split
        · rfl
        · rw [List.map_cons, ih]

/-! ## The order -/

/-- The elements of a list ascend, so each of them is there once. -/
def Ascending (xs : List α) : Prop := xs.Pairwise (· < ·)

omit [DecidableEq α] [DecidableLT α] in
theorem Ascending.nodup [Std.Irrefl fun a b : α => a < b] {xs : List α} (h : Ascending xs) :
    xs.Nodup := by
  refine List.Pairwise.imp ?_ h
  rintro a _ hlt rfl
  exact Std.Irrefl.irrefl a hlt

variable [IsTrans α (· < ·)]

theorem ascending_insert [Std.Trichotomous fun a b : α => a < b] {a : α} {xs : List α}
    (h : Ascending xs) : Ascending (insert a xs) := by
  induction xs with
  | nil => exact List.pairwise_singleton _ a
  | cons b bs ih =>
      obtain ⟨hb, hbs⟩ := List.pairwise_cons.mp h
      rw [insert]
      split
      · exact h
      · rename_i hne
        split
        · rename_i hab
          refine List.pairwise_cons.mpr ⟨?_, h⟩
          intro c hc
          rcases List.mem_cons.mp hc with rfl | hc
          · exact hab
          · exact IsTrans.trans a b c hab (hb c hc)
        · rename_i hab
          refine List.pairwise_cons.mpr ⟨?_, ih hbs⟩
          intro c hc
          rcases mem_insert.mp hc with rfl | hc
          · by_contra hba
            exact hne (Std.Trichotomous.trichotomous _ _ hab hba)
          · exact hb c hc

theorem ascending_ofList [Std.Trichotomous fun a b : α => a < b] (xs : List α) :
    Ascending (ofList xs) := by
  have hfold : ∀ set : List α, Ascending set →
      Ascending (xs.foldl (fun set a => insert a set) set) := by
    induction xs with
    | nil => exact fun set h => h
    | cons a xs ih => exact fun set h => ih _ (ascending_insert h)
  exact hfold [] List.Pairwise.nil

variable [BEq α] [LawfulBEq α] [Std.Irrefl fun a b : α => a < b]

/-- The values of an updated map. -/
theorem lookup_update {k : α} {empty : β} {f : β → β} {xs : List (α × β)}
    (h : Ascending (xs.map Prod.fst)) (j : α) :
    (update k empty f xs).lookup j =
      if j = k then some (f ((xs.lookup k).getD empty)) else xs.lookup j := by
  induction xs with
  | nil => rw [update, lookup_cons_eq, List.lookup_nil, List.lookup_nil, Option.getD_none]
  | cons x xs ih =>
      obtain ⟨i, b⟩ := x
      obtain ⟨hi, hxs⟩ := List.pairwise_cons.mp h
      rw [update, lookup_cons_eq i k]
      split
      · rename_i hki
        rw [lookup_cons_eq, lookup_cons_eq, hki, Option.getD_some]
        split <;> rfl
      · rename_i hne
        split
        · rename_i hki
          -- the key comes before all that are there, so its value starts as the empty one
          have hnone : xs.lookup k = none :=
            lookup_eq_none_of_lt fun j hj => IsTrans.trans k i j hki (hi j hj)
          rw [lookup_cons_eq, hnone, Option.getD_none]
        · rw [lookup_cons_eq, lookup_cons_eq, ih hxs]
          split
          · rename_i hji
            rw [if_neg (hji ▸ Ne.symm hne)]
          · rfl

end RouteWorks.Ordered
