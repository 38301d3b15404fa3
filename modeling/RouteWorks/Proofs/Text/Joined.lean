import Mathlib.Data.List.Basic
import Mathlib.Data.List.TakeWhile
import RouteWorks.Proofs.Text.Reader

/-!
# Joined and split texts

Splitting undoes joining as long as the parts are free of separators, so a joined text has no other
parts than the ones that it was joined from (`join_inj`).
-/

namespace RouteWorks.Text

/-! ## Cutting at the first separator -/

theorem cutAt?_eq_some_iff {α : Type} {sep : α → Bool} {xs before after : List α} :
    cutAt? sep xs = some (before, after) ↔
      ∃ a, xs = before ++ a :: after ∧ sep a = true ∧ ∀ b ∈ before, sep b = false := by
  constructor
  · intro h
    rw [cutAt?, List.span_eq_takeWhile_dropWhile] at h
    have hsplit : xs.takeWhile (fun x => !sep x) ++ xs.dropWhile (fun x => !sep x) = xs :=
      List.takeWhile_append_dropWhile
    cases hrest : xs.dropWhile (fun x => !sep x) with
    | nil =>
        rw [hrest] at h
        cases h
    | cons a rest =>
        rw [hrest] at h hsplit
        cases h
        refine ⟨a, hsplit.symm, ?_, ?_⟩
        · have hhead := List.head?_dropWhile_not (fun x => !sep x) xs
          rw [hrest] at hhead
          simpa using hhead
        · intro b hb
          simpa using List.all_eq_true.mp List.all_takeWhile b hb
  · rintro ⟨a, rfl, ha, hbefore⟩
    exact cutAt?_append hbefore ha after

theorem cutAt?_eq_none_iff {α : Type} {sep : α → Bool} {xs : List α} :
    cutAt? sep xs = none ↔ ∀ x ∈ xs, sep x = false := by
  constructor
  · intro h x hx
    rw [cutAt?, List.span_eq_takeWhile_dropWhile] at h
    split at h
    · rename_i before hsplit
      have hnil : xs.dropWhile (fun x => !sep x) = [] := congrArg Prod.snd hsplit
      simpa using List.dropWhile_eq_nil_iff.mp hnil x hx
    · cases h
  · intro h
    cases hcut : cutAt? sep xs with
    | none => rfl
    | some parts =>
        obtain ⟨a, rfl, ha, -⟩ := cutAt?_eq_some_iff.mp hcut
        rw [h a (List.mem_append_right _ List.mem_cons_self)] at ha
        cases ha

section Mark

variable {α : Type} [BEq α] [LawfulBEq α] {mark : α} {xs before after : List α}

theorem cutAt?_mark_eq_some_iff : cutAt? (· == mark) xs = some (before, after) ↔
    xs = before ++ mark :: after ∧ mark ∉ before := by
  rw [cutAt?_eq_some_iff]
  constructor
  · rintro ⟨a, rfl, ha, hbefore⟩
    rw [eq_of_beq ha]
    refine ⟨rfl, fun hmem => ?_⟩
    have hmark := hbefore mark hmem
    rw [BEq.rfl] at hmark
    cases hmark
  · rintro ⟨rfl, hmark⟩
    exact ⟨mark, rfl, BEq.rfl, beq_eq_false_of_not_mem hmark⟩

theorem cutAt?_mark_eq_none_iff : cutAt? (· == mark) xs = none ↔ mark ∉ xs := by
  rw [cutAt?_eq_none_iff]
  constructor
  · intro h hmem
    have hmark := h mark hmem
    rw [BEq.rfl] at hmark
    cases hmark
  · exact beq_eq_false_of_not_mem

end Mark

/-! ## Splitting -/

section Split

variable {α : Type} {sep : α → Bool} {xs : List α}

theorem splitWhen_cons (x : α) (xs : List α) :
    splitWhen sep (x :: xs) =
      if sep x then [] :: splitWhen sep xs
      else match splitWhen sep xs with
        | [] => [[x]]
        | p :: ps => (x :: p) :: ps := rfl

theorem splitWhen_of_forall_not (h : ∀ x ∈ xs, sep x = false) : splitWhen sep xs = [xs] := by
  induction xs with
  | nil => rfl
  | cons x xs ih =>
      rw [splitWhen_cons, h x List.mem_cons_self, ih fun y hy => h y (List.mem_cons_of_mem x hy)]
      rfl

theorem splitWhen_append (h : ∀ x ∈ xs, sep x = false) {a : α} (ha : sep a = true)
    (rest : List α) : splitWhen sep (xs ++ a :: rest) = xs :: splitWhen sep rest := by
  induction xs with
  | nil => rw [List.nil_append, splitWhen_cons, if_pos ha]
  | cons x xs ih =>
      rw [List.cons_append, splitWhen_cons, h x List.mem_cons_self,
        ih fun y hy => h y (List.mem_cons_of_mem x hy)]
      rfl

theorem splitWhen_ne_nil (xs : List α) : splitWhen sep xs ≠ [] := by
  cases xs with
  | nil => exact List.cons_ne_nil _ _
  | cons x xs =>
      rw [splitWhen_cons]
      split
      · exact List.cons_ne_nil _ _
      · split <;> exact List.cons_ne_nil _ _

/-- At a separator the parts in front of it end and those behind it begin. -/
theorem splitWhen_append_sep {a : α} (ha : sep a = true) (xs ys : List α) :
    splitWhen sep (xs ++ a :: ys) = splitWhen sep xs ++ splitWhen sep ys := by
  induction xs with
  | nil =>
      rw [List.nil_append, splitWhen_cons, if_pos ha]
      rfl
  | cons x xs ih =>
      rw [List.cons_append, splitWhen_cons, splitWhen_cons, ih]
      split
      · rfl
      · cases hparts : splitWhen sep xs with
        | nil => exact absurd hparts (splitWhen_ne_nil xs)
        | cons part parts => rfl

end Split

/-! ## Joining -/

theorem join_singleton (sep part : String) : join sep [part] = part :=
  String.intercalate_singleton

theorem join_cons_cons (sep part next : String) (parts : List String) :
    join sep (part :: next :: parts) = part ++ sep ++ join sep (next :: parts) :=
  String.intercalate_cons_cons

theorem join_append (sep : String) {front back : List String} (hfront : front ≠ [])
    (hback : back ≠ []) : join sep (front ++ back) = join sep front ++ sep ++ join sep back :=
  String.intercalate_append_of_ne_nil hfront hback

/-- A joined text starts as its first part does. -/
theorem head?_join (sep : String) {part : String} (hpart : part ≠ "") (parts : List String) :
    (join sep (part :: parts)).toList.head? = part.toList.head? := by
  cases parts with
  | nil => rw [join_singleton]
  | cons next parts =>
      rw [join_cons_cons, String.append_assoc, String.toList_append,
        List.head?_append_of_ne_nil _ (mt String.toList_eq_nil_iff.mp hpart)]

/-- A joined text ends as its last part does. -/
theorem getLast?_join (sep : String) {part : String} (hpart : part ≠ "") (parts : List String) :
    (join sep (parts ++ [part])).toList.getLast? = part.toList.getLast? := by
  by_cases hparts : parts = []
  · rw [hparts, List.nil_append, join_singleton]
  · rw [join_append sep hparts (List.cons_ne_nil part []), join_singleton, String.toList_append,
      List.getLast?_append_of_ne_nil _ (mt String.toList_eq_nil_iff.mp hpart)]

/-- A joined text is its first part and the others, each behind the separator. -/
theorem toList_join_cons (sep part : String) (parts : List String) :
    (join sep (part :: parts)).toList =
      part.toList ++ parts.flatMap fun next => sep.toList ++ next.toList := by
  induction parts generalizing part with
  | nil => rw [join_singleton, List.flatMap_nil, List.append_nil]
  | cons next parts ih =>
      rw [join_cons_cons, String.toList_append, String.toList_append, ih, List.flatMap_cons,
        List.append_assoc, List.append_assoc]

/-- A joined text is written with the characters of its parts and of the separator. -/
theorem mem_toList_join {sep : String} {parts : List String} {c : Char}
    (h : c ∈ (join sep parts).toList) : c ∈ sep.toList ∨ ∃ part ∈ parts, c ∈ part.toList := by
  cases parts with
  | nil => exact absurd h List.not_mem_nil
  | cons part parts =>
      rw [toList_join_cons] at h
      rcases List.mem_append.mp h with h | h
      · exact Or.inr ⟨part, List.mem_cons_self, h⟩
      · obtain ⟨next, hnext, h⟩ := List.mem_flatMap.mp h
        refine (List.mem_append.mp h).imp_right fun h => ?_
        exact ⟨next, List.mem_cons_of_mem part hnext, h⟩

/-- Splitting gives the parts back that were joined. -/
theorem split_join (mark : Char) {sep : Char → Bool} (hmark : sep mark = true)
    {parts : List String} (hne : parts ≠ [])
    (hparts : ∀ part ∈ parts, ∀ c ∈ part.toList, sep c = false) :
    split sep (join mark.toString parts) = parts := by
  induction parts with
  | nil => exact absurd rfl hne
  | cons part parts ih =>
      have hpart := hparts part List.mem_cons_self
      cases parts with
      | nil =>
          rw [join_singleton, split, splitWhen_of_forall_not hpart, List.map_singleton,
            String.ofList_toList]
      | cons next parts =>
          have hrest := ih (List.cons_ne_nil next parts)
            fun p hp => hparts p (List.mem_cons_of_mem part hp)
          have htext : (join mark.toString (part :: next :: parts)).toList =
              part.toList ++ mark :: (join mark.toString (next :: parts)).toList := by
            rw [join_cons_cons, String.toList_append, String.toList_append, Char.toString,
              String.toList_singleton, List.append_assoc, List.singleton_append]
          rw [split, htext, splitWhen_append hpart hmark, List.map_cons, String.ofList_toList]
          rw [split] at hrest
          rw [hrest]

/-- Parts without the separator are determined by the text that they are joined to. -/
theorem join_inj (mark : Char) {parts parts' : List String} (hne : parts ≠ []) (hne' : parts' ≠ [])
    (hparts : ∀ part ∈ parts, mark ∉ part.toList) (hparts' : ∀ part ∈ parts', mark ∉ part.toList)
    (h : join mark.toString parts = join mark.toString parts') : parts = parts' := by
  have hsplit : ∀ {ps : List String}, ps ≠ [] → (∀ part ∈ ps, mark ∉ part.toList) →
      split (· == mark) (join mark.toString ps) = ps := by
    intro ps hps hfree
    refine split_join mark ?_ hps fun part hpart => beq_eq_false_of_not_mem (hfree part hpart)
    exact BEq.rfl
  rw [← hsplit hne hparts, h, hsplit hne' hparts']

/-- Parts that are joined by a doubled separator have empty parts between them. -/
theorem split_join_twice (mark : Char) {parts : List String}
    (hparts : ∀ part ∈ parts, part ≠ "" ∧ mark ∉ part.toList) :
    (split (· == mark) (join (mark.toString ++ mark.toString) parts)).filter (· ≠ "") = parts := by
  have hfree : ∀ part ∈ parts, ∀ c ∈ part.toList, (c == mark) = false :=
    fun part hpart => beq_eq_false_of_not_mem (hparts part hpart).2
  have hmark : (mark == mark) = true := BEq.rfl
  -- the second mark of a separator ends an empty part
  have hdouble : ∀ rest : List Char,
      splitWhen (· == mark) (mark :: rest) = [] :: splitWhen (· == mark) rest := by
    intro rest
    rw [splitWhen_cons]
    exact if_pos hmark
  induction parts with
  | nil => rfl
  | cons part parts ih =>
      have hpart := hfree part List.mem_cons_self
      have hkeep : ∀ rest : List String,
          (part :: rest).filter (· ≠ "") = part :: rest.filter (· ≠ "") := fun rest =>
        List.filter_cons_of_pos (decide_eq_true (hparts part List.mem_cons_self).1)
      cases parts with
      | nil =>
          rw [join_singleton, split, splitWhen_of_forall_not hpart, List.map_singleton,
            String.ofList_toList, hkeep, List.filter_nil]
      | cons next parts =>
          have hrest := ih (fun p hp => hparts p (List.mem_cons_of_mem part hp))
            fun p hp => hfree p (List.mem_cons_of_mem part hp)
          have htext :
              (join (mark.toString ++ mark.toString) (part :: next :: parts)).toList =
                part.toList ++ mark :: mark ::
                  (join (mark.toString ++ mark.toString) (next :: parts)).toList := by
            rw [join_cons_cons, String.toList_append, String.toList_append, String.toList_append,
              Char.toString, String.toList_singleton, List.append_assoc]
            rfl
          rw [split] at hrest
          rw [split, htext, splitWhen_append hpart hmark, hdouble, List.map_cons, List.map_cons,
            String.ofList_toList, hkeep, List.filter_cons_of_neg (by decide), hrest]

end RouteWorks.Text
