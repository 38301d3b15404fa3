import Mathlib.Data.List.Perm.Basic
import RouteWorks.Proofs.Route.Represents

/-!
# When a route tree is refused

Two leaves clash when their paths have the same keys.  A list of specs is refused exactly when two
of its leaves clash, and the fault names the first leaf that clashes with an earlier one
(`build_refused`).  So it is the keys of the leaves that decide, each with its number of occurrences
(`build_ok_iff`): neither the order of the specs nor the middleware nor the captures matter.
-/

namespace RouteWorks

namespace RouteNode

/-- The keys of the leaves, in the order of registration. -/
def leafKeys (specs : List Spec) : List (List String) :=
  (specs.filter fun s => s.leaf?.isSome).map fun s => s.route.keys

theorem clashFree_iff (specs : List Spec) : ClashFree specs ↔ (leafKeys specs).Nodup := by
  rw [leafKeys, List.Nodup, List.pairwise_map, List.pairwise_filter, ClashFree]
  refine iff_of_eq (congrArg (List.Pairwise · specs) ?_)
  funext s t
  simp only [Spec.Clashes, not_and, ne_eq]

/-- The keys of the leaves decide whether a list of specs is built. -/
theorem build_ok_iff (specs : List Spec) :
    (∃ forest, build specs = .ok forest) ↔ (leafKeys specs).Nodup := by
  rw [← clashFree_iff]
  constructor
  · rintro ⟨forest, hok⟩
    rcases build_cases specs with ⟨_, -, -, hfree⟩ | ⟨_, s, _, -, he, -⟩
    · exact hfree
    · rw [hok] at he
      cases he
  · intro hfree
    rcases build_cases specs with ⟨forest, hok, -, -⟩ | ⟨earlier, s, later, rfl, -, ⟨t, ht, hclash⟩, -⟩
    · exact ⟨forest, hok⟩
    · exfalso
      have hpair := (List.pairwise_append.mp hfree).2.2
      exact hpair t ht s List.mem_cons_self hclash

theorem build_refused_iff (specs : List Spec) :
    (∃ e, build specs = .error e) ↔ ¬ ClashFree specs := by
  rw [clashFree_iff, ← build_ok_iff]
  cases build specs with
  | ok forest => simp
  | error e => simp

/-- There is only one first leaf that clashes with an earlier one. -/
theorem first_clash_unique {earlier earlier' later later' : List Spec} {s s' : Spec}
    (h : earlier ++ s :: later = earlier' ++ s' :: later')
    (hclash : ∃ t ∈ earlier, t.Clashes s) (hfree : ClashFree earlier)
    (hclash' : ∃ t ∈ earlier', t.Clashes s') (hfree' : ClashFree earlier') : s = s' := by
  -- a longer list of earlier specs would contain the clash
  have hnot : ∀ {xs ys : List Spec} {x : Spec}, ClashFree (xs ++ x :: ys) →
      ¬ ∃ t ∈ xs, t.Clashes x := by
    rintro xs ys x hall ⟨t, ht, htx⟩
    exact (List.pairwise_append.mp hall).2.2 t ht x List.mem_cons_self htx
  rcases List.append_eq_append_iff.mp h with ⟨more, hmore, hrest⟩ | ⟨more, hmore, hrest⟩
  · cases more with
    | nil => exact (List.cons.inj hrest).1
    | cons m more =>
        obtain ⟨rfl, -⟩ := List.cons.inj hrest
        rw [hmore] at hfree'
        exact absurd hclash (hnot hfree')
  · cases more with
    | nil => exact (List.cons.inj hrest).1.symm
    | cons m more =>
        obtain ⟨rfl, -⟩ := List.cons.inj hrest
        rw [hmore] at hfree
        exact absurd hclash' (hnot hfree)

theorem build_error_iff (specs : List Spec) (e : Fault) :
    build specs = .error e ↔ ∃ earlier s later, specs = earlier ++ s :: later ∧
      (∃ t ∈ earlier, t.Clashes s) ∧ ClashFree earlier ∧ e = .routeConflict s.path := by
  constructor
  · intro he
    rcases build_cases specs with ⟨_, hok, -, -⟩ | ⟨earlier, s, later, hsplit, he', hclash, hfree⟩
    · rw [he] at hok
      cases hok
    · rw [he] at he'
      cases he'
      exact ⟨earlier, s, later, hsplit, hclash, hfree, rfl⟩
  · rintro ⟨earlier, s, later, hsplit, hclash, hfree, rfl⟩
    rcases build_cases specs with ⟨_, -, -, hall⟩ | ⟨earlier', s', later', hsplit', he', hclash', hfree'⟩
    · obtain ⟨t, ht, hts⟩ := hclash
      rw [hsplit] at hall
      exact absurd hts ((List.pairwise_append.mp hall).2.2 t ht s List.mem_cons_self)
    · rw [hsplit] at hsplit'
      rw [he', first_clash_unique hsplit' hclash hfree hclash' hfree']

theorem not_clashFree_iff (specs : List Spec) :
    ¬ ClashFree specs ↔ ∃ (i j : Nat) (s t : Spec),
      i < j ∧ specs[i]? = some s ∧ specs[j]? = some t ∧ s.Clashes t := by
  rw [ClashFree, List.pairwise_iff_getElem]
  constructor
  · intro h
    push Not at h
    obtain ⟨i, j, hi, hj, hij, hclash⟩ := h
    exact ⟨i, j, specs[i], specs[j], hij, List.getElem?_eq_getElem hi,
      List.getElem?_eq_getElem hj, hclash⟩
  · rintro ⟨i, j, s, t, hij, hi, hj, hclash⟩ h
    obtain ⟨hilt, rfl⟩ := List.getElem?_eq_some_iff.mp hi
    obtain ⟨hjlt, rfl⟩ := List.getElem?_eq_some_iff.mp hj
    exact h i j hilt hjlt hij hclash

/-- Two specs that stand at the same place: both are leaves or both are middleware, and their paths
have the same segments in front of the first capture. -/
def SamePlace (s t : Spec) : Prop :=
  s.leaf?.isSome = t.leaf?.isSome ∧
    (Route.segments s.path).takeWhile Segment.isLiteral =
      (Route.segments t.path).takeWhile Segment.isLiteral

theorem leafKeys_congr {specs specs' : List Spec} (h : List.Forall₂ SamePlace specs specs') :
    leafKeys specs = leafKeys specs' := by
  induction h with
  | nil => rfl
  | @cons s t specs specs' hst _ ih =>
      obtain ⟨hleaf, hfront⟩ := hst
      have hkeys : s.route.keys = t.route.keys := Route.Path.keys_congr hfront
      rw [leafKeys, leafKeys] at ih ⊢
      rw [List.filter_cons, List.filter_cons, hleaf]
      split
      · rw [List.map_cons, List.map_cons, ih, hkeys]
      · exact ih

/-- Building fails if and only if two leaves stand at the same keys.  The fault then names the first
leaf that stands where an earlier leaf stands.  Whether it fails does not depend on the order of the
specs, on the middleware among them, or on what follows the first capture of a path. -/
theorem build_refused (specs : List Spec) :
    ((∃ e, build specs = .error e) ↔ ∃ (i j : Nat) (s t : Spec),
      i < j ∧ specs[i]? = some s ∧ specs[j]? = some t ∧ s.Clashes t) ∧
    (∀ e, build specs = .error e ↔ ∃ earlier s later, specs = earlier ++ s :: later ∧
      (∃ t ∈ earlier, t.Clashes s) ∧ ClashFree earlier ∧ e = .routeConflict s.path) ∧
    (∀ specs', specs.Perm specs' →
      ((∃ forest, build specs = .ok forest) ↔ ∃ forest, build specs' = .ok forest)) ∧
    (∀ specs', (specs.filter fun s => s.leaf?.isSome) = (specs'.filter fun s => s.leaf?.isSome) →
      ((∃ forest, build specs = .ok forest) ↔ ∃ forest, build specs' = .ok forest)) ∧
    (∀ specs', List.Forall₂ SamePlace specs specs' →
      ((∃ forest, build specs = .ok forest) ↔ ∃ forest, build specs' = .ok forest)) := by
  refine ⟨?_, build_error_iff specs, ?_, ?_, ?_⟩
  · rw [build_refused_iff, not_clashFree_iff]
  · intro specs' hperm
    rw [build_ok_iff, build_ok_iff]
    exact ((hperm.filter _).map _).nodup_iff
  · intro specs' hleaves
    rw [build_ok_iff, build_ok_iff, leafKeys, leafKeys, hleaves]
  · intro specs' hplaces
    rw [build_ok_iff, build_ok_iff, leafKeys_congr hplaces]

end RouteNode

end RouteWorks
