import RouteWorks.Proofs.Chain.Registered

/-!
# Which middleware wraps a route

A route is wrapped by the middleware at and above its keys.  `Wraps` says what that means without a
word on how the list is made: nothing is left out and nothing is doubled, shorter keys are further
outside, and middleware with the same keys keeps its order.
-/

namespace RouteWorks

open Text Chain

/-! ## Lists in groups -/

/-- The prefixes of a list become longer. -/
theorem pairwise_inits {α : Type} (xs : List α) :
    xs.inits.Pairwise fun ys zs => ys.length < zs.length := by
  induction xs with
  | nil => exact List.pairwise_singleton _ _
  | cons x xs ih =>
      rw [List.inits_cons, List.pairwise_cons, List.pairwise_map]
      refine ⟨?_, ?_⟩
      · intro ys hys
        obtain ⟨zs, -, rfl⟩ := List.mem_map.mp hys
        simp
      · refine ih.imp ?_
        intro ys zs hlt
        simpa using hlt

theorem nodup_inits {α : Type} (xs : List α) : xs.inits.Nodup := by
  refine (pairwise_inits xs).imp ?_
  rintro ys zs hlt rfl
  exact Nat.lt_irrefl _ hlt

/-- One group of several is that group alone when it is among them. -/
theorem flatMap_one {α β : Type} [DecidableEq α] {xs : List α} (hxs : xs.Nodup) (a : α)
    (ys : List β) : (xs.flatMap fun x => if x = a then ys else []) = if a ∈ xs then ys else [] := by
  induction xs with
  | nil => rfl
  | cons x xs ih =>
      rw [List.nodup_cons] at hxs
      rw [List.flatMap_cons, ih hxs.2]
      by_cases hx : x = a
      · subst hx
        simp [hxs.1]
      · simp [hx, Ne.symm hx]

/-! ## Wrapping -/

/-- Some middleware wraps what stands at some keys, listed from the outermost to the innermost. -/
structure Wraps (specs : List Spec) (keys : List String) (ms : List Middleware) : Prop where
  /-- It is all the middleware at and above the keys, each once. -/
  all_above : ms.Perm ((middlewares specs).filter fun m => m.keys <+: keys)
  /-- Shorter keys are further outside. -/
  outside_in : ms.Pairwise fun a b => a.keys.length ≤ b.keys.length
  /-- Middleware at the same keys keeps its order of registration. -/
  in_order : ∀ ks, ks <+: keys → (ms.filter fun m => m.keys = ks) =
    (middlewares specs).filter fun m => m.keys = ks

theorem mem_wrapping_group {specs : List Spec} {ks : List String} {m : Middleware}
    (hm : m ∈ (middlewares specs).filter fun m => m.keys = ks) : m.keys = ks := by
  simpa using (List.mem_filter.mp hm).2

/-- The groups of the prefixes make up all the middleware at and above the keys. -/
theorem wrapping_perm (specs : List Spec) (keys : List String) :
    (wrapping specs keys).Perm ((middlewares specs).filter fun m => m.keys <+: keys) := by
  -- every group is a part of the middleware at and above the keys
  have hgroups : ∀ ks ∈ keys.inits, ((middlewares specs).filter fun m => m.keys = ks) =
      ((middlewares specs).filter fun m => m.keys <+: keys).filter fun m => some m.keys = some ks := by
    intro ks hks
    rw [List.filter_filter]
    refine List.filter_congr ?_
    intro m _
    by_cases hm : m.keys = ks
    · have habove : ks <+: keys := (List.mem_inits ks keys).mp hks
      simp [hm, habove]
    · simp [hm]
  rw [wrapping, List.flatMap_congr hgroups]
  refine perm_groups (nodup_inits keys) ?_
  intro m hm
  have habove : m.keys <+: keys := by simpa using (List.mem_filter.mp hm).2
  exact ⟨m.keys, (List.mem_inits m.keys keys).mpr habove, rfl⟩

theorem wrapping_pairwise (specs : List Spec) (keys : List String) :
    (wrapping specs keys).Pairwise fun a b => a.keys.length ≤ b.keys.length := by
  rw [wrapping, List.pairwise_flatMap]
  refine ⟨?_, ?_⟩
  · intro ks _
    refine List.pairwise_of_forall_mem_list ?_
    intro a ha b hb
    rw [mem_wrapping_group ha, mem_wrapping_group hb]
  · refine (pairwise_inits keys).imp ?_
    intro ks js hlt a ha b hb
    rw [mem_wrapping_group ha, mem_wrapping_group hb]
    exact Nat.le_of_lt hlt

/-- The middleware at one prefix of the keys is its group, as it was registered. -/
theorem wrapping_filter (specs : List Spec) {ks keys : List String} (hks : ks <+: keys) :
    ((wrapping specs keys).filter fun m => m.keys = ks) =
      (middlewares specs).filter fun m => m.keys = ks := by
  -- the other groups have nothing at these keys
  have hone : ∀ js ∈ keys.inits,
      (((middlewares specs).filter fun m => m.keys = js).filter fun m => m.keys = ks) =
        if js = ks then (middlewares specs).filter fun m => m.keys = ks else [] := by
    intro js _
    by_cases hjs : js = ks
    · subst hjs
      rw [if_pos rfl, List.filter_filter]
      simp
    · rw [if_neg hjs, List.filter_eq_nil_iff]
      intro m hm
      rw [mem_wrapping_group hm, decide_eq_true_iff]
      exact hjs
  rw [wrapping, List.filter_flatMap, List.flatMap_congr hone, flatMap_one (nodup_inits keys) ks,
    if_pos ((List.mem_inits ks keys).mpr hks)]

theorem wraps_wrapping (specs : List Spec) (keys : List String) :
    Wraps specs keys (wrapping specs keys) where
  all_above := wrapping_perm specs keys
  outside_in := wrapping_pairwise specs keys
  in_order := fun _ hks => wrapping_filter specs hks

namespace Router

/-- What the written chain registers is, up to the order, every leaf with exactly the middleware at and
above its keys around it: shorter keys further outside and the same keys in the order of registration,
wherever the leaf stands among the specs.  Innermost comes the layer of a mount that is not to be
cached.  Middleware on the root wraps nothing but the leaf of the root. -/
theorem chainOf_wraps {specs : List Spec} {ctx : ChainContext} {chain : Chain}
    (h : chainOf specs ctx = .ok chain) :
    (∃ services expected, readChain ctx.runtime chain.lines = some services ∧
        (leaves specs).mapM (wrapped ctx specs) = .ok expected ∧ services.Perm expected) ∧
      (∀ l ∈ leaves specs, Wraps specs l.route.keys (wrapping specs l.route.keys)) ∧
      ∀ m ∈ middlewares specs, m.keys = [""] →
        ∀ l ∈ leaves specs, m ∈ wrapping specs l.route.keys → l.route.keys = [""] := by
  refine ⟨readChain_chainOf h, fun l _ => wraps_wrapping specs l.route.keys, ?_⟩
  intro m _ hm l _ hwraps
  have hmem := (wraps_wrapping specs l.route.keys).all_above.mem_iff.mp hwraps
  have habove : m.keys <+: l.route.keys := by simpa using (List.mem_filter.mp hmem).2
  -- the keys of the root are one empty key, and no other keys have it among them
  have hempty : "" ∈ l.route.keys := by
    refine habove.subset ?_
    rw [hm]
    exact List.mem_singleton_self ""
  exact Route.Path.keys_eq_root hempty

theorem chainOf_wraps_guarded :
    chainOf RouteNode.guardedSpecs guardedContext = .ok guardedChain ∧
      ((∃ services expected, readChain guardedContext.runtime guardedChain.lines = some services ∧
          (leaves RouteNode.guardedSpecs).mapM (wrapped guardedContext RouteNode.guardedSpecs) =
            .ok expected ∧ services.Perm expected) ∧
        (∀ l ∈ leaves RouteNode.guardedSpecs,
          Wraps RouteNode.guardedSpecs l.route.keys (wrapping RouteNode.guardedSpecs l.route.keys)) ∧
        ∀ m ∈ middlewares RouteNode.guardedSpecs, m.keys = [""] →
          ∀ l ∈ leaves RouteNode.guardedSpecs,
            m ∈ wrapping RouteNode.guardedSpecs l.route.keys → l.route.keys = [""]) :=
  ⟨chainOf_guarded, chainOf_wraps chainOf_guarded⟩

end Router

end RouteWorks
