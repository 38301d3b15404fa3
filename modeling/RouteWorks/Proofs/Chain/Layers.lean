import Mathlib.Data.List.Dedup
import RouteWorks.Proofs.Chain.Stations
import RouteWorks.Proofs.Chain.Resolving

/-!
# Where middleware stands in a chain

A chain has one service for every leaf and one nest for every path that goes on, each with the middleware
at exactly its keys around it (`Router.exists_stations`).  So middleware stands in a chain as soon as
anything goes on below it, be it other middleware that is left out itself (`Router.chainOf_layers`).
-/

namespace RouteWorks

open Chain

/-! ## Lists -/

/-- One item for every member of a list that passes a test. -/
theorem flatMap_ite_singleton {α β : Type} (p : α → Prop) [DecidablePred p] (f : α → β)
    (xs : List α) : (xs.flatMap fun x => if p x then [f x] else []) = (xs.filter fun x => p x).map f := by
  induction xs with
  | nil => rfl
  | cons x xs ih =>
      rw [List.flatMap_cons, ih, List.filter_cons]
      by_cases hx : p x <;> simp [hx]

/-- When every key takes the members of its group, a member is taken as often as its key is there. -/
theorem flatMap_groups_perm {α β κ : Type} [DecidableEq κ] [BEq κ] [LawfulBEq κ] (key : α → κ)
    (f : α → β) (xs : List α) (ks : List κ) :
    (ks.flatMap fun k => (xs.filter fun x => key x = k).map f).Perm
      (xs.flatMap fun x => List.replicate (ks.count (key x)) (f x)) := by
  induction ks with
  | nil => simp
  | cons k ks ih =>
      have hcount : ∀ x, List.replicate ((k :: ks).count (key x)) (f x) =
          (if key x = k then [f x] else []) ++ List.replicate (ks.count (key x)) (f x) := by
        intro x
        rw [List.count_cons]
        by_cases hx : key x = k
        · rw [hx, if_pos BEq.rfl, if_pos rfl, Nat.add_comm, List.replicate_add]
          rfl
        · simp [hx, Ne.symm hx]
      simp only [hcount, List.flatMap_cons]
      rw [← flatMap_ite_singleton (fun x => key x = k) f]
      exact (ih.append_left _).trans (List.flatMap_append_perm xs _ _)

/-- One item for every member of a list that is in another. -/
theorem flatMap_mem_perm {α β : Type} [BEq α] [LawfulBEq α] {xs ys : List α} (hxs : xs.Nodup)
    (hys : ys.Nodup) (hsub : ys ⊆ xs) (f : α → β) :
    (xs.flatMap fun x => if x ∈ ys then [f x] else []).Perm (ys.map f) := by
  rw [flatMap_ite_singleton (· ∈ ys) f]
  refine List.Perm.map f ((List.perm_ext_iff_of_nodup (hxs.filter _) hys).mpr ?_)
  intro a
  rw [List.mem_filter, decide_eq_true_iff]
  exact and_iff_right_of_imp fun ha => hsub ha

/-- What comes before the last member of a list is a proper front of it. -/
theorem prefix_dropLast_iff {α : Type} {xs ys : List α} (hne : ys ≠ []) :
    xs <+: ys.dropLast ↔ xs <+: ys ∧ xs ≠ ys := by
  obtain ⟨front, last, rfl⟩ := (List.eq_nil_or_concat ys).resolve_left hne
  rw [List.concat_eq_append, List.dropLast_concat, List.prefix_concat_iff]
  constructor
  · intro hfront
    refine ⟨Or.inr hfront, ?_⟩
    rintro rfl
    have hlength := hfront.length_le
    rw [List.length_append, List.length_singleton] at hlength
    omega
  · rintro ⟨heq | hfront, hne⟩
    · exact absurd heq hne
    · exact hfront

/-! ## Stations of specs -/

/-- The keys of the nests: those that a longer path goes on behind. -/
def nestKeys (specs : List Spec) : List (List String) :=
  (specs.flatMap fun s => s.route.keys.inits.filter fun ks => ks ≠ [] ∧ ks ≠ s.route.keys).dedup

/-- The keys of all that middleware stands around: the leaves and the nests. -/
def stationKeys (specs : List Spec) : List (List String) :=
  (leaves specs).map (fun l => l.route.keys) ++ nestKeys specs

/-- The functions of the middleware at some keys, in the order of registration. -/
def guardsAt (ctx : ChainContext) (specs : List Spec) (ks : List String) : List String :=
  ((middlewares specs).filter fun m => m.keys = ks).map fun m => ctx.spelling m.item

/-- The station of a leaf: it stands in the nest of all its keys but the last one. -/
def serviceOf (ctx : ChainContext) (specs : List Spec) (l : Leaf) : Station :=
  .service (nestPaths l.route.keys.dropLast) (guardsAt ctx specs l.route.keys)

/-- The station of a nest. -/
def nestOf (ctx : ChainContext) (specs : List Spec) (ks : List String) : Station :=
  .nest (nestPaths ks) (guardsAt ctx specs ks)

/-- The stations that a list of specs asks for: a service for every leaf, and a nest for every path that
goes on. -/
def stationsOf (ctx : ChainContext) (specs : List Spec) : List Station :=
  (leaves specs).map (serviceOf ctx specs) ++ (nestKeys specs).map (nestOf ctx specs)

section Specs

variable {specs : List Spec} {ks : List String}

theorem mem_nestKeys :
    ks ∈ nestKeys specs ↔ ks ≠ [] ∧ ∃ s ∈ specs, ks <+: s.route.keys ∧ ks ≠ s.route.keys := by
  simp only [nestKeys, List.mem_dedup, List.mem_flatMap, List.mem_filter, List.mem_inits,
    decide_eq_true_eq]
  constructor
  · rintro ⟨s, hs, hfront, hne, hkeys⟩
    exact ⟨hne, s, hs, hfront, hkeys⟩
  · rintro ⟨hne, s, hs, hfront, hkeys⟩
    exact ⟨s, hs, hfront, hne, hkeys⟩

theorem nodup_nestKeys (specs : List Spec) : (nestKeys specs).Nodup := List.nodup_dedup _

theorem mem_stationKeys :
    ks ∈ stationKeys specs ↔ (∃ l ∈ leaves specs, l.route.keys = ks) ∨ ks ∈ nestKeys specs := by
  rw [stationKeys, List.mem_append, List.mem_map]

/-- The functions in the layers of a chain are those of the middleware, each as often as something stands
at its keys. -/
theorem guards_stationsOf_perm (ctx : ChainContext) (specs : List Spec) :
    ((stationsOf ctx specs).flatMap Station.guards).Perm
      ((middlewares specs).flatMap fun m =>
        List.replicate ((stationKeys specs).count m.keys) (ctx.spelling m.item)) := by
  have hkeys : (stationsOf ctx specs).flatMap Station.guards =
      (stationKeys specs).flatMap (guardsAt ctx specs) := by
    rw [stationsOf, stationKeys, List.flatMap_append, List.flatMap_append, List.flatMap_map, List.flatMap_map,
      List.flatMap_map]
    rfl
  rw [hkeys]
  exact flatMap_groups_perm Middleware.keys (fun m => ctx.spelling m.item) (middlewares specs)
    (stationKeys specs)

/-- What stands at a node depends on its keys alone. -/
theorem RouteNode.stations_eq (ctx : ChainContext) {forest : List RouteNode} {n : RouteNode}
    (h : Represents (specs.map Placed.ofSpec) forest) (hn : Leads forest ks n) :
    n.stations ctx ks = ((leaves specs).filter fun l => l.route.keys = ks).map (serviceOf ctx specs)
      ++ if ks ∈ nestKeys specs then [nestOf ctx specs ks] else [] := by
  have hguards : n.guards ctx = guardsAt ctx specs ks := by
    rw [guards, h.middleware_eq hn, guardsAt]
  have hnest : ks ∈ nestKeys specs ↔ n.children ≠ [] := by
    rw [mem_nestKeys, h.children_ne_nil_iff hn, and_iff_right hn.ne_nil]
  have hservices : (n.leaf.toList.map fun _ =>
      Station.service (nestPaths ks.dropLast) (guardsAt ctx specs ks)) =
        ((leaves specs).filter fun l => l.route.keys = ks).map (serviceOf ctx specs) := by
    rw [h.leaf_eq hn]
    refine List.map_congr_left ?_
    intro l hl
    have hkeys : l.route.keys = ks := by simpa using (List.mem_filter.mp hl).2
    rw [serviceOf, hkeys]
  rw [stations, hguards, hservices]
  simp only [hnest, ne_eq, ite_not, nestOf]

/-- The nodes of a tree have the stations that its specs ask for. -/
theorem RouteNode.stationsAll_perm (ctx : ChainContext) {forest : List RouteNode}
    (h : Represents (specs.map Placed.ofSpec) forest) :
    (RouteNode.stationsAll ctx [] forest).Perm (stationsOf ctx specs) := by
  have hnodup := nodup_walkAll h []
  have hmem : ∀ ks, ks ∈ (walkAll [] forest).map Prod.fst ↔ ∃ n, Leads forest ks n := by
    intro ks
    simp [mem_walkAll_nil]
  have hkeys : stationsAll ctx [] forest = ((walkAll [] forest).map Prod.fst).flatMap fun ks =>
      ((leaves specs).filter fun l => some l.route.keys = some ks).map (serviceOf ctx specs)
        ++ if ks ∈ nestKeys specs then [nestOf ctx specs ks] else [] := by
    rw [stationsAll, List.flatMap_map]
    refine List.flatMap_congr ?_
    rintro ⟨ks, n⟩ hx
    simp only [Option.some.injEq]
    exact stations_eq ctx h (mem_walkAll_nil.mp hx)
  have hleaves : ∀ l ∈ leaves specs, ∃ ks ∈ (walkAll [] forest).map Prod.fst,
      some l.route.keys = some ks :=
    fun l hl => ⟨_, (hmem _).mpr (h.exists_leads_of_leaf hl), rfl⟩
  have hnests : nestKeys specs ⊆ (walkAll [] forest).map Prod.fst := by
    intro ks hks
    obtain ⟨hne, s, hs, hfront, -⟩ := mem_nestKeys.mp hks
    exact (hmem ks).mpr (h.exists_leads_specs_iff.mpr ⟨hne, s, hs, hfront⟩)
  -- all services first, then all nests
  rw [hkeys]
  refine (List.flatMap_append_perm _ _ _).symm.trans (List.Perm.append ?_ ?_)
  · rw [← List.map_flatMap]
    exact (perm_groups hnodup hleaves).map _
  · exact flatMap_mem_perm hnodup (nodup_nestKeys specs) hnests _

/-- Something stands at the keys of a node that has a leaf or children. -/
theorem RouteNode.mem_stationKeys_iff {forest : List RouteNode}
    (h : Represents (specs.map Placed.ofSpec) forest) :
    (∃ n, Leads forest ks n ∧ (n.leaf ≠ none ∨ n.children ≠ [])) ↔ ks ∈ stationKeys specs := by
  have hnode : ∀ n, Leads forest ks n →
      (n.leaf ≠ none ∨ n.children ≠ [] ↔ ks ∈ stationKeys specs) := by
    intro n hn
    rw [mem_stationKeys, mem_nestKeys, and_iff_right hn.ne_nil, ← h.children_ne_nil_iff hn]
    refine or_congr_left ?_
    rw [ne_eq, ← Option.toList_eq_nil_iff, h.leaf_eq hn, List.filter_eq_nil_iff]
    simp
  constructor
  · rintro ⟨n, hn, hsome⟩
    exact (hnode n hn).mp hsome
  · intro hks
    have hleads : ∃ n, Leads forest ks n := by
      rcases mem_stationKeys.mp hks with ⟨l, hl, rfl⟩ | hnest
      · exact h.exists_leads_of_leaf hl
      · obtain ⟨hne, s, hs, hfront, -⟩ := mem_nestKeys.mp hnest
        exact h.exists_leads_specs_iff.mpr ⟨hne, s, hs, hfront⟩
    obtain ⟨n, hn⟩ := hleads
    exact ⟨n, hn, (hnode n hn).mpr hks⟩

/-- A leaf stands at or below the keys of middleware, so there is a route to wrap. -/
def Middleware.HasRoute (specs : List Spec) (m : Middleware) : Prop :=
  ∃ l ∈ leaves specs, m.keys <+: l.route.keys

/-- Something stands at the keys of middleware when it has a route to wrap, or when other middleware
stands further down. -/
theorem Middleware.mem_stationKeys_iff {m : Middleware} :
    m.keys ∈ stationKeys specs ↔ m.HasRoute specs ∨
      ∃ m' ∈ middlewares specs, m.keys <+: m'.keys ∧ m.keys ≠ m'.keys := by
  rw [mem_stationKeys, mem_nestKeys, exists_keys_iff fun js => m.keys <+: js ∧ m.keys ≠ js,
    and_iff_right m.keys_ne_nil, ← or_assoc]
  refine or_congr_left ?_
  constructor
  · rintro (⟨l, hl, hkeys⟩ | ⟨l, hl, hfront, -⟩)
    · exact ⟨l, hl, hkeys ▸ List.prefix_refl _⟩
    · exact ⟨l, hl, hfront⟩
  · rintro ⟨l, hl, hfront⟩
    by_cases hkeys : l.route.keys = m.keys
    · exact Or.inl ⟨l, hl, hkeys⟩
    · exact Or.inr ⟨l, hl, hfront, Ne.symm hkeys⟩

/-- A service stands in a nest, however deep. -/
def Chain.Station.StandsIn (path : List String) : Station → Prop
  | service above _ => path <+: above
  | nest _ _ => False

/-- Services stand in the nest at some keys when the keys of a leaf go on there. -/
theorem exists_standsIn_iff (ctx : ChainContext) (specs : List Spec) (ks : List String) :
    (∃ p ∈ stationsOf ctx specs, p.StandsIn (nestPaths ks)) ↔
      ∃ l ∈ leaves specs, ks <+: l.route.keys ∧ ks ≠ l.route.keys := by
  have hinj : Function.Injective ("/" ++ · : String → String) :=
    fun _ _ h => (String.append_right_inj "/").mp h
  have hservice : ∀ l : Leaf, nestPaths ks <+: nestPaths l.route.keys.dropLast ↔
      ks <+: l.route.keys ∧ ks ≠ l.route.keys := by
    intro l
    rw [nestPaths, nestPaths, List.prefix_map_iff_of_injective hinj, prefix_dropLast_iff l.keys_ne_nil]
  constructor
  · rintro ⟨p, hp, hin⟩
    rcases List.mem_append.mp hp with hp | hp
    · obtain ⟨l, hl, rfl⟩ := List.mem_map.mp hp
      exact ⟨l, hl, (hservice l).mp hin⟩
    · obtain ⟨js, -, rfl⟩ := List.mem_map.mp hp
      cases hin
  · rintro ⟨l, hl, hbelow⟩
    exact ⟨_, List.mem_append_left _ (List.mem_map_of_mem hl), (hservice l).mpr hbelow⟩

end Specs

namespace Router

variable {specs : List Spec} {ctx : ChainContext} {chain : Chain}

/-- The lines of a chain are read as the stations that its specs ask for. -/
theorem exists_stations (h : chainOf specs ctx = .ok chain) :
    ∃ stations, readStations ctx.runtime chain.lines = some stations ∧ stations.Perm (stationsOf ctx specs) := by
  obtain ⟨forest, hforest, h⟩ := bind_eq_ok h
  obtain ⟨elements, helements, h⟩ := bind_eq_ok h
  cases h
  have hrep := RouteNode.represents_of_build hforest
  refine ⟨_, readStations_linesAll 1 (ChainContext.clear_of_elementsAll forest helements), ?_⟩
  exact (RouteNode.stations_of_elementsAll hrep (RouteNode.rooted_ofSpec specs) [] helements).trans
    (RouteNode.stationsAll_perm ctx hrep)

/-- What is imported for middleware is imported because something stands at its keys. -/
theorem mem_imports_iff_stationKeys (h : chainOf specs ctx = .ok chain) (path : String) :
    path ∈ chain.imports ↔ ∃ l, ((∃ handler, .handler handler ∈ specs ∧ handler.location = l) ∨
        ∃ m ∈ middlewares specs, m.location = l ∧ m.keys ∈ stationKeys specs) ∧
      l ≠ ctx.owner ∧ ctx.entry ≠ some l ∧
      ∃ modules, l.properModules? = some modules ∧ importPath modules = path := by
  obtain ⟨forest, hforest, -⟩ := bind_eq_ok h
  have hrep := RouteNode.represents_of_build hforest
  have hnamed : ∀ l, (∃ item, Names specs (l, item)) ↔
      (∃ handler, .handler handler ∈ specs ∧ handler.location = l) ∨
        ∃ m ∈ middlewares specs, m.location = l ∧ m.keys ∈ stationKeys specs := by
    intro l
    rw [exists_names_iff hforest, RouteNode.mem_locationsAll_iff hrep]
    simp only [RouteNode.mem_stationKeys_iff hrep]
  rw [mem_imports_iff h]
  simp only [← hnamed]
  constructor
  · rintro ⟨l, modules, hl, hmodules⟩
    exact ⟨l, hl.named, hl.ne_owner, hl.ne_entry, modules, hmodules⟩
  · rintro ⟨l, hl, howner, hentry, modules, hmodules⟩
    exact ⟨l, modules, ⟨hl, howner, hentry⟩, hmodules⟩

/-- A written chain has one service for every leaf and one nest for every path that goes on, each with the
middleware at exactly its keys around it.  So middleware stands in the layers of a chain, and its module
among the imports, if and only if a route stands at or below its keys, or other middleware below them; and
there are services in a nest if and only if the keys of a leaf go on there. -/
theorem chainOf_layers (h : chainOf specs ctx = .ok chain) :
    ∃ stations, readStations ctx.runtime chain.lines = some stations ∧
      stations.Perm (stationsOf ctx specs) ∧
      (stations.flatMap Station.guards).Perm ((middlewares specs).flatMap fun m =>
        List.replicate ((stationKeys specs).count m.keys) (ctx.spelling m.item)) ∧
      (∀ m ∈ middlewares specs, 0 < (stationKeys specs).count m.keys ↔ m.HasRoute specs ∨
        ∃ m' ∈ middlewares specs, m.keys <+: m'.keys ∧ m.keys ≠ m'.keys) ∧
      (∀ path, path ∈ chain.imports ↔
        ∃ l, ((∃ handler, .handler handler ∈ specs ∧ handler.location = l) ∨
            ∃ m ∈ middlewares specs, m.location = l ∧ 0 < (stationKeys specs).count m.keys) ∧
          l ≠ ctx.owner ∧ ctx.entry ≠ some l ∧
          ∃ modules, l.properModules? = some modules ∧ importPath modules = path) ∧
      ∀ ks, (∃ p ∈ stations, p.StandsIn (nestPaths ks)) ↔
        ∃ l ∈ leaves specs, ks <+: l.route.keys ∧ ks ≠ l.route.keys := by
  obtain ⟨stations, hread, hperm⟩ := exists_stations h
  simp only [List.count_pos_iff]
  refine ⟨stations, hread, hperm, ?_, fun m _ => Middleware.mem_stationKeys_iff,
    mem_imports_iff_stationKeys h, ?_⟩
  · exact (hperm.flatMap_right _).trans (guards_stationsOf_perm ctx specs)
  · intro ks
    rw [← exists_standsIn_iff ctx specs ks]
    simp only [hperm.mem_iff]

theorem chainOf_layers_guarded : chainOf RouteNode.guardedSpecs guardedContext = .ok guardedChain ∧
    ∃ stations, readStations guardedContext.runtime guardedChain.lines = some stations ∧
      (stations.flatMap Station.guards).Perm ["auth", "auth"] := by
  obtain ⟨stations, hread, -, hguards, -⟩ := chainOf_layers chainOf_guarded
  have hauth : ((middlewares RouteNode.guardedSpecs).flatMap fun m => List.replicate
      ((stationKeys RouteNode.guardedSpecs).count m.keys) (guardedContext.spelling m.item)) =
        ["auth", "auth"] := by
    decide +kernel
  rw [hauth] at hguards
  exact ⟨chainOf_guarded, stations, hread, hguards⟩

/-- Middleware with no route at or below its path. -/
def outerGuard : Middleware :=
  { path := "/a"
    name := ⟨"Outer", by decide, by decide⟩
    location := ⟨["app", "src", "middleware"]⟩ }

/-- More of it further down. -/
def innerGuard : Middleware :=
  { path := "/a/b"
    name := ⟨"Inner", by decide, by decide⟩
    location := ⟨["app", "src", "middleware"]⟩ }

/-- A router without any route. -/
def idleRouter : Router :=
  { name := ⟨"Idle", by decide, by decide⟩
    location := ⟨["app", "src", "router"]⟩
    specs := [.middleware outerGuard, .middleware innerGuard] }

theorem idleRouter_registered : idleRouter.Registered := by
  have hadd : addMiddlewares ⟨idleRouter.name, idleRouter.location, []⟩ [outerGuard, innerGuard] =
      .ok idleRouter := by
    decide +kernel
  exact .middlewares (.declare "Idle" rfl) hadd

/-- Middleware that has no route to wrap can be written, around a nest without services. -/
theorem not_hasRoute_outer :
    ¬ ∀ (r : Router) (entry : Option Location) (runtime : String) (chain : Chain) (stations : List Station),
      r.Registered → r.chain entry runtime = .ok chain →
        readStations runtime chain.lines = some stations → ∀ m ∈ middlewares r.specs,
          (r.context entry runtime).spelling m.item ∈ stations.flatMap Station.guards → m.HasRoute r.specs := by
  intro h
  obtain ⟨chain, hchain⟩ : ∃ chain, idleRouter.chain none "web" = .ok chain :=
    exists_ok_of_toBool (by decide +kernel)
  have hof : chainOf idleRouter.specs (idleRouter.context none "web") = .ok chain := hchain
  obtain ⟨stations, hread, hperm⟩ := exists_stations hof
  have hguards : (idleRouter.context none "web").spelling outerGuard.item ∈
      stations.flatMap Station.guards := by
    rw [(hperm.flatMap_right Station.guards).mem_iff]
    decide +kernel
  rw [context_runtime] at hread
  obtain ⟨l, hl, -⟩ := h idleRouter none "web" chain stations idleRouter_registered hchain hread
    outerGuard (by decide) hguards
  cases hl

end Router

end RouteWorks
