import RouteWorks.Proofs.Chain.Imports

/-!
# Which locations a chain has to name

A walk through the route tree meets the locations that a chain names: at each node those of its
middleware, then that of its handler, and below it those of its children (`locationsAll`).  A chain is
written if and only if code can name all of them.  If not, the first one that cannot be named is reported
(`Router.chainOf_resolves`).
-/

namespace RouteWorks

/-! ## Locations of a tree -/

/-- The location of the item that answers the requests of a leaf; a mount needs none. -/
def Leaf.location? : Leaf → Option Location
  | handler h => some h.location
  | mount _ => none

namespace RouteNode

open Placed

/-- The locations that are named at a node, in the order in which they are named.  A node without leaf and
children has nothing to wrap, so none is named there. -/
def locations (n : RouteNode) : List Location :=
  if n.leaf = none ∧ n.children = [] then []
  else n.middleware.map (·.location) ++ (n.leaf.bind Leaf.location?).toList

/-- The locations that are named in a forest: those of its nodes in pre-order. -/
def locationsAll (ns : List RouteNode) : List Location :=
  (walkAll [] ns).flatMap fun x => x.2.locations

/-- The item of a leaf stands at its location. -/
theorem map_fst_leafItem (leaf : Option Leaf) :
    (leaf.bind Leaf.item?).toList.map Prod.fst = (leaf.bind Leaf.location?).toList := by
  cases leaf with
  | none => rfl
  | some l => cases l <;> rfl

mutual

theorem map_fst_items :
    ∀ (above : List String) (n : RouteNode),
      n.items.map Prod.fst = (n.walk above).flatMap fun x => x.2.locations
  | above, ⟨key, pattern, leaf, middleware, children⟩ => by
      rw [items_eq, walk, List.flatMap_cons, ← map_fst_itemsAll (above ++ [key]) children, locations]
      split
      · -- such a node has no children to name something for
        rename_i hskip
        have hnil : children = [] := hskip.2
        rw [hnil]
        rfl
      · rw [List.map_append, List.map_append, map_fst_leafItem, List.map_map, List.append_assoc]
        rfl

/-- The items of a forest stand at its locations. -/
theorem map_fst_itemsAll :
    ∀ (above : List String) (ns : List RouteNode),
      (itemsAll ns).map Prod.fst = (walkAll above ns).flatMap fun x => x.2.locations
  | above, [] => rfl
  | above, n :: ns => by
      rw [itemsAll, walkAll, List.map_append, List.flatMap_append, map_fst_items above n,
        map_fst_itemsAll above ns]

end

section Specs

variable {specs : List Spec} {forest : List RouteNode} {ks : List String} {n : RouteNode}

theorem mem_locations_iff {l : Location} :
    l ∈ n.locations ↔ (∃ handler, n.leaf = some (.handler handler) ∧ handler.location = l) ∨
      (∃ m ∈ n.middleware, m.location = l) ∧ (n.leaf ≠ none ∨ n.children ≠ []) := by
  have hleaf : l ∈ (n.leaf.bind Leaf.location?).toList ↔
      ∃ handler, n.leaf = some (.handler handler) ∧ handler.location = l := by
    rw [Option.mem_toList, Option.bind_eq_some_iff]
    constructor
    · rintro ⟨leaf, hleaf, hl⟩
      cases leaf with
      | handler handler => exact ⟨handler, hleaf, Option.some.inj hl⟩
      | mount m => cases hl
    · rintro ⟨handler, hleaf, rfl⟩
      exact ⟨_, hleaf, rfl⟩
  rw [locations, ← hleaf]
  split
  · rename_i hskip
    simp [hskip]
  · rename_i hsome
    rw [List.mem_append, List.mem_map, and_iff_left (not_and_or.mp hsome), or_comm]

/-- The locations of a tree are those of all handlers, and those of the middleware on nodes that have a
leaf or children. -/
theorem mem_locationsAll_iff (h : Represents (specs.map ofSpec) forest) (l : Location) :
    l ∈ locationsAll forest ↔ (∃ handler, .handler handler ∈ specs ∧ handler.location = l) ∨
      ∃ m ∈ middlewares specs, m.location = l ∧
        ∃ n, Leads forest m.keys n ∧ (n.leaf ≠ none ∨ n.children ≠ []) := by
  have hwalk : l ∈ locationsAll forest ↔ ∃ ks n, Leads forest ks n ∧ l ∈ n.locations := by
    simp only [locationsAll, List.mem_flatMap, Prod.exists, mem_walkAll_nil]
  rw [hwalk]
  constructor
  · rintro ⟨ks, n, hn, hl⟩
    rcases mem_locations_iff.mp hl with ⟨handler, hleaf, hl⟩ | ⟨⟨m, hm, hl⟩, hsome⟩
    · exact Or.inl ⟨handler, mem_leaves_handler.mp ((h.leaf_eq_some_iff hn).mp hleaf).1, hl⟩
    · right
      obtain ⟨hm, rfl⟩ := (h.mem_middleware hn).mp hm
      exact ⟨m, hm, hl, n, hn, hsome⟩
  · rintro (⟨handler, hs, hl⟩ | ⟨m, hm, hl, n, hn, hsome⟩)
    · have hleaf : .handler handler ∈ leaves specs := mem_leaves_handler.mpr hs
      obtain ⟨n, hn⟩ := h.exists_leads_of_leaf hleaf
      refine ⟨_, n, hn, mem_locations_iff.mpr (Or.inl ⟨handler, ?_, hl⟩)⟩
      exact (h.leaf_eq_some_iff hn).mpr ⟨hleaf, rfl⟩
    · refine ⟨_, n, hn, mem_locations_iff.mpr (Or.inr ⟨⟨m, ?_, hl⟩, hsome⟩)⟩
      exact (h.mem_middleware hn).mpr ⟨hm, rfl⟩

end Specs

end RouteNode

/-! ## Naming all locations -/

namespace ChainContext

variable {ctx : ChainContext}

/-- Code can name what is declared at a location: it is the entry module, or there are modules that lead
to it. -/
def Resolves (ctx : ChainContext) (l : Location) : Prop := ctx.entry = some l ∨ l.IsModule

/-- An item is named when its location can be. -/
theorem name_cases (ctx : ChainContext) (x : Item) :
    (ctx.Resolves x.1 ∧ ∃ t, ctx.name x = .ok t) ∨
      ¬ ctx.Resolves x.1 ∧ ctx.name x = .error (.unresolvableModule x.1.text) := by
  rw [name, target]
  rcases ModuleReference.resolve_cases x.1 ctx.owner ctx.entry with ⟨hl, r, hr⟩ | ⟨hl, he⟩
  · rw [hr]
    exact Or.inl ⟨hl, _, rfl⟩
  · rw [he]
    exact Or.inr ⟨hl, rfl⟩

theorem exists_name_iff {x : Item} : (∃ t, ctx.name x = .ok t) ↔ ctx.Resolves x.1 := by
  rcases ctx.name_cases x with ⟨hl, hok⟩ | ⟨hl, he⟩
  · exact iff_of_true hok hl
  · refine iff_of_false ?_ hl
    rw [he]
    exact not_exists_ok _

theorem name_eq_error {x : Item} (h : ¬ ctx.Resolves x.1) :
    ctx.name x = .error (.unresolvableModule x.1.text) := by
  rcases ctx.name_cases x with ⟨hl, -⟩ | ⟨-, he⟩
  · exact absurd hl h
  · exact he

end ChainContext

namespace Router

variable {specs : List Spec} {ctx : ChainContext} {forest : List RouteNode}

/-- Writing a chain fails where naming the items of its tree fails. -/
theorem chainOf_agrees (ctx : ChainContext) (h : RouteNode.build specs = .ok forest) :
    Agrees (fun _ _ => True) (chainOf specs ctx) ((RouteNode.itemsAll forest).mapM ctx.name) := by
  rw [chainOf, h, ← bind_pure ((RouteNode.itemsAll forest).mapM ctx.name)]
  refine (ctx.elementsAll_agrees (RouteNode.represents_of_build h)
    (RouteNode.rooted_ofSpec specs)).bind ?_
  intro elements targets _
  exact .ok trivial

/-- The locations that a chain imports are met on the walk through its tree. -/
theorem exists_names_iff (h : RouteNode.build specs = .ok forest) {l : Location} :
    (∃ item, Names specs (l, item)) ↔ l ∈ RouteNode.locationsAll forest := by
  simp only [← named_ofSpec_iff, ← RouteNode.mem_itemsAll_iff (RouteNode.represents_of_build h)]
  rw [RouteNode.locationsAll, ← RouteNode.map_fst_itemsAll [] forest]
  simp

/-- A chain is written if and only if every location that has to be named is the entry module or has
modules that lead to it; these are the locations of the handlers, and those of the middleware on nodes
with a leaf or children.  Otherwise the first location that does not is reported, in pre-order of the
tree and at each node the middleware before the handler.  What is written imports, in ascending order,
the modules of the locations that are neither the place of the router nor the entry module. -/
theorem chainOf_resolves (h : RouteNode.build specs = .ok forest) :
    (∀ l, l ∈ RouteNode.locationsAll forest ↔
      (∃ handler, .handler handler ∈ specs ∧ handler.location = l) ∨
        ∃ m ∈ middlewares specs, m.location = l ∧
          ∃ n, RouteNode.Leads forest m.keys n ∧ (n.leaf ≠ none ∨ n.children ≠ [])) ∧
    ((∃ chain, chainOf specs ctx = .ok chain) ↔
      ∀ l ∈ RouteNode.locationsAll forest, ctx.Resolves l) ∧
    (∀ before l after, RouteNode.locationsAll forest = before ++ l :: after →
      (∀ k ∈ before, ctx.Resolves k) → ¬ ctx.Resolves l →
        chainOf specs ctx = .error (.unresolvableModule l.text)) ∧
    ∀ chain, chainOf specs ctx = .ok chain → Ordered.Ascending chain.imports ∧
      ∀ path, path ∈ chain.imports ↔
        ∃ l ∈ RouteNode.locationsAll forest, l ≠ ctx.owner ∧ ctx.entry ≠ some l ∧
          ∃ modules, l.properModules? = some modules ∧ importPath modules = path := by
  have hagrees := chainOf_agrees ctx h
  have hlocations : RouteNode.locationsAll forest = (RouteNode.itemsAll forest).map Prod.fst :=
    (RouteNode.map_fst_itemsAll [] forest).symm
  refine ⟨RouteNode.mem_locationsAll_iff (RouteNode.represents_of_build h), ?_, ?_, ?_⟩
  · rw [hlocations, List.forall_mem_map]
    simp only [← ChainContext.exists_name_iff]
    constructor
    · rintro ⟨chain, hchain⟩ x hx
      obtain ⟨targets, htargets, -⟩ := hagrees.exists_ok_right hchain
      obtain ⟨t, -, ht⟩ := exists_ok_of_mapM_ok htargets hx
      exact ⟨t, ht⟩
    · intro hall
      obtain ⟨targets, htargets⟩ := exists_mapM_ok hall
      obtain ⟨chain, hchain, -⟩ := hagrees.exists_ok htargets
      exact ⟨chain, hchain⟩
  · intro before l after hsplit hbefore hl
    rw [hlocations, List.map_eq_append_iff] at hsplit
    obtain ⟨front, back, hitems, rfl, hback⟩ := hsplit
    obtain ⟨x, rest, rfl, rfl, -⟩ := List.map_eq_cons_iff.mp hback
    refine hagrees.eq_error ?_
    rw [hitems]
    refine mapM_eq_error ?_ (ChainContext.name_eq_error hl)
    intro y hy
    exact ChainContext.exists_name_iff.mpr (hbefore _ (List.mem_map_of_mem hy))
  · intro chain hchain
    refine ⟨?_, ?_⟩
    · obtain ⟨targets, -, -, himports⟩ := exists_targets hchain
      rw [himports]
      exact Ordered.ascending_ofList _
    · intro path
      rw [mem_imports_iff hchain]
      constructor
      · rintro ⟨l, modules, hl, hmodules⟩
        exact ⟨l, (exists_names_iff h).mp hl.named, hl.ne_owner, hl.ne_entry, modules, hmodules⟩
      · rintro ⟨l, hl, howner, hentry, modules, hmodules⟩
        exact ⟨l, modules, ⟨(exists_names_iff h).mpr hl, howner, hentry⟩, hmodules⟩

/-- A handler whose directory is below no root of sources. -/
def cartHandler : Handler :=
  { path := "/shop/cart"
    methods := []
    name := ⟨"Cart", by decide, by decide⟩
    location := ⟨["app", "cart"]⟩ }

/-- Middleware around it that can be named. -/
def shopGuard : Middleware :=
  { path := "/shop"
    name := ⟨"Guard", by decide, by decide⟩
    location := ⟨["app", "src", "guard"]⟩ }

/-- Middleware in the same place that cannot. -/
def shopLog : Middleware :=
  { path := "/shop"
    name := ⟨"Log", by decide, by decide⟩
    location := ⟨["app", "lib"]⟩ }

/-- All of them, the handler first. -/
def shopSpecs : List Spec := [.handler cartHandler, .middleware shopGuard, .middleware shopLog]

/-- The middleware is reported, since it is met before the handler below. -/
theorem chainOf_resolves_shop : ∃ forest, RouteNode.build shopSpecs = .ok forest ∧
    chainOf shopSpecs reviewContext = .error (.unresolvableModule "/app/lib") := by
  obtain ⟨forest, hbuild, hlocations⟩ : ∃ forest, RouteNode.build shopSpecs = .ok forest ∧
      RouteNode.locationsAll forest =
        [shopGuard.location, shopLog.location, cartHandler.location] :=
    exists_ok_of_toOption (by decide +kernel)
  have hresolves : ∀ l : Location, reviewContext.Resolves l ↔ l.properModules?.isSome := by
    intro l
    simp [ChainContext.Resolves, reviewContext, Location.isModule_iff, Option.isSome_iff_exists]
  obtain ⟨-, -, hfirst, -⟩ := @chainOf_resolves _ reviewContext _ hbuild
  have herror := hfirst [shopGuard.location] shopLog.location _ hlocations
    (by simp only [hresolves]; decide) (by rw [hresolves]; decide)
  exact ⟨forest, hbuild, herror⟩

end Router

end RouteWorks
