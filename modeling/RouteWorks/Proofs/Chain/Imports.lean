import RouteWorks.Proofs.Chain.Items
import RouteWorks.Proofs.Source.Reference
import RouteWorks.Proofs.Text.Ordered

/-!
# What a chain imports

A chain imports the modules of the items that it names, other than the entry module and the place of the
router itself (`mem_imports_iff`).  An import binds the last module of its path.  So the imports bind
distinct names, and a qualified item is one of a single module, if and only if the imported locations that
end alike have the same modules (`Router.chainOf_imports`).
-/

namespace RouteWorks

namespace Router

variable {specs : List Spec} {ctx : ChainContext} {chain : Chain}

/-- An item is named by a chain: it is declared by a spec whose path leads to a leaf or on to another
path. -/
def Names (specs : List Spec) (x : Item) : Prop :=
  ∃ s ∈ specs, s.item? = some x ∧
    ∃ t ∈ specs, s.route.keys <+: t.route.keys ∧ (t.leaf?.isSome ∨ t.route.keys ≠ s.route.keys)

theorem named_ofSpec_iff {x : Item} :
    Placed.Named (specs.map Placed.ofSpec) x ↔ Names specs x := by
  simp only [Placed.Named, Placed.Written, Names, List.mem_map, exists_exists_and_eq_and,
    Placed.ofSpec_keys, Placed.ofSpec_spec, ne_eq, Spec.keys_ne_nil, not_false_eq_true, true_and]

/-- A location has to be imported: a chain names an item there, and it is neither the place of the router
nor the entry module. -/
structure Imports (specs : List Spec) (ctx : ChainContext) (l : Location) : Prop where
  named : ∃ item, Names specs (l, item)
  ne_owner : l ≠ ctx.owner
  ne_entry : ctx.entry ≠ some l

/-- A chain is written from elements whose targets are the items that are named. -/
theorem exists_elements (h : chainOf specs ctx = .ok chain) :
    ∃ elements : List Element, (∀ t ∈ Element.targetsAll elements, Spelled t.text) ∧
      (∀ x, Names specs x → ∃ t, ctx.name x = .ok t) ∧
      (∀ t, t ∈ Element.targetsAll elements ↔ ∃ x, Names specs x ∧ ctx.name x = .ok t) ∧
      chain =
        { imports := Ordered.ofList ((Element.targetsAll elements).filterMap (·.reference.import?))
          lines := Element.linesAll ctx.runtime 1 elements } := by
  obtain ⟨forest, hbuild, h⟩ := bind_eq_ok h
  obtain ⟨elements, helements, h⟩ := bind_eq_ok h
  cases h
  have hrep := RouteNode.represents_of_build hbuild
  obtain ⟨targets, htargets, hnames⟩ :=
    (ctx.elementsAll_agrees hrep (RouteNode.rooted_ofSpec specs)).exists_ok_right helements
  have hitems : ∀ x, x ∈ RouteNode.itemsAll forest ↔ Names specs x := by
    intro x
    rw [RouteNode.mem_itemsAll_iff hrep, named_ofSpec_iff]
  refine ⟨elements, ChainContext.spelled_of_elementsAll forest helements, ?_, ?_, rfl⟩
  · intro x hx
    obtain ⟨t, -, ht⟩ := exists_ok_of_mapM_ok htargets ((hitems x).mpr hx)
    exact ⟨t, ht⟩
  · intro t
    rw [hnames t, mem_mapM_ok htargets]
    simp only [hitems]

/-- The items that a chain names, and the imports that they need. -/
theorem exists_targets (h : chainOf specs ctx = .ok chain) :
    ∃ targets : List Target, (∀ x, Names specs x → ∃ t, ctx.name x = .ok t) ∧
      (∀ t, t ∈ targets ↔ ∃ x, Names specs x ∧ ctx.name x = .ok t) ∧
      chain.imports = Ordered.ofList (targets.filterMap (·.reference.import?)) := by
  obtain ⟨elements, -, hnames, htargets, rfl⟩ := exists_elements h
  exact ⟨Element.targetsAll elements, hnames, htargets, rfl⟩

/-- What a chain names outside the entry module has modules. -/
theorem Names.exists_modules (h : chainOf specs ctx = .ok chain) {l : Location} {item : String}
    (hitem : Names specs (l, item)) (hentry : ctx.entry ≠ some l) :
    ∃ modules, l.properModules? = some modules := by
  obtain ⟨targets, hok, -, -⟩ := exists_targets h
  obtain ⟨t, ht⟩ := hok _ hitem
  obtain ⟨r, hr, -⟩ := bind_eq_ok ht
  exact ModuleReference.exists_modules hr hentry

theorem Imports.exists_modules (h : chainOf specs ctx = .ok chain) {l : Location}
    (hl : Imports specs ctx l) : ∃ modules, l.properModules? = some modules := by
  obtain ⟨item, hitem⟩ := hl.named
  exact hitem.exists_modules h hl.ne_entry

/-- The imports of a chain are the paths of the modules of the locations that have to be imported. -/
theorem mem_imports_iff (h : chainOf specs ctx = .ok chain) (path : String) :
    path ∈ chain.imports ↔ ∃ l modules, Imports specs ctx l ∧
      l.properModules? = some modules ∧ importPath modules = path := by
  obtain ⟨targets, hok, htargets, himports⟩ := exists_targets h
  rw [himports, Ordered.mem_ofList, List.mem_filterMap]
  constructor
  · rintro ⟨t, ht, hpath⟩
    obtain ⟨⟨l, item⟩, hnamed, ht⟩ := (htargets t).mp ht
    obtain ⟨r, hr, ht⟩ := bind_eq_ok ht
    cases ht
    obtain ⟨howner, hentry, modules, hmodules, rfl⟩ :=
      (ModuleReference.import?_eq_some_iff hr).mp hpath
    exact ⟨l, modules, ⟨⟨item, hnamed⟩, howner, hentry⟩, hmodules, rfl⟩
  · rintro ⟨l, modules, hl, hmodules, rfl⟩
    obtain ⟨item, hitem⟩ := hl.named
    obtain ⟨t, ht⟩ := hok _ hitem
    refine ⟨t, (htargets t).mpr ⟨_, hitem, ht⟩, ?_⟩
    obtain ⟨r, hr, ht⟩ := bind_eq_ok ht
    cases ht
    exact (ModuleReference.import?_eq_some_iff hr).mpr ⟨hl.ne_owner, hl.ne_entry, modules, hmodules, rfl⟩

theorem boundName_of_modules {l : Location} {modules : List String}
    (h : l.properModules? = some modules) : boundName (importPath modules) = l.last := by
  obtain ⟨-, -, hne, hnames⟩ := Location.properModules?_eq_some_iff.mp h
  rw [boundName_importPath hne hnames, l.last_eq h]

/-- A chain imports the modules of the locations that have to be imported, each once.  An item of such a
location is qualified with the last part of the location.  The imports that bind this name are those of the
locations that end alike, so they are all the same if and only if these locations have the same modules;
and the names that are bound are distinct if and only if this holds for all imported locations. -/
theorem chainOf_imports (h : chainOf specs ctx = .ok chain) :
    Ordered.Ascending chain.imports ∧
    (∀ path, path ∈ chain.imports ↔ ∃ l modules, Imports specs ctx l ∧
      l.properModules? = some modules ∧ importPath modules = path) ∧
    ((chain.imports.map boundName).Nodup ↔ ∀ l l', Imports specs ctx l → Imports specs ctx l' →
      l.last = l'.last → l.properModules? = l'.properModules?) ∧
    ∀ l, Imports specs ctx l → ∃ r, ModuleReference.resolve l ctx.owner ctx.entry = .ok r ∧
      r.qualifier = l.last ++ "::" ∧
      ((∃! path, path ∈ chain.imports ∧ boundName path = l.last) ↔
        ∀ l', Imports specs ctx l' → l'.last = l.last → l'.properModules? = l.properModules?) := by
  have hmem := mem_imports_iff h
  have hascending : Ordered.Ascending chain.imports := by
    obtain ⟨targets, -, -, himports⟩ := exists_targets h
    rw [himports]
    exact Ordered.ascending_ofList _
  -- paths are the same as modules
  have hinj : ∀ {l l' : Location} {ms ms' : List String}, l.properModules? = some ms →
      l'.properModules? = some ms' → importPath ms = importPath ms' → ms = ms' :=
    fun hms hms' => importPath_inj (Location.isModuleName_of_properModules? hms)
      (Location.isModuleName_of_properModules? hms')
  refine ⟨hascending, hmem, ?_, ?_⟩
  · rw [List.nodup_map_iff_inj_on hascending.nodup]
    constructor
    · intro hdistinct l l' hl hl' hlast
      obtain ⟨modules, hmodules⟩ := hl.exists_modules h
      obtain ⟨modules', hmodules'⟩ := hl'.exists_modules h
      have hpath := hdistinct _ ((hmem _).mpr ⟨l, modules, hl, hmodules, rfl⟩) _
        ((hmem _).mpr ⟨l', modules', hl', hmodules', rfl⟩) (by
          rw [boundName_of_modules hmodules, boundName_of_modules hmodules', hlast])
      rw [hmodules, hmodules', hinj hmodules hmodules' hpath]
    · intro hsame path hpath path' hpath' hbound
      obtain ⟨l, modules, hl, hmodules, rfl⟩ := (hmem path).mp hpath
      obtain ⟨l', modules', hl', hmodules', rfl⟩ := (hmem path').mp hpath'
      rw [boundName_of_modules hmodules, boundName_of_modules hmodules'] at hbound
      have heq := hsame l l' hl hl' hbound
      rw [hmodules, hmodules', Option.some.injEq] at heq
      rw [heq]
  · intro l hl
    obtain ⟨modules, hmodules⟩ := hl.exists_modules h
    refine ⟨_, ModuleReference.resolve_of_properModules? hmodules hl.ne_owner hl.ne_entry,
      ModuleReference.qualifier_of_properModules? hmodules, ?_⟩
    -- the import of the location itself binds the name, so it is the only one if any is
    have hown : importPath modules ∈ chain.imports ∧ boundName (importPath modules) = l.last :=
      ⟨(hmem _).mpr ⟨l, modules, hl, hmodules, rfl⟩, boundName_of_modules hmodules⟩
    constructor
    · rintro hunique l' hl' hlast
      obtain ⟨modules', hmodules'⟩ := hl'.exists_modules h
      have hother : importPath modules' ∈ chain.imports ∧ boundName (importPath modules') = l.last := by
        refine ⟨(hmem _).mpr ⟨l', modules', hl', hmodules', rfl⟩, ?_⟩
        rw [boundName_of_modules hmodules', hlast]
      rw [hmodules, hmodules', hinj hmodules' hmodules (hunique.unique hother hown)]
    · intro hsame
      refine ⟨importPath modules, hown, ?_⟩
      rintro path ⟨hpath, hbound⟩
      obtain ⟨l', modules', hl', hmodules', rfl⟩ := (hmem path).mp hpath
      rw [boundName_of_modules hmodules'] at hbound
      have heq := hsame l' hl' hbound
      rw [hmodules, hmodules', Option.some.injEq] at heq
      rw [heq]

/-- A handler in the directory of an interface. -/
def listHandler : Handler :=
  { path := "/items"
    methods := [.get]
    name := ⟨"Listing", by decide, by decide⟩
    location := ⟨["app", "src", "api", "handler"]⟩ }

/-- A handler in a directory of the same name in another module. -/
def reviewHandler : Handler :=
  { path := "/review"
    methods := [.get]
    name := ⟨"Review", by decide, by decide⟩
    location := ⟨["app", "src", "admin", "handler"]⟩ }

/-- A router for both handlers. -/
def reviewRouter : Router :=
  { name := ⟨"Main", by decide, by decide⟩
    location := ⟨["app", "src", "router"]⟩
    specs := [.handler listHandler, .handler reviewHandler] }

/-- The chain of this router, for an entry module that is not known yet. -/
def reviewContext : ChainContext :=
  { owner := ⟨["app", "src", "router"]⟩, entry := none, runtime := "web" }

theorem exists_reviewChain : ∃ chain, chainOf reviewRouter.specs reviewContext = .ok chain ∧
    chain.imports = ["crate::admin::handler", "crate::api::handler"] := by
  refine exists_ok_of_toOption ?_
  decide +kernel

theorem chainOf_imports_review :
    ∃ chain, chainOf reviewRouter.specs reviewContext = .ok chain ∧
      Imports reviewRouter.specs reviewContext listHandler.location ∧
      ¬ ∃! path, path ∈ chain.imports ∧ boundName path = "handler" := by
  obtain ⟨chain, hchain, -⟩ := exists_reviewChain
  have hlist : Imports reviewRouter.specs reviewContext listHandler.location :=
    ⟨⟨"listing", .handler listHandler, List.mem_cons_self, by decide, .handler listHandler,
      List.mem_cons_self, List.prefix_refl _, Or.inl rfl⟩, by decide, by decide⟩
  have hreview : Imports reviewRouter.specs reviewContext reviewHandler.location :=
    ⟨⟨"review", .handler reviewHandler, List.mem_cons_of_mem _ List.mem_cons_self, by decide,
      .handler reviewHandler, List.mem_cons_of_mem _ List.mem_cons_self, List.prefix_refl _,
      Or.inl rfl⟩, by decide, by decide⟩
  obtain ⟨r, -, -, hunique⟩ := (chainOf_imports hchain).2.2.2 listHandler.location hlist
  refine ⟨chain, hchain, hlist, fun h => ?_⟩
  exact absurd (hunique.mp h reviewHandler.location hreview (by decide)) (by decide)

/-- Two imports can bind the same name. -/
theorem not_nodup_boundName :
    ¬ ∀ (r : Router) (entry : Option Location) (runtime : String) (chain : Chain),
      r.chain entry runtime = .ok chain → (chain.imports.map boundName).Nodup := by
  intro h
  obtain ⟨chain, hchain, himports⟩ := exists_reviewChain
  have hnodup := h reviewRouter none "web" chain hchain
  rw [himports] at hnodup
  exact absurd hnodup (by decide)

end Router

end RouteWorks
