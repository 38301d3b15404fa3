import RouteWorks.Proofs.Chain.Items
import RouteWorks.Proofs.Project.Registration
import RouteWorks.Proofs.Route.Conflict
import RouteWorks.Proofs.Source.Modules

/-!
# When a project is planned

A plan is made in passes: the modules of all files, the calls of the entry module, and for every app the
chain of its router and the files of its specs.  Each pass can fail, but only two things can be wrong with
a registered project: a location that is no module, which the first pass finds before anything else, and
two leaves at one place in a route tree (`Plan.ofProject_outcome`).
-/

namespace RouteWorks

/-! ## What is declared where -/

/-- The files that a router declares: its own, and those of its handlers and middleware. -/
inductive Router.Declares (r : Router) : Location → String → Prop
  | own : Declares r r.location r.name.snake
  | handler {h : Handler} (hs : .handler h ∈ r.specs) : Declares r h.location h.name.snake
  | middleware {m : Middleware} (hs : .middleware m ∈ r.specs) : Declares r m.location m.name.snake

namespace Project

variable {p : Project}

theorem mem_routerModules {r : Router} {l : Location} {file : String} :
    (l, file) ∈ routerModules r ↔ r.Declares l file := by
  rw [routerModules, List.mem_cons, List.mem_filterMap]
  constructor
  · rintro (h | ⟨s, hs, h⟩)
    · cases h
      exact .own
    · cases s with
      | handler x =>
          cases h
          exact .handler hs
      | middleware x =>
          cases h
          exact .middleware hs
      | mount x => cases h
  · rintro (_ | hs | hs)
    · exact Or.inl rfl
    · exact Or.inr ⟨_, hs, rfl⟩
    · exact Or.inr ⟨_, hs, rfl⟩

/-- The files that the apps of a project declare, in the order of the passes. -/
def declared (p : Project) : List (Location × String) :=
  p.frames.flatMap fun f => routerModules f.router

theorem mem_declared {l : Location} {file : String} :
    (l, file) ∈ p.declared ↔ ∃ f ∈ p.frames, f.router.Declares l file := by
  rw [declared, List.mem_flatMap]
  simp only [mem_routerModules]

/-- Whatever a router of the project declares is in a module. -/
def Resolvable (p : Project) : Prop :=
  ∀ f ∈ p.frames, ∀ l file, f.router.Declares l file → l.HasModule p.entry

/-- No two leaves of a router of the project are at one place. -/
def ClashFree (p : Project) : Prop := ∀ f ∈ p.frames, RouteNode.ClashFree f.router.specs

theorem resolvable_iff : p.Resolvable ↔ ∀ x ∈ p.declared, x.1.HasModule p.entry := by
  constructor
  · rintro h ⟨l, file⟩ hx
    obtain ⟨f, hf, hdeclares⟩ := mem_declared.mp hx
    exact h f hf l file hdeclares
  · intro h f hf l file hdeclares
    exact h (l, file) (mem_declared.mpr ⟨f, hf, hdeclares⟩)

end Project

/-! ## The modules of a project -/

/-- The modules of a project fail at the first declared file that is in no module. -/
theorem Project.modules_cases (p : Project) :
    (p.Resolvable ∧ ∃ t, p.modules = .ok t) ∨
      ∃ before x after, p.declared = before ++ x :: after ∧
        (∀ y ∈ before, y.1.HasModule p.entry) ∧ ¬ x.1.HasModule p.entry ∧
        p.modules = .error (.unresolvableModule x.1.text) := by
  rw [resolvable_iff]
  refine foldlM_cases (fun x : Location × String => x.1.HasModule p.entry) ?_ ?_
    p.declared ({} : ModuleTree)
  · rintro t ⟨l, file⟩ hmodule
    obtain ⟨modules, hmodules⟩ := hmodule.exists_path?
    refine ⟨ModuleTree.enter [] modules file t, ?_⟩
    change t.insert p.entry l file = _
    rw [ModuleTree.insert, hmodules]
    rfl
  · rintro t ⟨l, file⟩ hmodule
    change t.insert p.entry l file = _
    rw [ModuleTree.insert, Location.HasModule.path?_error hmodule]
    rfl

/-! ## The files of a router -/

section Router

variable {r : Router} {entry : Location}

/-- A chain is written when the route tree is built and what it names has modules. -/
theorem Router.exists_chain {forest : List RouteNode} (hbuild : RouteNode.build r.specs = .ok forest)
    (hmodules : ∀ l file, r.Declares l file → l.HasModule entry) (runtime : String) :
    ∃ chain, r.chain (some entry) runtime = .ok chain := by
  -- whatever is named for the chain is declared by the router
  have hnamed : ∀ x ∈ RouteNode.itemsAll forest, x.1.HasModule entry := by
    intro x hx
    obtain ⟨p, hp, -, hitem, -⟩ :=
      (RouteNode.mem_itemsAll_iff (RouteNode.represents_of_build hbuild) x).mp hx
    obtain ⟨s, hs, rfl⟩ := List.mem_map.mp hp
    cases s with
    | handler h =>
        cases hitem
        exact hmodules _ _ (.handler hs)
    | middleware m =>
        cases hitem
        exact hmodules _ _ (.middleware hs)
    | mount m => cases hitem
  let ctx : ChainContext := { owner := r.location, entry := some entry, runtime }
  obtain ⟨targets, htargets⟩ : ∃ targets, (RouteNode.itemsAll forest).mapM ctx.name = .ok targets := by
    refine exists_mapM_ok ?_
    intro x hx
    obtain ⟨reference, hreference⟩ := (hnamed x hx).exists_resolve r.location
    refine ⟨{ reference, item := x.2 }, ?_⟩
    rw [ChainContext.name, ChainContext.target, hreference]
    rfl
  obtain ⟨elements, helements, -⟩ :=
    (ctx.elementsAll_agrees (RouteNode.represents_of_build hbuild)
      (RouteNode.rooted_ofSpec r.specs)).exists_ok htargets
  have hchain : ∃ chain, Chain.ofForest ctx forest = .ok chain := by
    rw [Chain.ofForest, helements]
    exact ⟨_, rfl⟩
  rw [chain, chainOf, hbuild]
  exact hchain

/-- What a router generates once its locations are modules: all its files, unless its route tree is
refused. -/
theorem Plan.ofRouter_cases (hr : r.Registered)
    (hmodules : ∀ l file, r.Declares l file → l.HasModule entry) (runtime : String) :
    (RouteNode.ClashFree r.specs ∧ ∃ files, ofRouter r (some entry) runtime = .ok files) ∨
      (¬ RouteNode.ClashFree r.specs ∧ ∃ path,
        RouteNode.build r.specs = .error (.routeConflict path) ∧
        ofRouter r (some entry) runtime = .error (.routeConflict path)) := by
  rcases RouteNode.build_cases r.specs with
    ⟨forest, hbuild, -, hfree⟩ | ⟨_, s, _, -, hbuild, -, -⟩
  · left
    refine ⟨hfree, ?_⟩
    obtain ⟨chain, hchain⟩ := r.exists_chain hbuild hmodules runtime
    obtain ⟨files, hfiles⟩ : ∃ files, r.specs.mapM (specFile runtime) = .ok files :=
      exists_mapM_ok fun s hs => exists_specFile (hr.admitted s hs) runtime
    rw [ofRouter, Router.create, hchain, hfiles]
    exact ⟨_, rfl⟩
  · right
    refine ⟨(RouteNode.build_refused_iff r.specs).mp ⟨_, hbuild⟩, s.path, hbuild, ?_⟩
    rw [ofRouter, Router.create, Router.chain, Router.chainOf, hbuild]
    rfl

theorem Plan.exists_ofRouter_iff (hr : r.Registered)
    (hmodules : ∀ l file, r.Declares l file → l.HasModule entry) (runtime : String) :
    (∃ files, ofRouter r (some entry) runtime = .ok files) ↔ RouteNode.ClashFree r.specs := by
  rcases ofRouter_cases hr hmodules runtime with ⟨hfree, hok⟩ | ⟨hclash, path, -, herror⟩
  · exact iff_of_true hok hfree
  · rw [herror]
    exact iff_of_false (not_exists_ok _) hclash

end Router

/-! ## Plans -/

theorem Project.exists_createMain {p : Project} (h : p.Resolvable) {t : ModuleTree}
    (ht : p.modules = .ok t) (runtime : String) : ∃ text, p.createMain runtime = .ok text := by
  obtain ⟨calls, hcalls⟩ : ∃ calls, p.frames.mapM p.frameCall = .ok calls := by
    refine exists_mapM_ok ?_
    intro f hf
    obtain ⟨reference, hreference⟩ := (h f hf _ _ .own).exists_resolve p.entry
    rw [frameCall, routerReference, hreference]
    exact ⟨_, rfl⟩
  rw [createMain, ht]
  exact ⟨_, by rw [hcalls]; rfl⟩

namespace Plan

variable {p : Project}

/-- Everything that a project produces, in the order in which it is made. -/
def produced (p : Project) (runtime : String) : Except Fault (List PlannedFile) := do
  let main ← p.createMain runtime
  let modules ← p.modules
  let routers ← p.frames.mapM fun f => ofRouter f.router (some p.entry) runtime
  return { path := p.entry.file "main.rs", contents := main, mode := .always }
    :: moduleFiles p modules ++ routers.flatten

/-- A plan has the first file for each path of what is produced. -/
theorem ofProject_eq_map (p : Project) (runtime : String) :
    ofProject p runtime = firstOfEach <$> produced p runtime := by
  rw [ofProject, produced]
  cases p.createMain runtime with
  | error e => rfl
  | ok main =>
      cases p.modules with
      | error e => rfl
      | ok t => cases p.frames.mapM fun f => ofRouter f.router (some p.entry) runtime <;> rfl

/-- Once the modules are known, only the routers are left to fail. -/
theorem produced_eq (h : p.Resolvable) (runtime : String) :
    ∃ main t, p.createMain runtime = .ok main ∧ p.modules = .ok t ∧
      produced p runtime = (fun files : List (List PlannedFile) =>
        { path := p.entry.file "main.rs", contents := main, mode := .always }
          :: moduleFiles p t ++ files.flatten) <$>
        p.frames.mapM fun f => ofRouter f.router (some p.entry) runtime := by
  rcases p.modules_cases with ⟨-, t, ht⟩ | ⟨before, x, after, hsplit, -, hx, -⟩
  · obtain ⟨main, hmain⟩ := Project.exists_createMain h ht runtime
    refine ⟨main, t, hmain, ht, ?_⟩
    rw [produced, hmain, ht]
    cases p.frames.mapM fun f => ofRouter f.router (some p.entry) runtime <;> rfl
  · refine absurd (Project.resolvable_iff.mp h x ?_) hx
    rw [hsplit]
    exact List.mem_append_right _ List.mem_cons_self

/-- The routers of a project generate their files, or the first one whose route tree is refused says
so. -/
theorem ofRouters_cases (hp : p.Registered) (h : p.Resolvable) (runtime : String) :
    (p.ClashFree ∧ ∃ files,
        (p.frames.mapM fun f => ofRouter f.router (some p.entry) runtime) = .ok files) ∨
      ¬ p.ClashFree ∧ ∃ before f after path, p.frames = before ++ f :: after ∧
        (∀ g ∈ before, RouteNode.ClashFree g.router.specs) ∧
        RouteNode.build f.router.specs = .error (.routeConflict path) ∧
        (p.frames.mapM fun f => ofRouter f.router (some p.entry) runtime) =
          .error (.routeConflict path) := by
  have hrouter : ∀ f ∈ p.frames, ((∃ files, ofRouter f.router (some p.entry) runtime = .ok files) ↔
      RouteNode.ClashFree f.router.specs) := fun f hf =>
    exists_ofRouter_iff (hp.frames f hf).2 (h f hf) runtime
  rcases mapM_cases (fun f : Frame => ofRouter f.router (some p.entry) runtime) p.frames with
    ⟨hall, hfiles⟩ | ⟨before, f, after, e, hsplit, hbefore, hf, hrun⟩
  · exact Or.inl ⟨fun f hf => (hrouter f hf).mp (hall f hf), hfiles⟩
  · right
    have hmem : f ∈ p.frames := by
      rw [hsplit]
      exact List.mem_append_right _ List.mem_cons_self
    have hfirst : ∀ g ∈ before, RouteNode.ClashFree g.router.specs := by
      intro g hg
      refine (hrouter g ?_).mp (hbefore g hg)
      rw [hsplit]
      exact List.mem_append_left _ hg
    -- the first router that fails has all its modules, so its route tree is refused
    rcases ofRouter_cases (hp.frames f hmem).2 (h f hmem) runtime with
      ⟨-, files, hok⟩ | ⟨hclash, path, hbuild, herror⟩
    · rw [hf] at hok
      cases hok
    · rw [hf] at herror
      cases herror
      exact ⟨fun hfree => hclash (hfree f hmem), before, f, after, path, hsplit, hfirst, hbuild, hrun⟩

/-- A plan of a registered project is made if and only if every declared file is in a module and no
router has two leaves at one place.  The first file that is in no module is reported, whatever else is
wrong; if there is none, the first router whose route tree is refused. -/
theorem ofProject_outcome (hp : p.Registered) (runtime : String) :
    ((∃ files, ofProject p runtime = .ok files) ↔ p.Resolvable ∧ p.ClashFree) ∧
    (¬ p.Resolvable → ∃ before x after, p.declared = before ++ x :: after ∧
      (∀ y ∈ before, y.1.HasModule p.entry) ∧ ¬ x.1.HasModule p.entry ∧
      ofProject p runtime = .error (.unresolvableModule x.1.text)) ∧
    (p.Resolvable → ¬ p.ClashFree → ∃ before f after path, p.frames = before ++ f :: after ∧
      (∀ g ∈ before, RouteNode.ClashFree g.router.specs) ∧
      RouteNode.build f.router.specs = .error (.routeConflict path) ∧
      ofProject p runtime = .error (.routeConflict path)) := by
  rcases p.modules_cases with ⟨hresolvable, -⟩ | ⟨before, x, after, hsplit, hbefore, hx, hmodules⟩
  · obtain ⟨main, t, -, -, hproduced⟩ := produced_eq hresolvable runtime
    rw [ofProject_eq_map, hproduced]
    rcases ofRouters_cases hp hresolvable runtime with
      ⟨hfree, files, hfiles⟩ | ⟨hclash, before, f, after, path, hsplit, hbefore, hbuild, hrun⟩
    · rw [hfiles]
      refine ⟨iff_of_true ⟨_, rfl⟩ ⟨hresolvable, hfree⟩, ?_, ?_⟩
      · exact fun h => absurd hresolvable h
      · exact fun _ h => absurd hfree h
    · rw [hrun]
      refine ⟨iff_of_false (not_exists_ok _) fun h => hclash h.2, ?_, ?_⟩
      · exact fun h => absurd hresolvable h
      · exact fun _ _ => ⟨before, f, after, path, hsplit, hbefore, hbuild, rfl⟩
  · -- the entry module asks for the modules before any router is looked at
    have hplan : ofProject p runtime = .error (.unresolvableModule x.1.text) := by
      rw [ofProject, Project.createMain, hmodules]
      rfl
    have hunresolvable : ¬ p.Resolvable := by
      rw [Project.resolvable_iff, hsplit]
      exact fun h => hx (h x (List.mem_append_right _ List.mem_cons_self))
    rw [hplan]
    refine ⟨iff_of_false (not_exists_ok _) fun h => hunresolvable h.1, ?_, ?_⟩
    · exact fun _ => ⟨before, x, after, hsplit, hbefore, hx, rfl⟩
    · exact fun h => absurd h hunresolvable

end Plan

/-! ## A shop -/

/-- The list of the items on sale, as a record handler in a directory. -/
def itemsHandler (place : Location) : Handler :=
  { path := "/items"
    methods := [.get]
    name := ⟨"Items", by decide, by decide⟩
    location := place
    fields := some [{ name := "page", type := "u32", position := some .query }] }

/-- A router with one handler for the items in each of some directories. -/
def shopRouter (places : List Location) : Router :=
  { name := ⟨"Shop", by decide, by decide⟩
    location := ⟨["shop", "src", "router"]⟩
    specs := places.map fun place => .handler (itemsHandler place) }

/-- A shop is a project with this one router. -/
def shop (places : List Location) : Project :=
  { entry := ⟨["shop", "src"]⟩
    frames := [{ name := "shop", version := "1.0", router := shopRouter places }] }

theorem itemsHandler_admitted (place : Location) : (Spec.handler (itemsHandler place)).Admitted := by
  have hpath : Text.isBlankText "/items" = false := by decide
  have hfields : Field.checkAll "Items"
      [{ name := "page", type := "u32", position := some .query }] = .ok () := by decide
  refine ⟨hpath, ?_⟩
  rintro _ _ ⟨⟩ ⟨⟩
  exact hfields

theorem shopRouter_registered (places : List Location) : (shopRouter places).Registered := by
  induction places using List.reverseRecOn with
  | nil => exact .declare "shop" rfl
  | append_singleton places place ih =>
      refine .handler (x := itemsHandler place) ih (Router.addHandler_eq_ok_iff.mpr ⟨?_, ?_⟩)
      · exact itemsHandler_admitted place
      · rw [shopRouter, shopRouter, List.map_append]
        rfl

theorem shop_registered (places : List Location) : (shop places).Registered :=
  .frame "shop" "1.0" (.start ⟨["shop", "src"]⟩) (shopRouter_registered places) rfl

variable {places : List Location}

theorem shop_resolvable_iff :
    (shop places).Resolvable ↔ ∀ place ∈ places, place.HasModule ⟨["shop", "src"]⟩ := by
  have hrouter : (⟨["shop", "src", "router"]⟩ : Location).HasModule ⟨["shop", "src"]⟩ :=
    Or.inr (Location.isModule_iff.mpr ⟨["router"], by decide⟩)
  constructor
  · intro h place hplace
    exact h _ List.mem_cons_self _ _ (.handler (h := itemsHandler place) (List.mem_map_of_mem hplace))
  · intro h f hf l file hdeclares
    rw [List.mem_singleton.mp hf] at hdeclares
    cases hdeclares with
    | own => exact hrouter
    | handler hs =>
        obtain ⟨place, hplace, heq⟩ := List.mem_map.mp hs
        cases heq
        exact h place hplace
    | middleware hs =>
        obtain ⟨place, -, heq⟩ := List.mem_map.mp hs
        cases heq

theorem shop_clashFree_iff : (shop places).ClashFree ↔ places.length ≤ 1 := by
  have hclash : ∀ a b, (Spec.handler (itemsHandler a)).Clashes (.handler (itemsHandler b)) :=
    fun _ _ => ⟨rfl, rfl, rfl⟩
  have hrouter : (shop places).ClashFree ↔ places.Pairwise fun _ _ => False := by
    simp only [Project.ClashFree, shop, shopRouter, List.forall_mem_singleton, RouteNode.ClashFree,
      List.pairwise_map, hclash, not_true_eq_false]
  rw [hrouter]
  cases places with
  | nil => simp
  | cons _ places =>
      cases places with
      | nil => simp
      | cons _ _ =>
          refine iff_of_false ?_ (by simp)
          exact fun h => List.rel_of_pairwise_cons h List.mem_cons_self

namespace Plan

/-- One place for the items is fine, and two are in conflict, unless one of them is outside of the
sources: this is reported first. -/
theorem ofProject_outcome_shop :
    (∃ files, ofProject (shop [⟨["shop", "src", "handler"]⟩]) "web" = .ok files) ∧
    (∃ l, ofProject (shop [⟨["shop", "lib"]⟩, ⟨["shop", "lib"]⟩]) "web" =
      .error (.unresolvableModule l)) ∧
    ∃ path, ofProject (shop [⟨["shop", "src", "handler"]⟩, ⟨["shop", "src", "view"]⟩]) "web" =
      .error (.routeConflict path) := by
  have hin : ∀ l : Location, l.properModules?.isSome → l.HasModule ⟨["shop", "src"]⟩ := fun l h =>
    Or.inr (Location.isModule_iff.mpr (Option.isSome_iff_exists.mp h))
  have hhandler := hin ⟨["shop", "src", "handler"]⟩ (by decide)
  have hview := hin ⟨["shop", "src", "view"]⟩ (by decide)
  have hlib : ¬ (⟨["shop", "lib"]⟩ : Location).HasModule ⟨["shop", "src"]⟩ := by
    refine not_or.mpr ⟨by decide, Location.properModules?_eq_none_iff.mp (by decide)⟩
  refine ⟨?_, ?_, ?_⟩
  · refine (ofProject_outcome (shop_registered _) "web").1.mpr ⟨?_, ?_⟩
    · exact shop_resolvable_iff.mpr (by simpa using hhandler)
    · exact shop_clashFree_iff.mpr (by decide)
  · have hout : ¬ (shop [⟨["shop", "lib"]⟩, ⟨["shop", "lib"]⟩]).Resolvable :=
      fun h => hlib (shop_resolvable_iff.mp h _ List.mem_cons_self)
    obtain ⟨_, _, _, -, -, -, h⟩ := (ofProject_outcome (shop_registered _) "web").2.1 hout
    exact ⟨_, h⟩
  · have hresolvable : (shop [⟨["shop", "src", "handler"]⟩, ⟨["shop", "src", "view"]⟩]).Resolvable :=
      shop_resolvable_iff.mpr (by simpa using ⟨hhandler, hview⟩)
    have htwo : ¬ (shop [⟨["shop", "src", "handler"]⟩, ⟨["shop", "src", "view"]⟩]).ClashFree :=
      fun h => absurd (shop_clashFree_iff.mp h) (by decide)
    obtain ⟨_, _, _, path, -, -, -, h⟩ :=
      (ofProject_outcome (shop_registered _) "web").2.2 hresolvable htwo
    exact ⟨path, h⟩

end Plan

end RouteWorks
