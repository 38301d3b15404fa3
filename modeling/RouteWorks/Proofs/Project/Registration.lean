import RouteWorks.Generate.Plan
import RouteWorks.Proofs.Fallible

/-!
# What registration has checked

Routers and projects are made by registration only.  A spec is checked when it is registered and kept as
it is, so every spec of a registered router is admitted (`Router.Registered.admitted`), and what has been
admitted can be written (`exists_specFile`): the fields of a record handler have names, which is all that
its declarations ask for.
-/

namespace RouteWorks

/-! ## Routers -/

/-- What has been checked about a spec when it is registered. -/
structure Spec.Admitted (s : Spec) : Prop where
  path : Text.isBlankText s.path = false
  fields : ∀ h fields, s = .handler h → h.fields = some fields →
    Field.checkAll h.name.canonical fields = .ok ()

/-- The routers that registration makes. -/
inductive Router.Registered : Router → Prop
  | declare (name : String) {location : Location} {r : Router}
      (h : Router.declare name location = .ok r) : Registered r
  | handler {r r' : Router} {x : Handler} (hr : Registered r) (h : r.addHandler x = .ok r') :
      Registered r'
  | middlewares {r r' : Router} {xs : List Middleware} (hr : Registered r)
      (h : r.addMiddlewares xs = .ok r') : Registered r'
  | mount {r r' : Router} {x : Mount} (hr : Registered r) (h : r.addMount x = .ok r') :
      Registered r'

theorem checkPath_eq_ok_iff {path name : String} :
    checkPath path name = .ok () ↔ Text.isBlankText path = false := by
  rw [checkPath]
  split
  · rename_i hblank
    simp [hblank]
  · rename_i hblank
    simp [hblank]

namespace Router

variable {r r' : Router}

theorem addHandler_eq_ok_iff {x : Handler} :
    r.addHandler x = .ok r' ↔
      (Spec.handler x).Admitted ∧ { r with specs := r.specs ++ [.handler x] } = r' := by
  rw [addHandler]
  constructor
  · intro h
    obtain ⟨u, hpath, h⟩ := bind_eq_ok h
    have hpath := checkPath_eq_ok_iff.mp hpath
    cases hfields : x.fields with
    | none =>
        rw [hfields] at h
        refine ⟨⟨hpath, ?_⟩, Except.ok.inj h⟩
        rintro _ fields ⟨⟩ hsome
        rw [hfields] at hsome
        cases hsome
    | some fields =>
        rw [hfields] at h
        obtain ⟨u, hchecked, h⟩ := bind_eq_ok h
        refine ⟨⟨hpath, ?_⟩, Except.ok.inj h⟩
        rintro _ fields' ⟨⟩ hsome
        rw [hfields] at hsome
        cases hsome
        exact hchecked
  · rintro ⟨hadmitted, rfl⟩
    have hpath : checkPath x.path x.name.canonical = .ok () :=
      checkPath_eq_ok_iff.mpr hadmitted.path
    rw [hpath]
    cases hfields : x.fields with
    | none => rfl
    | some fields =>
        have hchecked := hadmitted.fields x fields rfl hfields
        dsimp only
        rw [hchecked]
        rfl

theorem addMiddlewares_eq_ok_iff {xs : List Middleware} :
    r.addMiddlewares xs = .ok r' ↔ (∀ x ∈ xs, (Spec.middleware x).Admitted) ∧
      { r with specs := r.specs ++ xs.map .middleware } = r' := by
  rw [addMiddlewares]
  constructor
  · intro h
    obtain ⟨u, hpaths, h⟩ := bind_eq_ok h
    refine ⟨?_, Except.ok.inj h⟩
    intro x hx
    refine ⟨checkPath_eq_ok_iff.mp (forM_eq_ok_iff.mp hpaths x hx), ?_⟩
    rintro _ _ ⟨⟩
  · rintro ⟨hadmitted, rfl⟩
    have hpaths : (xs.forM fun x => checkPath x.path x.name.canonical) = .ok () :=
      forM_eq_ok_iff.mpr fun x hx => checkPath_eq_ok_iff.mpr (hadmitted x hx).path
    rw [hpaths]
    rfl

theorem addMount_eq_ok_iff {x : Mount} :
    r.addMount x = .ok r' ↔
      (Spec.mount x).Admitted ∧ { r with specs := r.specs ++ [.mount x] } = r' := by
  rw [addMount]
  constructor
  · intro h
    obtain ⟨u, hpath, h⟩ := bind_eq_ok h
    refine ⟨⟨checkPath_eq_ok_iff.mp hpath, ?_⟩, Except.ok.inj h⟩
    rintro _ _ ⟨⟩
  · rintro ⟨hadmitted, rfl⟩
    have hpath : checkPath x.path x.name = .ok () := checkPath_eq_ok_iff.mpr hadmitted.path
    rw [hpath]
    rfl

theorem Registered.admitted (hr : r.Registered) : ∀ s ∈ r.specs, s.Admitted := by
  induction hr with
  | declare _ h =>
      obtain ⟨name, -, h⟩ := bind_eq_ok h
      cases h
      exact fun s hs => absurd hs List.not_mem_nil
  | handler _ h ih =>
      obtain ⟨hx, rfl⟩ := addHandler_eq_ok_iff.mp h
      intro s hs
      rcases List.mem_append.mp hs with hs | hs
      · exact ih s hs
      · rw [List.mem_singleton.mp hs]
        exact hx
  | middlewares _ h ih =>
      obtain ⟨hxs, rfl⟩ := addMiddlewares_eq_ok_iff.mp h
      intro s hs
      rcases List.mem_append.mp hs with hs | hs
      · exact ih s hs
      · obtain ⟨x, hx, rfl⟩ := List.mem_map.mp hs
        exact hxs x hx
  | mount _ h ih =>
      obtain ⟨hx, rfl⟩ := addMount_eq_ok_iff.mp h
      intro s hs
      rcases List.mem_append.mp hs with hs | hs
      · exact ih s hs
      · rw [List.mem_singleton.mp hs]
        exact hx

end Router

/-! ## Projects -/

/-- The projects that registration makes. -/
inductive Project.Registered : Project → Prop
  | start (entry : Location) : Registered { entry }
  | frame {p p' : Project} {r : Router} (name version : String) (hp : Registered p)
      (hr : r.Registered) (h : p.addFrame r name version = .ok p') : Registered p'

namespace Project

variable {p p' : Project}

theorem addFrame_eq_ok_iff {r : Router} {name version : String} :
    p.addFrame r name version = .ok p' ↔ Text.trim name ≠ "" ∧ { p with frames := p.frames ++
      [{ name := Text.trim name, version := Text.trim version, router := r }] } = p' := by
  rw [addFrame]
  split
  · rename_i hname
    simp [hname]
  · rename_i hname
    simp [hname]

/-- Every app of a registered project has a name and a registered router. -/
theorem Registered.frames (hp : p.Registered) :
    ∀ f ∈ p.frames, f.name ≠ "" ∧ f.router.Registered := by
  induction hp with
  | start entry => exact fun f hf => absurd hf List.not_mem_nil
  | frame _ _ _ hr h ih =>
      obtain ⟨hname, rfl⟩ := addFrame_eq_ok_iff.mp h
      intro f hf
      rcases List.mem_append.mp hf with hf | hf
      · exact ih f hf
      · rw [List.mem_singleton.mp hf]
        exact ⟨hname, hr⟩

end Project

/-! ## What has been admitted can be written -/

/-- A field that has been checked can be declared: its name is an identifier. -/
theorem Field.exists_declare {handler : String} {f : Field} (h : f.check handler = .ok ()) :
    ∃ d, f.declare = .ok d := by
  obtain ⟨name, hname, -⟩ := bind_eq_ok h
  rw [Field.declare, hname]
  exact ⟨_, rfl⟩

theorem Field.exists_declareAll {handler : String} {fields : List Field}
    (h : Field.checkAll handler fields = .ok ()) : ∃ ds, Field.declareAll fields = .ok ds := by
  obtain ⟨u, hfields, -⟩ := bind_eq_ok h
  refine exists_mapM_ok ?_
  intro f hf
  exact Field.exists_declare (forM_eq_ok_iff.mp hfields f hf)

theorem Template.exists_handler {h : Handler} (hadmitted : (Spec.handler h).Admitted)
    (runtime : String) : ∃ text, Template.handler h runtime = .ok text := by
  rw [Template.handler]
  split
  · exact ⟨_, rfl⟩
  · rename_i fields hsome
    obtain ⟨ds, hds⟩ := Field.exists_declareAll (hadmitted.fields h fields rfl hsome)
    rw [Template.recordHandler, hds]
    exact ⟨_, rfl⟩

theorem Plan.exists_specFile {s : Spec} (hs : s.Admitted) (runtime : String) :
    ∃ file, Plan.specFile runtime s = .ok file := by
  cases s with
  | handler h =>
      obtain ⟨text, htext⟩ := Template.exists_handler hs runtime
      rw [Plan.specFile, htext]
      exact ⟨_, rfl⟩
  | middleware m => exact ⟨_, rfl⟩
  | mount m => exact ⟨_, rfl⟩

end RouteWorks
