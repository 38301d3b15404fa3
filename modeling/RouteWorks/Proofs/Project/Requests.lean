import RouteWorks.Proofs.Name.Camel
import RouteWorks.Proofs.Project.Registration
import RouteWorks.Registry

/-!
# Requests that are refused change nothing

Registration checks first and changes afterwards, so a change in place is that of a function that fails as a
whole (`Registration.perform_eq`, `Project.attach_eq`).  From this follow what one request does
(`Registry.perform_cases`) and what holds after any sequence of them (`Registry.perform_after`).
-/

namespace RouteWorks

/-! ## Names that are read again -/

section Names

variable {c : Char} {cs : List Char}

/-- Camel case keeps a capital in front. -/
theorem Name.head?_camelChars (hc : c.isUpper = true) :
    (Name.camelChars (c :: cs)).head? = some c := by
  have halnum := Text.isAlphanum_of_isUpper hc
  have hascii := Text.isAscii_of_isAlphanum halnum
  have hword : Text.isAlphanumeric c = true := (Text.isAlphanumeric_of_isAscii hascii).trans halnum
  have hupper : Text.upper c = [c] := by
    rw [Text.upper_of_isAscii hascii, Text.toUpper_of_isUpper hc]
  rw [Name.camelChars, Name.camelChars.splitWords, Text.splitWhen_cons]
  simp only [hword, Bool.not_true, Bool.false_eq_true, if_false]
  split
  · simp [Name.capitalize, hupper]
  · simp [Name.capitalize, hupper]

/-- The name of an identifier is read as an identifier again. -/
theorem Identifier.exists_ofName_canonical (i : Identifier) :
    ∃ j, Identifier.ofName i.canonical = .ok j := by
  have hcapital := i.capital
  cases hcs : i.canonical.toList with
  | nil =>
      rw [hcs] at hcapital
      cases hcapital
  | cons c cs =>
      have hc : c.isUpper = true := by simpa [hcs] using hcapital
      have hblank := Text.isBlank_of_isAlphanum (Text.isAlphanum_of_isUpper hc)
      obtain ⟨rest, htrim⟩ := List.head?_eq_some_iff.mp (Text.head?_trimChars cs hblank)
      rw [Identifier.exists_ofName_iff, Name.camel, Text.trim, hcs, String.toList_ofList,
        String.toList_ofList, htrim, Name.head?_camelChars hc]
      exact hc

end Names

/-! ## Changes -/

namespace Change

variable {α β σ τ : Type}

/-- The change in place that a function makes which can fail. -/
def atomic (f : σ → Except Fault σ) : Change σ Unit := fun s =>
  match f s with
  | .ok s' => .ok () s'
  | .error fault => .error fault s

theorem require_ok {x : Except Fault α} {a : α} (h : x = .ok a) :
    (require x : Change σ Unit) = pure () := by
  rw [h]
  rfl

/-- Two checks one after the other are one check. -/
theorem require_bind (x : Except Fault α) (y : Except Fault β) :
    (require x >>= fun _ => require y : Change σ Unit) = require (x >>= fun _ => y) := by
  cases x with
  | error fault => rfl
  | ok a => rfl

theorem forM_require (f : α → Except Fault Unit) (xs : List α) :
    (xs.forM fun x => (require (f x) : Change σ Unit)) = require (xs.forM f) := by
  induction xs with
  | nil => rfl
  | cons x xs ih =>
      change (require (f x) >>= fun _ => xs.forM fun x => require (f x)) =
        require (f x >>= fun _ => xs.forM f)
      rw [ih, require_bind]

theorem modify_eq (g : σ → σ) : (modify g : Change σ Unit) = atomic fun s => .ok (g s) := rfl

/-- A check and then a change at once are a change at once. -/
theorem require_atomic (x : Except Fault α) (f : σ → Except Fault σ) :
    (require x >>= fun _ => atomic f : Change σ Unit) = atomic fun s => x >>= fun _ => f s := by
  cases x with
  | error fault => rfl
  | ok a => rfl

/-- A change of a part at once is a change of the whole at once, if the part is put back as it was. -/
theorem onPart_atomic (part : σ → τ) (put : τ → σ → σ) (f : τ → Except Fault τ) {s : σ}
    (hput : put (part s) s = s) :
    onPart part put (atomic f) s = atomic (fun s => (f (part s)).map fun t => put t s) s := by
  simp only [onPart, atomic]
  cases f (part s) with
  | error fault => simp only [Except.map, hput]
  | ok t => rfl

end Change

/-! ## Registration -/

namespace Registration

open Change (require atomic)

/-- Registration as a function that can fail. -/
def apply : Registration → Router → Except Fault Router
  | handler h, r => r.addHandler h
  | middleware m, r => r.addMiddleware m
  | middlewares ms, r => r.addMiddlewares ms
  | mount m, r => r.addMount m

/-- The names that are checked once more are never refused. -/
theorem require_name (i : Identifier) : (require (Identifier.ofName i.canonical) : Change Router Unit)
    = pure () := by
  obtain ⟨j, hj⟩ := i.exists_ofName_canonical
  exact Change.require_ok hj

theorem forM_push (ms : List Middleware) :
    (ms.forM fun m => push (.middleware m)) =
      modify fun r => { r with specs := r.specs ++ ms.map .middleware } := by
  induction ms with
  | nil =>
      funext r
      change EStateM.Result.ok () r = EStateM.Result.ok () { r with specs := r.specs ++ [] }
      rw [List.append_nil]
  | cons m ms ih =>
      change (push (.middleware m) >>= fun _ => ms.forM fun m => push (.middleware m)) = _
      rw [ih]
      funext r
      change EStateM.Result.ok () { r with
          specs := (r.specs ++ [Spec.middleware m]) ++ ms.map .middleware } = EStateM.Result.ok ()
        { r with specs := r.specs ++ (Spec.middleware m :: ms.map .middleware) }
      rw [List.append_assoc, List.singleton_append]

theorem pushAll_eq (ms : List Middleware) : pushAll ms = atomic fun r => r.addMiddlewares ms := by
  have hcheck : (ms.forM fun m => do
      require (checkPath m.path m.name.canonical)
      require (Identifier.ofName m.name.canonical)) =
        (require (ms.forM fun m => checkPath m.path m.name.canonical) : Change Router Unit) := by
    rw [← Change.forM_require]
    congr 1
    funext m
    rw [require_name, bind_pure_unit]
  rw [pushAll, hcheck, forM_push, Change.modify_eq, Change.require_atomic]
  rfl

/-- Registering in place is registering at once: a refused registration leaves the router as it was. -/
theorem perform_eq (x : Registration) : x.perform = atomic x.apply := by
  cases x with
  | handler h =>
      unfold perform apply Router.addHandler
      cases hfields : h.fields with
      | none =>
          simp only [hfields, require_name, pure_bind, push, Change.modify_eq, Change.require_atomic]
          rfl
      | some fields =>
          simp only [hfields, require_name, pure_bind, push, Change.modify_eq, Change.require_atomic]
          rfl
  | middleware m => exact pushAll_eq [m]
  | middlewares ms => exact pushAll_eq ms
  | mount m =>
      rw [perform, push, Change.modify_eq, Change.require_atomic]
      rfl

theorem apply_eq_ok_iff {x : Registration} {r r' : Router} :
    x.apply r = .ok r' ↔
      (∀ s ∈ x.specs, s.Admitted) ∧ { r with specs := r.specs ++ x.specs } = r' := by
  cases x with
  | handler h =>
      rw [apply, Router.addHandler_eq_ok_iff, specs, List.forall_mem_singleton]
  | middleware m =>
      rw [apply, Router.addMiddleware, Router.addMiddlewares_eq_ok_iff, specs, List.map_singleton,
        List.forall_mem_singleton, List.forall_mem_singleton]
  | middlewares ms =>
      rw [apply, Router.addMiddlewares_eq_ok_iff, specs, List.forall_mem_map]
  | mount m => rw [apply, Router.addMount_eq_ok_iff, specs, List.forall_mem_singleton]

theorem registered_apply {x : Registration} {r r' : Router} (hr : r.Registered)
    (h : x.apply r = .ok r') : r'.Registered := by
  cases x with
  | handler x => exact .handler hr h
  | middleware m => exact .middlewares hr h
  | middlewares ms => exact .middlewares hr h
  | mount m => exact .mount hr h

end Registration

/-- Attaching in place is attaching at once. -/
theorem Project.attach_eq (r : Router) (name version : String) :
    Project.attach r name version = Change.atomic fun p => p.addFrame r name version := by
  funext p
  simp only [Project.attach, Project.addFrame, Change.atomic]
  split
  · rfl
  · rfl

/-- The names of apps are trimmed. -/
theorem Project.Registered.trim_name {p : Project} (hp : p.Registered) :
    ∀ f ∈ p.frames, Text.trim f.name = f.name := by
  induction hp with
  | start entry => exact fun f hf => absurd hf List.not_mem_nil
  | frame _ _ _ _ h ih =>
      obtain ⟨-, rfl⟩ := Project.addFrame_eq_ok_iff.mp h
      intro f hf
      rcases List.mem_append.mp hf with hf | hf
      · exact ih f hf
      · rw [List.mem_singleton.mp hf]
        exact Text.trim_trim _

/-! ## Requests -/

namespace Registry

open Change (atomic)

variable {reg reg' : Registry} {q : Request}

/-- What is asked for is there and passes its checks. -/
def Request.Admissible (reg : Registry) : Request → Prop
  | .declare name _ => ∃ i, Identifier.ofName name = .ok i
  | .register i x => (∃ r, reg.routers[i]? = some r) ∧ ∀ s ∈ x.specs, s.Admitted
  | .attach i name _ => (∃ r, reg.routers[i]? = some r) ∧ Text.trim name ≠ ""

/-- What a request that is not refused does: it puts what it brings at the end of one list. -/
inductive Request.Done (reg : Registry) : Request → Registry → Prop
  | declare {name : String} {i : Identifier} (location : Location)
      (hname : Identifier.ofName name = .ok i) :
      Done reg (.declare name location)
        { reg with routers := reg.routers ++ [{ name := i, location }] }
  | register {i : Nat} {r : Router} (x : Registration) (hr : reg.routers[i]? = some r) :
      Done reg (.register i x)
        { reg with routers := reg.routers.set i { r with specs := r.specs ++ x.specs } }
  | attach {i : Nat} {r : Router} (name version : String) (hr : reg.routers[i]? = some r) :
      Done reg (.attach i name version)
        { reg with project := { reg.project with frames := reg.project.frames ++
          [{ name := Text.trim name, version := Text.trim version, router := r }] } }

theorem onRouter_atomic (f : Router → Except Fault Router) {i : Nat} {r : Router}
    (hr : reg.routers[i]? = some r) : onRouter i (atomic f) reg =
      atomic (fun reg => (f r).map fun r => { reg with routers := reg.routers.set i r }) reg := by
  have hput : { reg with routers := reg.routers.set i r } = reg := by
    obtain ⟨hi, rfl⟩ := List.getElem?_eq_some_iff.mp hr
    rw [List.set_getElem_self]
  simp only [onRouter, hr]
  exact Change.onPart_atomic (fun _ => r) _ f hput

theorem onProject_atomic (f : Router → Project → Except Fault Project) {i : Nat} {r : Router}
    (hr : reg.routers[i]? = some r) : onProject i (fun r => atomic (f r)) reg =
      atomic (fun reg => (f r reg.project).map fun p => { reg with project := p }) reg := by
  simp only [onProject, hr]
  exact Change.onPart_atomic Registry.project _ (f r) rfl

/-- A request does all that it asks for, or it is refused and leaves everything as it was. -/
theorem perform_cases (q : Request) (reg : Registry) :
    (q.Admissible reg ∧ ∃ reg', perform q reg = .ok () reg' ∧ q.Done reg reg') ∨
      (¬ q.Admissible reg ∧ ∃ fault, perform q reg = .error fault reg) := by
  cases q with
  | declare name location =>
      cases hname : Identifier.ofName name with
      | error fault =>
          have hdeclare : Router.declare name location = .error fault := by
            rw [Router.declare, hname]
            rfl
          refine Or.inr ⟨?_, fault, ?_⟩
          · rintro ⟨i, hi⟩
            rw [hname] at hi
            cases hi
          · rw [perform, hdeclare]
            rfl
      | ok i =>
          have hdeclare : Router.declare name location = .ok { name := i, location } := by
            rw [Router.declare, hname]
            rfl
          refine Or.inl ⟨⟨i, hname⟩, _, ?_, .declare location hname⟩
          rw [perform, hdeclare]
          rfl
  | register i x =>
      cases hr : reg.routers[i]? with
      | none =>
          refine Or.inr ⟨?_, .absent .router, ?_⟩
          · rintro ⟨⟨r, hsome⟩, -⟩
            rw [hr] at hsome
            cases hsome
          · simp only [perform, onRouter, hr]
      | some r =>
          rw [perform, x.perform_eq, onRouter_atomic x.apply hr]
          cases happly : x.apply r with
          | error fault =>
              refine Or.inr ⟨?_, fault, ?_⟩
              · rintro ⟨-, hadmitted⟩
                rw [Registration.apply_eq_ok_iff.mpr ⟨hadmitted, rfl⟩] at happly
                cases happly
              · simp only [atomic, Except.map]
          | ok r' =>
              obtain ⟨hadmitted, rfl⟩ := Registration.apply_eq_ok_iff.mp happly
              refine Or.inl ⟨⟨⟨r, hr⟩, hadmitted⟩, _, ?_, .register x hr⟩
              simp only [atomic, Except.map]
  | attach i name version =>
      cases hr : reg.routers[i]? with
      | none =>
          refine Or.inr ⟨?_, .absent .router, ?_⟩
          · rintro ⟨⟨r, hsome⟩, -⟩
            rw [hr] at hsome
            cases hsome
          · simp only [perform, onProject, hr]
      | some r =>
          have hattach : (fun r => Project.attach r name version) =
              fun r => atomic fun p => p.addFrame r name version :=
            funext fun r => Project.attach_eq r name version
          rw [perform, hattach, onProject_atomic (fun r p => p.addFrame r name version) hr]
          cases hadd : reg.project.addFrame r name version with
          | error fault =>
              refine Or.inr ⟨?_, fault, ?_⟩
              · rintro ⟨-, hname⟩
                rw [Project.addFrame_eq_ok_iff.mpr ⟨hname, rfl⟩] at hadd
                cases hadd
              · simp only [atomic, hadd, Except.map]
          | ok p =>
              obtain ⟨hname, rfl⟩ := Project.addFrame_eq_ok_iff.mp hadd
              refine Or.inl ⟨⟨⟨r, hr⟩, hname⟩, _, ?_, .attach name version hr⟩
              simp only [atomic, hadd, Except.map]

/-! ## Sequences of requests -/

/-- All routers and the project come from registration. -/
structure Made (reg : Registry) : Prop where
  routers : ∀ r ∈ reg.routers, r.Registered
  project : reg.project.Registered

theorem Made.done (hreg : reg.Made) (hq : q.Admissible reg) (h : q.Done reg reg') : reg'.Made := by
  obtain ⟨hrouters, hproject⟩ := hreg
  cases h with
  | declare location hname =>
      refine ⟨?_, hproject⟩
      intro r hr
      rcases List.mem_append.mp hr with hr | hr
      · exact hrouters r hr
      · rw [List.mem_singleton.mp hr]
        exact .declare _ (by rw [Router.declare, hname]; rfl)
  | register x hr =>
      refine ⟨?_, hproject⟩
      intro r' hr'
      rcases List.mem_or_eq_of_mem_set hr' with hr' | rfl
      · exact hrouters r' hr'
      · exact Registration.registered_apply (hrouters _ (List.mem_of_getElem? hr))
          (Registration.apply_eq_ok_iff.mpr ⟨hq.2, rfl⟩)
  | attach name version hr =>
      exact ⟨hrouters, .frame name version hproject (hrouters _ (List.mem_of_getElem? hr))
        (Project.addFrame_eq_ok_iff.mpr ⟨hq.2, rfl⟩)⟩

theorem Made.leave (hreg : reg.Made) (q : Request) : ((perform q).leave reg).Made := by
  rcases perform_cases q reg with ⟨hq, reg', hperform, hdone⟩ | ⟨-, fault, hperform⟩
  · rw [Change.leave, hperform]
    exact hreg.done hq hdone
  · rw [Change.leave, hperform]
    exact hreg

theorem made_after (entry : Location) (requests : List Request) : (after entry requests).Made := by
  have hrun : ∀ reg : Registry, reg.Made →
      (requests.foldl (fun reg q => (perform q).leave reg) reg).Made := by
    induction requests with
    | nil => exact fun reg hreg => hreg
    | cons q requests ih => exact fun reg hreg => ih _ (hreg.leave q)
  exact hrun _ ⟨fun r hr => absurd hr List.not_mem_nil, .start entry⟩

/-- The routers of a registry, those of its apps included. -/
def allRouters (reg : Registry) : List Router :=
  reg.routers ++ reg.project.frames.map (·.router)

/-- What later phases rely on. -/
structure Sound (reg : Registry) : Prop where
  /-- No path is blank. -/
  path : ∀ r ∈ reg.allRouters, ∀ s ∈ r.specs, Text.trim s.path ≠ ""
  /-- The fields of a record handler have been checked, so they can be declared. -/
  fields : ∀ r ∈ reg.allRouters, ∀ h fields, .handler h ∈ r.specs → h.fields = some fields →
    Field.checkAll h.name.canonical fields = .ok () ∧ ∃ ds, Field.declareAll fields = .ok ds
  /-- Every handler can be written. -/
  handler : ∀ r ∈ reg.allRouters, ∀ h, .handler h ∈ r.specs →
    ∀ runtime, ∃ text, Template.handler h runtime = .ok text
  /-- No app is without a name. -/
  frame : ∀ f ∈ reg.project.frames, Text.trim f.name ≠ ""

theorem Made.admitted (hreg : reg.Made) {r : Router} (hr : r ∈ reg.allRouters) :
    ∀ s ∈ r.specs, s.Admitted := by
  rcases List.mem_append.mp hr with hr | hr
  · exact (hreg.routers r hr).admitted
  · obtain ⟨f, hf, rfl⟩ := List.mem_map.mp hr
    exact (hreg.project.frames f hf).2.admitted

theorem Made.sound (hreg : reg.Made) : reg.Sound := by
  refine ⟨?_, ?_, ?_, ?_⟩
  · intro r hr s hs hblank
    have hpath := (hreg.admitted hr s hs).path
    rw [Text.trim_eq_empty_iff.mp hblank] at hpath
    cases hpath
  · intro r hr h fields hs hfields
    have hchecked := (hreg.admitted hr _ hs).fields h fields rfl hfields
    exact ⟨hchecked, Field.exists_declareAll hchecked⟩
  · intro r hr h hs runtime
    exact Template.exists_handler (hreg.admitted hr _ hs) runtime
  · intro f hf
    rw [hreg.project.trim_name f hf]
    exact (hreg.project.frames f hf).1

/-- After any sequence of requests, the next one does all that it asks for or is refused, and then nothing
has changed; and what there is by then can be used. -/
theorem perform_after (entry : Location) (requests : List Request) (q : Request) :
    (after entry requests).Sound ∧
      ((q.Admissible (after entry requests) ∧ ∃ reg, perform q (after entry requests) = .ok () reg ∧
          q.Done (after entry requests) reg) ∨
        (¬ q.Admissible (after entry requests) ∧ ∃ fault,
          perform q (after entry requests) = .error fault (after entry requests))) :=
  ⟨(made_after entry requests).sound, perform_cases q (after entry requests)⟩

example (entry dir : Location) :
    (after entry [.declare "Route" dir, .attach 0 " " "1.0", .attach 0 " site " "1.0",
      .attach 1 "admin" "1.0"]).project.frames.map (·.name) = ["site"] := by
  rfl

end Registry

end RouteWorks
