import Mathlib.Data.List.Forall2
import RouteWorks.Manifest.Build
import RouteWorks.Proofs.Project.Registration
import RouteWorks.Proofs.Text.Blank
import RouteWorks.Proofs.Text.Ordered

/-!
# What a manifest builds

A manifest is valid if its names, paths, fields and references are (`Manifest.Valid`), and a valid one
describes one project (`Manifest.Describes`): its apps in order, with the specs of their routers in
order.  Exactly the valid manifests are built, and what is built is what they describe
(`Manifest.build_eq`).  There is one lemma for each layer: a route, a router, all routers, an app.
-/

namespace RouteWorks

/-! ## What is valid -/

/-- A route that declares one thing and no other. -/
inductive RouteEntry.Declares : RouteEntry → RouteKind → Prop
  | handler (h : HandlerEntry) : Declares { handler := some h } (.handler h)
  | middleware (m : MiddlewareEntry) : Declares { middleware := some m } (.middleware m)
  | mount (m : MountEntry) : Declares { mount := some m } (.mount m)

/-- The name, the path and the fields of what is declared are accepted. -/
def RouteKind.Accepted : RouteKind → Prop
  | .handler h => ∃ i, Identifier.ofName h.name = .ok i ∧ Text.isBlankText h.path = false ∧
      ∀ fields, h.fields = some fields → Field.checkAll i.canonical fields = .ok ()
  | .middleware m => (∃ i, Identifier.ofName m.name = .ok i) ∧ Text.isBlankText m.path = false
  | .mount m => Text.isBlankText m.path = false

/-- A route is not left open and declares one thing, which is accepted. -/
def RouteEntry.Valid (route : Option RouteEntry) : Prop :=
  ∃ e k, route = some e ∧ e.Declares k ∧ k.Accepted

/-- A router has a name, and its routes are valid. -/
structure RouterEntry.Valid (e : RouterEntry) : Prop where
  name : ∃ i, Identifier.ofName e.name = .ok i
  routes : ∀ route ∈ e.routes, RouteEntry.Valid route

/-- An app has a name, and names one of the routers. -/
structure FrameEntry.Valid (routers : List RouterEntry) (f : FrameEntry) : Prop where
  name : Text.trim f.name ≠ ""
  router : ∃ name, f.router = some name ∧ ∃ e ∈ routers, Text.trim e.name = Text.trim name

/-- The routers are valid and have different names, and the apps are valid. -/
structure Manifest.Valid (m : Manifest) : Prop where
  routers : ∀ e ∈ m.routers, e.Valid
  distinct : (m.routers.map fun e => Text.trim e.name).Nodup
  frames : ∀ f ∈ m.frames, f.Valid m.routers

/-! ## What is described -/

/-- Where something lies for which the manifest has the directory `dir`: in it, seen from the manifest, or in
`outer` if there is none. -/
inductive LiesIn (base : String) (outer : Location) : Option String → Location → Prop
  | own (dir : String) : LiesIn base outer (some dir) (Location.resolve base dir)
  | inherited : LiesIn base outer none outer

/-- What is declared, as the spec in a router of the directory `outer`.  A blank body counts as none. -/
inductive RouteKind.Becomes (base : String) (outer : Location) : RouteKind → Spec → Prop
  | handler (h : HandlerEntry) {i : Identifier} {location : Location}
      (hname : Identifier.ofName h.name = .ok i) (hlocation : LiesIn base outer h.dir location) :
      Becomes base outer (.handler h) (.handler {
        path := Text.trim h.path, methods := h.methods, name := i, note := Text.trim h.note,
        returns := h.returns, body := h.body.filter fun body => !Text.isBlankText body, location,
        fields := h.fields })
  | middleware (m : MiddlewareEntry) {i : Identifier} {location : Location}
      (hname : Identifier.ofName m.name = .ok i) (hlocation : LiesIn base outer m.dir location) :
      Becomes base outer (.middleware m) (.middleware {
        path := Text.trim m.path, name := i, location,
        body := m.body.filter fun body => !Text.isBlankText body })
  | mount (m : MountEntry) :
      Becomes base outer (.mount m) (.mount {
        path := Text.trim m.path, name := Text.trim m.name, root := m.root,
        noCompress := m.noCompress, noCache := m.noCache })

/-- The spec that a route describes. -/
def RouteEntry.Describes (base : String) (outer : Location) (route : Option RouteEntry) (s : Spec) :
    Prop :=
  ∃ e k, route = some e ∧ e.Declares k ∧ k.Becomes base outer s

/-- The router that an entry describes: one spec for each route, in order. -/
structure RouterEntry.Describes (base : String) (entry : Location) (e : RouterEntry) (r : Router) :
    Prop where
  name : Identifier.ofName e.name = .ok r.name
  location : LiesIn base entry e.dir r.location
  specs : List.Forall₂ (RouteEntry.Describes base r.location) e.routes r.specs

/-- The app that an entry describes. -/
structure FrameEntry.Describes (base : String) (entry : Location) (routers : List RouterEntry)
    (f : FrameEntry) (frame : Frame) : Prop where
  name : frame.name = Text.trim f.name
  version : frame.version = Text.trim f.version
  router : ∃ name, f.router = some name ∧ ∃ e ∈ routers, Text.trim e.name = Text.trim name ∧
    e.Describes base entry frame.router

/-- The project that a manifest describes: one app for each entry, in order. -/
structure Manifest.Describes (base : String) (m : Manifest) (p : Project) : Prop where
  entry : p.entry = Location.resolve base m.entry
  frames : List.Forall₂ (FrameEntry.Describes base (Location.resolve base m.entry) m.routers)
    m.frames p.frames

/-! ## Routes -/

theorem directoryOr_eq_iff {base : String} {dir : Option String} {outer location : Location} :
    directoryOr base dir outer = location ↔ LiesIn base outer dir location := by
  cases dir with
  | none =>
      rw [directoryOr, Option.map_none, Option.getD_none]
      constructor
      · rintro rfl
        exact .inherited
      · rintro ⟨⟩
        rfl
  | some dir =>
      rw [directoryOr, Option.map_some, Option.getD_some]
      constructor
      · rintro rfl
        exact .own dir
      · rintro ⟨⟩
        rfl

theorem bind_nonBlankBody (body : Option String) :
    body.bind nonBlankBody = body.filter fun body => !Text.isBlankText body := by
  cases body with
  | none => rfl
  | some body =>
      rw [Option.bind_some, nonBlankBody, Option.filter_some]
      cases Text.isBlankText body <;> rfl

theorem RouteEntry.kind_eq_ok_iff {e : RouteEntry} {k : RouteKind} :
    e.kind = .ok k ↔ e.Declares k := by
  constructor
  · intro h
    obtain ⟨handler, middleware, mount⟩ := e
    cases handler <;> cases middleware <;> cases mount <;> simp [RouteEntry.kind] at h
    · rw [← h]; exact .mount _
    · rw [← h]; exact .middleware _
    · rw [← h]; exact .handler _
  · intro h
    cases h with
    | handler h => rfl
    | middleware m => rfl
    | mount m => rfl

section Accepted

variable {name path : String} {location : Location}

theorem Handler.function_eq_ok_iff {methods : List Method} {x : Handler} :
    Handler.function name path methods location = .ok x ↔
      ∃ i, Identifier.ofName name = .ok i ∧ Text.isBlankText path = false ∧
        { path := Text.trim path, methods, name := i, location } = x := by
  rw [Handler.function, bind_eq_ok_iff]
  simp only [check_eq_ok_iff, checkPath_eq_ok_iff, pure_eq_ok_iff]

theorem Handler.record_eq_ok_iff {methods : List Method} {fields : List Field} {x : Handler} :
    Handler.record name path methods location fields = .ok x ↔
      ∃ i, Identifier.ofName name = .ok i ∧ Text.isBlankText path = false ∧
        Field.checkAll i.canonical fields = .ok () ∧
        { path := Text.trim path, methods, name := i, location, fields := some fields } = x := by
  rw [Handler.record, bind_eq_ok_iff]
  simp only [check_eq_ok_iff, Handler.function_eq_ok_iff, pure_eq_ok_iff]
  constructor
  · rintro ⟨h, ⟨i, hname, hpath, rfl⟩, hfields, rfl⟩
    exact ⟨i, hname, hpath, hfields, rfl⟩
  · rintro ⟨i, hname, hpath, hfields, rfl⟩
    exact ⟨_, ⟨i, hname, hpath, rfl⟩, hfields, rfl⟩

theorem Middleware.declare_eq_ok_iff {x : Middleware} :
    Middleware.declare name path location = .ok x ↔
      ∃ i, Identifier.ofName name = .ok i ∧ Text.isBlankText path = false ∧
        { path := Text.trim path, name := i, location } = x := by
  rw [Middleware.declare, bind_eq_ok_iff]
  simp only [check_eq_ok_iff, checkPath_eq_ok_iff, pure_eq_ok_iff]

theorem Mount.declare_eq_ok_iff {root : String} {x : Mount} :
    Mount.declare name path root = .ok x ↔ Text.isBlankText path = false ∧
      { path := Text.trim path, name := Text.trim name, root } = x := by
  simp only [Mount.declare, check_eq_ok_iff, checkPath_eq_ok_iff, pure_eq_ok_iff]

end Accepted

/-- The handler that an entry declares, without documentation and body. -/
def HandlerEntry.declare (h : HandlerEntry) (location : Location) : Except Fault Handler :=
  match h.fields with
  | some fields => Handler.record h.name h.path h.methods location fields
  | none => Handler.function h.name h.path h.methods location

/-- The handler with its documentation and body. -/
def HandlerEntry.complete (h : HandlerEntry) (x : Handler) : Handler :=
  let x := (x.withNote h.note).withReturns h.returns
  (h.body.map x.withBody).getD x

/-- The middleware with its body. -/
def MiddlewareEntry.complete (m : MiddlewareEntry) (x : Middleware) : Middleware :=
  (m.body.map x.withBody).getD x

theorem HandlerEntry.declare_eq_ok_iff {h : HandlerEntry} {location : Location} {x : Handler} :
    h.declare location = .ok x ↔
      ∃ i, Identifier.ofName h.name = .ok i ∧ Text.isBlankText h.path = false ∧
        (∀ fields, h.fields = some fields → Field.checkAll i.canonical fields = .ok ()) ∧
        { path := Text.trim h.path, methods := h.methods, name := i, location,
          fields := h.fields } = x := by
  rw [HandlerEntry.declare]
  cases h.fields with
  | none => simp [Handler.function_eq_ok_iff]
  | some fields => simp [Handler.record_eq_ok_iff]

theorem HandlerEntry.complete_eq (h : HandlerEntry) {x : Handler} (hx : x.body = none) :
    h.complete x = { x with
      note := Text.trim h.note, returns := h.returns,
      body := h.body.filter fun body => !Text.isBlankText body } := by
  rw [HandlerEntry.complete, ← bind_nonBlankBody]
  cases h.body with
  | none => simp [Handler.withNote, Handler.withReturns, hx]
  | some body => simp [Handler.withNote, Handler.withReturns, Handler.withBody]

theorem MiddlewareEntry.complete_eq (m : MiddlewareEntry) {x : Middleware} (hx : x.body = none) :
    m.complete x = { x with body := m.body.filter fun body => !Text.isBlankText body } := by
  rw [MiddlewareEntry.complete, ← bind_nonBlankBody]
  cases m.body with
  | none =>
      cases x
      cases hx
      rfl
  | some body => rfl

namespace Router

variable {base : String} {r r' : Router}

/-- Registers what a route declares. -/
def addKind (base : String) (r : Router) : RouteKind → Except Fault Router
  | .handler h => h.declare (directoryOr base h.dir r.location) >>= fun x =>
      r.addHandler (h.complete x)
  | .middleware m => Middleware.declare m.name m.path (directoryOr base m.dir r.location) >>= fun x =>
      r.addMiddleware (m.complete x)
  | .mount m => Mount.declare m.name m.path m.root >>= fun x =>
      r.addMount { x with noCompress := m.noCompress, noCache := m.noCache }

theorem addEntry_eq (e : RouteEntry) :
    r.addEntry base (some e) = e.kind >>= r.addKind base := by
  rw [addEntry]
  cases e.kind with
  | error fault => rfl
  | ok k =>
      cases k with
      | handler h =>
          obtain ⟨name, dir, path, methods, note, returns, body, fields⟩ := h
          cases fields <;> rfl
      | middleware m => rfl
      | mount m => rfl

theorem addHandlerEntry_eq_ok_iff {h : HandlerEntry} :
    r.addKind base (.handler h) = .ok r' ↔
      ∃ s, (RouteKind.handler h).Accepted ∧ (RouteKind.handler h).Becomes base r.location s ∧
        { r with specs := r.specs ++ [s] } = r' := by
  rw [addKind, bind_eq_ok_iff]
  simp only [HandlerEntry.declare_eq_ok_iff, addHandler_eq_ok_iff]
  constructor
  · rintro ⟨x, ⟨i, hname, hpath, hfields, rfl⟩, -, rfl⟩
    rw [h.complete_eq rfl]
    exact ⟨_, ⟨i, hname, hpath, hfields⟩, .handler h hname (directoryOr_eq_iff.mp rfl), rfl⟩
  · rintro ⟨s, ⟨i, hname, hpath, hfields⟩, hs, rfl⟩
    cases hs with
    | handler _ hname' hlocation =>
        -- both names are the one that is read, and registration checks nothing that was not checked
        obtain rfl := Except.ok.inj (hname.symm.trans hname')
        obtain rfl := directoryOr_eq_iff.mpr hlocation
        refine ⟨_, ⟨i, hname, hpath, hfields, rfl⟩, ?_⟩
        rw [h.complete_eq rfl]
        refine ⟨⟨?_, ?_⟩, rfl⟩
        · simpa [Spec.path] using hpath
        · rintro _ fields ⟨⟩ hsome
          exact hfields fields hsome

theorem addMiddlewareEntry_eq_ok_iff {m : MiddlewareEntry} :
    r.addKind base (.middleware m) = .ok r' ↔
      ∃ s, (RouteKind.middleware m).Accepted ∧ (RouteKind.middleware m).Becomes base r.location s ∧
        { r with specs := r.specs ++ [s] } = r' := by
  rw [addKind, bind_eq_ok_iff]
  simp only [Middleware.declare_eq_ok_iff, addMiddleware, addMiddlewares_eq_ok_iff]
  constructor
  · rintro ⟨x, ⟨i, hname, hpath, rfl⟩, -, rfl⟩
    rw [m.complete_eq rfl]
    exact ⟨_, ⟨⟨i, hname⟩, hpath⟩, .middleware m hname (directoryOr_eq_iff.mp rfl), rfl⟩
  · rintro ⟨s, ⟨-, hpath⟩, hs, rfl⟩
    cases hs with
    | middleware _ hname hlocation =>
        obtain rfl := directoryOr_eq_iff.mpr hlocation
        refine ⟨_, ⟨_, hname, hpath, rfl⟩, ?_⟩
        rw [m.complete_eq rfl]
        refine ⟨?_, rfl⟩
        rw [List.forall_mem_singleton]
        refine ⟨by simpa [Spec.path] using hpath, ?_⟩
        rintro _ _ ⟨⟩

theorem addMountEntry_eq_ok_iff {m : MountEntry} :
    r.addKind base (.mount m) = .ok r' ↔
      ∃ s, (RouteKind.mount m).Accepted ∧ (RouteKind.mount m).Becomes base r.location s ∧
        { r with specs := r.specs ++ [s] } = r' := by
  rw [addKind, bind_eq_ok_iff]
  simp only [Mount.declare_eq_ok_iff, addMount_eq_ok_iff]
  constructor
  · rintro ⟨x, ⟨hpath, rfl⟩, -, rfl⟩
    exact ⟨_, hpath, .mount m, rfl⟩
  · rintro ⟨s, hpath, hs, rfl⟩
    cases hs with
    | mount _ =>
        refine ⟨_, ⟨hpath, rfl⟩, ⟨?_, ?_⟩, rfl⟩
        · simpa [Spec.path] using (show Text.isBlankText m.path = false from hpath)
        · rintro _ _ ⟨⟩

/-- A route is registered if it is valid, as the spec that it describes. -/
theorem addEntry_eq_ok_iff {route : Option RouteEntry} :
    r.addEntry base route = .ok r' ↔
      ∃ s, (RouteEntry.Valid route ∧ RouteEntry.Describes base r.location route s) ∧
        { r with specs := r.specs ++ [s] } = r' := by
  have hkind : ∀ k : RouteKind, r.addKind base k = .ok r' ↔ ∃ s, k.Accepted ∧
      k.Becomes base r.location s ∧ { r with specs := r.specs ++ [s] } = r' := by
    intro k
    cases k with
    | handler h => exact addHandlerEntry_eq_ok_iff
    | middleware m => exact addMiddlewareEntry_eq_ok_iff
    | mount m => exact addMountEntry_eq_ok_iff
  cases route with
  | none =>
      constructor
      · intro h
        cases h
      · rintro ⟨s, ⟨⟨e, k, he, -, -⟩, -⟩, -⟩
        cases he
  | some e =>
      rw [addEntry_eq, bind_eq_ok_iff]
      simp only [RouteEntry.kind_eq_ok_iff, hkind]
      constructor
      · rintro ⟨k, hk, s, haccepted, hs, rfl⟩
        exact ⟨s, ⟨⟨e, k, rfl, hk, haccepted⟩, e, k, rfl, hk, hs⟩, rfl⟩
      · rintro ⟨s, ⟨⟨_, k, ⟨⟩, hk, haccepted⟩, ⟨_, k', ⟨⟩, hk', hs⟩⟩, rfl⟩
        -- a route declares no two things
        have heq : k' = k := by
          rw [← RouteEntry.kind_eq_ok_iff] at hk hk'
          exact Except.ok.inj (hk'.symm.trans hk)
        rw [heq] at hs
        exact ⟨k, hk, s, haccepted, hs, rfl⟩

/-- All routes of a router are registered if they are valid, one spec for each. -/
theorem addEntries_eq_ok_iff {routes : List (Option RouteEntry)} :
    routes.foldlM (addEntry base) r = .ok r' ↔
      ∃ specs, List.Forall₂ (fun route s => RouteEntry.Valid route ∧
        RouteEntry.Describes base r.location route s) routes specs ∧
        { r with specs := r.specs ++ specs } = r' := by
  have hstep : ∀ (specs : List Spec) (route : Option RouteEntry) (r' : Router), True →
      (addEntry base { r with specs := r.specs ++ specs } route = .ok r' ↔
        ∃ s, (RouteEntry.Valid route ∧ RouteEntry.Describes base r.location route s) ∧ True ∧
          { r with specs := r.specs ++ (specs ++ [s]) } = r') := by
    intro specs route r' _
    rw [addEntry_eq_ok_iff]
    simp only [List.append_assoc, true_and]
  have hrun := foldlM_collect_iff (fun _ _ _ => trivial) hstep routes [] trivial r'
  simp only [List.append_nil, List.nil_append, true_and] at hrun
  exact hrun

end Router

/-! ## Routers -/

theorem RouterEntry.build_eq_ok_iff {base : String} {entry : Location} {e : RouterEntry}
    {r : Router} : e.build base entry = .ok r ↔ e.Valid ∧ e.Describes base entry r := by
  rw [RouterEntry.build, Router.declare, bind_eq_ok_iff]
  simp only [bind_eq_ok_iff, Router.addEntries_eq_ok_iff, List.forall₂_and_left, pure_eq_ok_iff]
  constructor
  · rintro ⟨_, ⟨i, hname, rfl⟩, specs, ⟨hvalid, hspecs⟩, rfl⟩
    exact ⟨⟨⟨i, hname⟩, hvalid⟩, hname, directoryOr_eq_iff.mp rfl, by simpa using hspecs⟩
  · rintro ⟨⟨-, hvalid⟩, hname, hlocation, hspecs⟩
    rw [← directoryOr_eq_iff] at hlocation
    refine ⟨_, ⟨r.name, hname, rfl⟩, r.specs, ⟨hvalid, by rwa [hlocation]⟩, ?_⟩
    rw [hlocation]
    rfl

namespace Manifest

variable {base : String} {entry : Location} {entries : List RouterEntry}
variable {routers : List (String × Router)}

/-- A router under the name that it is found by. -/
structure Named (base : String) (entry : Location) (e : RouterEntry) (named : String × Router) :
    Prop where
  name : named.1 = Text.trim e.name
  router : e.Describes base entry named.2

/-- Builds one more router, whose name is not taken yet. -/
def addRouter (base : String) (entry : Location) (routers : List (String × Router))
    (e : RouterEntry) : Except Failure (List (String × Router)) := do
  let r ← Failure.within ("router " ++ Text.quote e.name) (Failure.ofFault (e.build base entry))
  let name := Text.trim e.name
  if routers.any (·.1 = name) then
    throw (.plain ("duplicate router name " ++ Text.quote e.name))
  return routers ++ [(name, r)]

theorem addRouter_eq_ok_iff {e : RouterEntry} {after : List (String × Router)} :
    addRouter base entry routers e = .ok after ↔
      ∃ named, (e.Valid ∧ Named base entry e named) ∧ named.1 ∉ routers.map Prod.fst ∧
        routers ++ [named] = after := by
  rw [addRouter, bind_eq_ok_iff]
  simp only [Failure.within, Failure.ofFault, mapError_eq_ok_iff, RouterEntry.build_eq_ok_iff]
  have htaken : ∀ name, (routers.any fun named => decide (named.1 = name)) = true ↔
      name ∈ routers.map Prod.fst := by
    intro name
    simp
  constructor
  · rintro ⟨r, ⟨hvalid, hr⟩, h⟩
    split at h
    · cases h
    · rename_i hfree
      rw [htaken] at hfree
      exact ⟨(Text.trim e.name, r), ⟨hvalid, rfl, hr⟩, hfree, Except.ok.inj h⟩
  · rintro ⟨⟨name, r⟩, ⟨hvalid, hname, hr⟩, hfree, rfl⟩
    obtain rfl : name = Text.trim e.name := hname
    refine ⟨r, ⟨hvalid, hr⟩, ?_⟩
    rw [if_neg (by rwa [htaken])]
    rfl

theorem buildRouters_eq_ok_iff :
    buildRouters base entry entries = .ok routers ↔
      (∀ e ∈ entries, e.Valid) ∧ List.Forall₂ (Named base entry) entries routers ∧
        (routers.map Prod.fst).Nodup := by
  -- the invariant of the run: the names up to here are different
  have hstep : ∀ (routers : List (String × Router)) (e : RouterEntry) (after),
      (routers.map Prod.fst).Nodup →
      (addRouter base entry routers e = .ok after ↔
        ∃ named, (e.Valid ∧ Named base entry e named) ∧
          ((routers ++ [named]).map Prod.fst).Nodup ∧ routers ++ [named] = after) := by
    intro routers e after hnodup
    rw [addRouter_eq_ok_iff]
    have hnext : ∀ named : String × Router, ((routers ++ [named]).map Prod.fst).Nodup ↔
        named.1 ∉ routers.map Prod.fst := by
      intro named
      simp only [List.map_append, List.map_singleton, List.nodup_append, hnodup, true_and]
      constructor
      · rintro ⟨-, hother⟩ hmem
        exact hother _ hmem _ List.mem_cons_self rfl
      · intro hfree
        refine ⟨List.pairwise_singleton _ _, ?_⟩
        rintro name hname other hother rfl
        rw [List.mem_singleton.mp hother] at hname
        exact hfree hname
    simp only [hnext]
  -- names that are different at the end were so at every step
  have hfront : ∀ front back : List (String × Router), ((front ++ back).map Prod.fst).Nodup →
      (front.map Prod.fst).Nodup := by
    intro front back h
    rw [List.map_append] at h
    exact (List.nodup_append.mp h).1
  have hrun := foldlM_collect_iff (g := id) hfront hstep entries [] List.nodup_nil routers
  simp only [id_eq, List.nil_append, List.forall₂_and_left] at hrun
  refine Iff.trans hrun ?_
  constructor
  · rintro ⟨_, ⟨hvalid, hnamed⟩, hnodup, rfl⟩
    exact ⟨hvalid, hnamed, hnodup⟩
  · rintro ⟨hvalid, hnamed, hnodup⟩
    exact ⟨routers, ⟨hvalid, hnamed⟩, hnodup, rfl⟩

/-! ## Apps -/

/-- The app that an entry becomes when its router is looked up by name. -/
def Attached (routers : List (String × Router)) (f : FrameEntry) (frame : Frame) : Prop :=
  Text.trim f.name ≠ "" ∧ ∃ name r, f.router = some name ∧
    routers.lookup (Text.trim name) = some r ∧
    frame = { name := Text.trim f.name, version := Text.trim f.version, router := r }

theorem addFrame_eq_ok_iff {p p' : Project} {f : FrameEntry} :
    addFrame routers p f = .ok p' ↔
      ∃ frame, Attached routers f frame ∧ { p with frames := p.frames ++ [frame] } = p' := by
  rw [addFrame]
  split
  · rename_i hnone
    constructor
    · intro h
      cases h
    · rintro ⟨frame, ⟨-, name, r, hname, hr, -⟩, -⟩
      rw [hname, Option.bind_some, hr] at hnone
      cases hnone
  · rename_i r hsome
    obtain ⟨name, hname, hr⟩ := Option.bind_eq_some_iff.mp hsome
    rw [Failure.ofFault, mapError_eq_ok_iff, Project.addFrame_eq_ok_iff]
    constructor
    · rintro ⟨hf, rfl⟩
      exact ⟨_, ⟨hf, name, r, hname, hr, rfl⟩, rfl⟩
    · rintro ⟨_, ⟨hf, name', r', hname', hr', rfl⟩, rfl⟩
      obtain rfl := Option.some.inj (hname.symm.trans hname')
      obtain rfl := Option.some.inj (hr.symm.trans hr')
      exact ⟨hf, rfl⟩

theorem addFrames_eq_ok_iff {p p' : Project} {frames : List FrameEntry} :
    frames.foldlM (addFrame routers) p = .ok p' ↔
      ∃ added, List.Forall₂ (Attached routers) frames added ∧
        { p with frames := p.frames ++ added } = p' := by
  have hstep : ∀ (added : List Frame) (f : FrameEntry) (p' : Project), True →
      (addFrame routers { p with frames := p.frames ++ added } f = .ok p' ↔
        ∃ frame, Attached routers f frame ∧ True ∧
          { p with frames := p.frames ++ (added ++ [frame]) } = p') := by
    intro added f p' _
    rw [addFrame_eq_ok_iff]
    simp only [List.append_assoc, true_and]
  have hrun := foldlM_collect_iff (fun _ _ _ => trivial) hstep frames [] trivial p'
  simp only [List.append_nil, List.nil_append, true_and] at hrun
  exact hrun

/-! ## Projects -/

/-- The router under a name is the one that the entry with this name describes. -/
theorem lookup_eq_some_iff (hvalid : ∀ e ∈ entries, e.Valid)
    (hnamed : List.Forall₂ (Named base entry) entries routers)
    (hnodup : (routers.map Prod.fst).Nodup) {name : String} {r : Router} :
    routers.lookup name = some r ↔
      ∃ e ∈ entries, Text.trim e.name = name ∧ e.Describes base entry r := by
  rw [Ordered.lookup_eq_some_iff hnodup]
  constructor
  · intro hmem
    obtain ⟨e, he, hname, hr⟩ := exists_left_of_forall₂ hnamed hmem
    exact ⟨e, he, hname.symm, hr⟩
  · rintro ⟨e, he, rfl, hr⟩
    obtain ⟨⟨name, r'⟩, hmem, hname, hr'⟩ := exists_right_of_forall₂ hnamed he
    obtain rfl : name = Text.trim e.name := hname
    -- an entry is built in one way only
    have hbuild := RouterEntry.build_eq_ok_iff.mpr ⟨hvalid e he, hr⟩
    rw [RouterEntry.build_eq_ok_iff.mpr ⟨hvalid e he, hr'⟩] at hbuild
    rwa [← Except.ok.inj hbuild]

theorem attached_iff (hvalid : ∀ e ∈ entries, e.Valid)
    (hnamed : List.Forall₂ (Named base entry) entries routers)
    (hnodup : (routers.map Prod.fst).Nodup) {f : FrameEntry} {frame : Frame} :
    Attached routers f frame ↔ f.Valid entries ∧ f.Describes base entry entries frame := by
  constructor
  · rintro ⟨hname, name, r, hrouter, hr, rfl⟩
    obtain ⟨e, he, heq, hdescribes⟩ := (lookup_eq_some_iff hvalid hnamed hnodup).mp hr
    exact ⟨⟨hname, name, hrouter, e, he, heq⟩, rfl, rfl, name, hrouter, e, he, heq, hdescribes⟩
  · rintro ⟨⟨hname, -⟩, hframe, hversion, name, hrouter, e, he, heq, hdescribes⟩
    refine ⟨hname, name, frame.router, hrouter, ?_, ?_⟩
    · exact (lookup_eq_some_iff hvalid hnamed hnodup).mpr ⟨e, he, heq, hdescribes⟩
    · rw [← hframe, ← hversion]

theorem forall₂_attached_iff (hvalid : ∀ e ∈ entries, e.Valid)
    (hnamed : List.Forall₂ (Named base entry) entries routers)
    (hnodup : (routers.map Prod.fst).Nodup) {fs : List FrameEntry} {frames : List Frame} :
    List.Forall₂ (Attached routers) fs frames ↔
      (∀ f ∈ fs, f.Valid entries) ∧
        List.Forall₂ (FrameEntry.Describes base entry entries) fs frames := by
  have heach : Attached routers =
      fun f frame => f.Valid entries ∧ f.Describes base entry entries frame := by
    funext f frame
    exact propext (attached_iff hvalid hnamed hnodup)
  rw [heach, List.forall₂_and_left]

/-- The names that routers are found by are those of their entries. -/
theorem map_fst_eq (hnamed : List.Forall₂ (Named base entry) entries routers) :
    routers.map Prod.fst = entries.map fun e => Text.trim e.name := by
  induction hnamed with
  | nil => rfl
  | cons hnamed _ ih => rw [List.map_cons, List.map_cons, ih, hnamed.name]

theorem build_eq_ok_iff {m : Manifest} {p : Project} :
    m.build base = .ok p ↔ ∃ routers,
      buildRouters base (Location.resolve base m.entry) m.routers = .ok routers ∧
      ∃ frames, List.Forall₂ (Attached routers) m.frames frames ∧
        { entry := Location.resolve base m.entry, frames } = p := by
  rw [build, bind_eq_ok_iff]
  simp only [addFrames_eq_ok_iff, List.nil_append]

theorem exists_named (base : String) (entry : Location) {e : RouterEntry} (he : e.Valid) :
    ∃ named, Named base entry e named := by
  obtain ⟨⟨i, hname⟩, hroutes⟩ := he
  -- an accepted handler or middleware has a name that is read, and this is all its spec needs
  have hspecs : ∀ route ∈ e.routes,
      ∃ s, RouteEntry.Describes base (directoryOr base e.dir entry) route s := by
    intro route hroute
    obtain ⟨e, k, he, hk, haccepted⟩ := hroutes route hroute
    cases k with
    | handler h =>
        obtain ⟨j, hj, -⟩ := haccepted
        exact ⟨_, e, _, he, hk, .handler h hj (directoryOr_eq_iff.mp rfl)⟩
    | middleware m =>
        obtain ⟨⟨j, hj⟩, -⟩ := haccepted
        exact ⟨_, e, _, he, hk, .middleware m hj (directoryOr_eq_iff.mp rfl)⟩
    | mount m => exact ⟨_, e, _, he, hk, .mount m⟩
  obtain ⟨specs, hspecs⟩ := exists_forall₂ hspecs
  exact ⟨(Text.trim e.name, { name := i, location := directoryOr base e.dir entry, specs }), rfl,
    hname, directoryOr_eq_iff.mp rfl, hspecs⟩

theorem build_eq_ok_iff_describes {m : Manifest} {p : Project} :
    m.build base = .ok p ↔ m.Valid ∧ m.Describes base p := by
  simp only [build_eq_ok_iff, buildRouters_eq_ok_iff]
  constructor
  · rintro ⟨routers, ⟨hvalid, hnamed, hnodup⟩, frames, hframes, hp⟩
    obtain ⟨hframes, hdescribes⟩ := (forall₂_attached_iff hvalid hnamed hnodup).mp hframes
    rw [map_fst_eq hnamed] at hnodup
    refine ⟨⟨hvalid, hnodup, hframes⟩, ?_, ?_⟩
    · rw [← hp]
    · rwa [← hp]
  · rintro ⟨⟨hvalid, hdistinct, hframes⟩, hentry, hdescribes⟩
    obtain ⟨routers, hnamed⟩ := exists_forall₂ fun e he =>
      exists_named base (Location.resolve base m.entry) (hvalid e he)
    rw [← map_fst_eq hnamed] at hdistinct
    refine ⟨routers, ⟨hvalid, hnamed, hdistinct⟩, p.frames, ?_, by rw [← hentry]⟩
    exact (forall₂_attached_iff hvalid hnamed hdistinct).mpr ⟨hframes, hdescribes⟩

theorem Valid.exists_describes {m : Manifest} (hm : m.Valid) (base : String) :
    ∃ p, m.Describes base p := by
  have hframes : ∀ f ∈ m.frames, ∃ frame,
      f.Describes base (Location.resolve base m.entry) m.routers frame := by
    intro f hf
    obtain ⟨name, hrouter, e, he, heq⟩ := (hm.frames f hf).router
    obtain ⟨named, hnamed⟩ := exists_named base (Location.resolve base m.entry) (hm.routers e he)
    exact ⟨{ name := Text.trim f.name, version := Text.trim f.version, router := named.2 },
      rfl, rfl, name, hrouter, e, he, heq, hnamed.router⟩
  obtain ⟨frames, hframes⟩ := exists_forall₂ hframes
  -- the location is not to be computed when the project is compared with its fields
  generalize hentry : Location.resolve base m.entry = entry at hframes
  exact ⟨{ entry, frames }, hentry.symm, by rwa [hentry]⟩

/-- Exactly the valid manifests are built, and what is built is the project that the manifest describes. -/
theorem build_eq (base : String) (m : Manifest) :
    ((∃ p, m.build base = .ok p) ↔ m.Valid) ∧
      ∀ p, m.build base = .ok p ↔ m.Valid ∧ m.Describes base p := by
  refine ⟨⟨?_, ?_⟩, fun p => build_eq_ok_iff_describes⟩
  · rintro ⟨p, hp⟩
    exact (build_eq_ok_iff_describes.mp hp).1
  · intro hm
    obtain ⟨p, hp⟩ := hm.exists_describes base
    exact ⟨p, build_eq_ok_iff_describes.mpr ⟨hm, hp⟩⟩

/-- A handler with a directory of its own. -/
def screeningEntry : HandlerEntry :=
  { name := "screening", dir := some "src/pages", path := " / ", note := " Now showing", body := some " " }

/-- A middleware without one. -/
def signInEntry : MiddlewareEntry := { name := "sign-in", path := "/seats" }

def panelEntry : HandlerEntry := { name := "panel", path := "/" }

/-- A router with a directory of its own. -/
def cinemaEntry : RouterEntry where
  name := " Cinema"
  dir := some "src/cinema"
  routes := [some { handler := some screeningEntry }, some { middleware := some signInEntry }]

/-- A router without one. -/
def officeEntry : RouterEntry where
  name := "Office"
  routes := [some { handler := some panelEntry }]

def cinema : Manifest where
  routers := [cinemaEntry, officeEntry]
  frames := [{ name := " web ", version := "1.0", router := some "Cinema " },
    { name := "staff", router := some "Office" }]

/-- The routers of the manifest: a handler lies in its own directory, a middleware in that of its router, and
what has none in the entry. -/
def cinemaRouter : Router where
  name := ⟨"Cinema", by decide, by decide⟩
  location := ⟨["work", "src", "cinema"]⟩
  specs := [
    .handler { path := "/", methods := [], name := ⟨"Screening", by decide, by decide⟩,
               note := "Now showing", location := ⟨["work", "src", "pages"]⟩ },
    .middleware { path := "/seats", name := ⟨"SignIn", by decide, by decide⟩,
                  location := ⟨["work", "src", "cinema"]⟩ }]

def officeRouter : Router where
  name := ⟨"Office", by decide, by decide⟩
  location := ⟨["work", "src"]⟩
  specs := [.handler { path := "/", methods := [], name := ⟨"Panel", by decide, by decide⟩,
                       location := ⟨["work", "src"]⟩ }]

theorem build_eq_cinema : cinema.build "/work" = .ok
    { entry := ⟨["work", "src"]⟩,
      frames := [{ name := "web", version := "1.0", router := cinemaRouter },
        { name := "staff", version := "", router := officeRouter }] } := by
  have hentry : Location.resolve "/work" "src" = ⟨["work", "src"]⟩ := by decide +kernel
  have hpages : Location.resolve "/work" "src/pages" = ⟨["work", "src", "pages"]⟩ := by decide +kernel
  have hcinema : Location.resolve "/work" "src/cinema" = ⟨["work", "src", "cinema"]⟩ := by
    decide +kernel
  have hinPages : LiesIn "/work" ⟨["work", "src", "cinema"]⟩ (some "src/pages")
      ⟨["work", "src", "pages"]⟩ := hpages ▸ .own "src/pages"
  have hinRouter : LiesIn "/work" ⟨["work", "src"]⟩ (some "src/cinema") ⟨["work", "src", "cinema"]⟩ :=
    hcinema ▸ .own "src/cinema"
  have hcinemaValid : cinemaEntry.Valid := by
    refine ⟨⟨_, rfl⟩, List.forall_mem_cons.mpr ⟨?_, List.forall_mem_singleton.mpr ?_⟩⟩
    · exact ⟨_, _, rfl, .handler screeningEntry, _, rfl, by decide, by rintro _ ⟨⟩⟩
    · exact ⟨_, _, rfl, .middleware signInEntry, ⟨_, rfl⟩, by decide⟩
  have hofficeValid : officeEntry.Valid := by
    refine ⟨⟨_, rfl⟩, List.forall_mem_singleton.mpr ?_⟩
    exact ⟨_, _, rfl, .handler panelEntry, _, rfl, by decide, by rintro _ ⟨⟩⟩
  have hcinemaRouter : cinemaEntry.Describes "/work" ⟨["work", "src"]⟩ cinemaRouter := by
    refine ⟨rfl, hinRouter, .cons ?_ (.cons ?_ .nil)⟩
    · exact ⟨_, _, rfl, .handler screeningEntry, .handler screeningEntry rfl hinPages⟩
    · exact ⟨_, _, rfl, .middleware signInEntry, .middleware signInEntry rfl .inherited⟩
  have hofficeRouter : officeEntry.Describes "/work" ⟨["work", "src"]⟩ officeRouter := by
    refine ⟨rfl, .inherited, .cons ?_ .nil⟩
    exact ⟨_, _, rfl, .handler panelEntry, .handler panelEntry rfl .inherited⟩
  have hcinemaMem : cinemaEntry ∈ cinema.routers := List.mem_cons_self
  have hofficeMem : officeEntry ∈ cinema.routers := List.mem_cons_of_mem _ List.mem_cons_self
  refine ((build_eq "/work" cinema).2 _).mpr ⟨⟨?_, by decide, ?_⟩, hentry.symm, ?_⟩
  · exact List.forall_mem_cons.mpr ⟨hcinemaValid, List.forall_mem_singleton.mpr hofficeValid⟩
  · refine List.forall_mem_cons.mpr ⟨?_, List.forall_mem_singleton.mpr ?_⟩
    · exact ⟨by decide, _, rfl, cinemaEntry, hcinemaMem, by decide⟩
    · exact ⟨by decide, _, rfl, officeEntry, hofficeMem, by decide⟩
  · rw [show cinema.entry = "src" from rfl, hentry]
    refine .cons ?_ (.cons ?_ .nil)
    · exact ⟨by decide, by decide, _, rfl, cinemaEntry, hcinemaMem, by decide, hcinemaRouter⟩
    · exact ⟨by decide, by decide, _, rfl, officeEntry, hofficeMem, by decide, hofficeRouter⟩

end Manifest

end RouteWorks
