import RouteWorks.Proofs.Chain.Emission

/-!
# Placed leaves in a chain

The chain is cut into nests along the keys, so what it registers is followed down the trie of placed
specs: `Placed.service?` is what a placed spec has to give to the part of the chain that it is in, and
`services_of_elementsAll` says that the elements of a forest give this and nothing else.
-/

namespace RouteWorks

open Text Chain

/-! ## Leaves -/

namespace Leaf

/-- The path of a leaf, as it was given. -/
def path : Leaf → String
  | handler h => h.path
  | mount m => m.path

/-- Where a leaf is grouped and what it is registered as. -/
def route (l : Leaf) : Route.Path := Route.Path.ofText l.path

/-- The layers that a leaf puts around itself. -/
def ownLayers : Leaf → List Layer
  | handler _ => []
  | mount m => if m.noCache then [.noCache] else []

/-- A leaf at a path of a router, without layers. -/
def serviceAt (ctx : ChainContext) (path : String) (isFallback : Bool) :
    Leaf → Except Fault Service
  | handler h => do
      let target ← ctx.target h.location (ChainContext.handlerItem h)
      return .route path (answers h.methods (callee h target) [])
  | mount m => .ok (.mount path isFallback ⟨m.root, !m.noCompress, []⟩)

end Leaf

/-! ## Layers and paths of services -/

theorem guards_append (xs ys : List Target) : guards (xs ++ ys) = guards xs ++ guards ys :=
  List.map_append

theorem wrap_answers (ms : List Method) (c : Callee) (outer inner : List Layer) :
    (answers ms c inner).map (Answer.wrap outer) = answers ms c (outer ++ inner) := by
  cases ms with
  | nil => rfl
  | cons m ms => simp [answers, Answer.wrap]

namespace Service

theorem wrap_wrap (outer inner : List Layer) (s : Service) :
    (s.wrap inner).wrap outer = s.wrap (outer ++ inner) := by
  cases s with
  | route path answers =>
      rw [wrap, wrap, wrap, List.map_map]
      congr 1
      refine List.map_congr_left ?_
      intro a _
      simp [Answer.wrap]
  | mount path isFallback served => simp [wrap, Served.wrap]

theorem below_wrap (above : String) (layers : List Layer) (s : Service) :
    (s.wrap layers).below above = (s.below above).wrap layers := by
  cases s <;> rfl

end Service

namespace Leaf

variable {ctx : ChainContext}

/-- A leaf further down stands at a longer path. -/
theorem serviceAt_append (above path : String) (isFallback : Bool) (l : Leaf) :
    l.serviceAt ctx (above ++ path) isFallback =
      (l.serviceAt ctx path isFallback).map (Service.below above) := by
  cases l with
  | handler h =>
      rw [serviceAt, serviceAt]
      cases ctx.target h.location (ChainContext.handlerItem h) <;> rfl
  | mount m => rfl

/-- What a leaf is written as below some keys: the pattern of a handler, the last key of a mount. -/
def written (l : Leaf) (keys : List String) : String :=
  match l with
  | handler _ => l.route.pattern
  | mount _ => keys.getLastD ""

/-- What the element of a leaf stands for. -/
theorem services_of_leaf {key pattern : String} {layers : List Target} {l : Leaf} {e : Element}
    (hpattern : pattern = l.route.pattern) (h : ctx.leaf key pattern layers l = .ok e) :
    (l.serviceAt ctx ("/" ++ l.written [key]) (key = "")).map
      (fun s => [s.wrap (guards layers ++ l.ownLayers)]) = .ok (services e) := by
  rw [hpattern] at h
  rcases ChainContext.leaf_ok h with ⟨handler, target, rfl, htarget, rfl⟩ | ⟨mount, rfl, rfl⟩
  · rw [serviceAt, htarget, services, ownLayers, List.append_nil]
    change Except.ok [Service.wrap (guards layers) (.route _ (answers _ _ []))] = _
    rw [Service.wrap, wrap_answers, List.append_nil]
    rfl
  · rw [services, ownLayers]
    change Except.ok [Service.wrap _ (.mount _ _ _)] = _
    rw [Service.wrap, Served.wrap, List.append_nil]
    rfl

end Leaf

/-! ## Placed leaves -/

namespace Placed

/-- The middleware on the way of some keys, from the outside in. -/
def around (ps : List Placed) : List String → List Middleware
  | [] => []
  | key :: keys => (here (under key ps)).filterMap Spec.middleware? ++ around (under key ps) keys

/-- What a leaf gives to the part of the chain that it is placed in, with middleware around it; nothing
when its keys end above that part. -/
def service? (ctx : ChainContext) (ms : List Middleware) (p : Placed) :
    Option (Except Fault Service) :=
  if p.keys = [] then none
  else p.spec.leaf?.map fun l => do
    let service ← l.serviceAt ctx (Route.address p.keys (l.written p.keys))
      (p.keys.getLastD "" = "")
    let layers ← ctx.layers ms
    return service.wrap (guards layers ++ l.ownLayers)

theorem service?_ended (ctx : ChainContext) (ms : List Middleware) (s : Spec) :
    service? ctx ms ⟨[], s⟩ = none := rfl

theorem layers_append {ctx : ChainContext} {ms : List Middleware} {outer : List Target}
    (h : ctx.layers ms = .ok outer) (ms' : List Middleware) :
    ctx.layers (ms ++ ms') = (ctx.layers ms').map (outer ++ ·) := by
  rw [ChainContext.layers] at h
  rw [ChainContext.layers, ChainContext.layers, List.mapM_append, h]
  cases ms'.mapM fun m => ctx.target m.location m.name.snake <;> rfl

/-- A key in front nests what a leaf gives and puts the middleware of the key around it. -/
theorem service?_cons {ctx : ChainContext} {ms : List Middleware} {outer : List Target}
    (h : ctx.layers ms = .ok outer) (ms' : List Middleware) (key next : String) (keys : List String)
    (s : Spec) :
    service? ctx (ms ++ ms') ⟨key :: next :: keys, s⟩ =
      (service? ctx ms' ⟨next :: keys, s⟩).map
        (Except.map fun service => (service.wrap (guards outer)).below ("/" ++ key)) := by
  cases hleaf : s.leaf? with
  | none => simp [service?, hleaf]
  | some l =>
      have hwritten : l.written (key :: next :: keys) = l.written (next :: keys) := by
        cases l <;> rfl
      have hlast : (key :: next :: keys).getLastD "" = (next :: keys).getLastD "" := rfl
      have haddress : Route.address (key :: next :: keys) (l.written (key :: next :: keys)) =
          "/" ++ key ++ Route.address (next :: keys) (l.written (next :: keys)) := by
        rw [hwritten]
        rfl
      simp only [service?, hleaf, reduceCtorEq, if_false, Option.map_some, hlast, haddress,
        Leaf.serviceAt_append, layers_append h, Option.some.injEq]
      -- both sides fail alike, and where they succeed they differ in when the path is extended
      cases hservice : l.serviceAt ctx (Route.address (next :: keys) (l.written (next :: keys)))
          ((next :: keys).getLastD "" = "") with
      | error e => rfl
      | ok service =>
          cases hlayers : ctx.layers ms' with
          | error e => rfl
          | ok inner =>
              change Except.ok ((service.below _).wrap (guards (outer ++ inner) ++ l.ownLayers)) =
                Except.ok (((service.wrap (guards inner ++ l.ownLayers)).wrap (guards outer)).below _)
              rw [Service.wrap_wrap, Service.below_wrap, guards_append, List.append_assoc]

end Placed

/-! ## Grouping by the next key -/

/-- Every item of a list stands in the group of its key. -/
theorem perm_groups {α κ : Type} [DecidableEq κ] {key : α → Option κ} {ks : List κ} (hks : ks.Nodup)
    {xs : List α} (hxs : ∀ x ∈ xs, ∃ k ∈ ks, key x = some k) :
    (ks.flatMap fun k => xs.filter fun x => key x = some k).Perm xs := by
  induction ks generalizing xs with
  | nil =>
      have hnil : xs = [] := by
        rw [List.eq_nil_iff_forall_not_mem]
        intro x hx
        obtain ⟨k, hk, -⟩ := hxs x hx
        cases hk
      rw [hnil]
      exact List.Perm.nil
  | cons k ks ih =>
      rw [List.nodup_cons] at hks
      -- without the first group, the other keys still cover the rest
      have hrest : ∀ x ∈ xs.filter (fun x => !decide (key x = some k)), ∃ j ∈ ks, key x = some j := by
        intro x hx
        obtain ⟨hmem, hne⟩ := List.mem_filter.mp hx
        obtain ⟨j, hj, hkey⟩ := hxs x hmem
        rcases List.mem_cons.mp hj with rfl | hj
        · simp [hkey] at hne
        · exact ⟨j, hj, hkey⟩
      have hgroups : (ks.flatMap fun j => xs.filter fun x => key x = some j) =
          ks.flatMap fun j =>
            (xs.filter fun x => !decide (key x = some k)).filter fun x => key x = some j := by
        refine List.flatMap_congr ?_
        intro j hj
        rw [List.filter_filter]
        refine List.filter_congr ?_
        intro x _
        by_cases hkey : key x = some j
        · have hne : j ≠ k := fun he => hks.1 (he ▸ hj)
          simp [hkey, hne]
        · simp [hkey]
      rw [List.flatMap_cons, hgroups]
      exact ((ih hks.2 hrest).append_left _).trans (List.filter_append_perm _ xs)

namespace Placed

/-- What placed specs give, one next key after another. -/
theorem filterMap_perm_heads {β : Type} {f : Placed → Option β} (hf : ∀ s, f ⟨[], s⟩ = none)
    (ps : List Placed) :
    (ps.filterMap f).Perm ((heads ps).eraseDups.flatMap fun key =>
      (under key ps).filterMap fun q => f ⟨key :: q.keys, q.spec⟩) := by
  have hopen : ps.filterMap f = (ps.filter fun p => !p.keys.isEmpty).filterMap f := by
    rw [List.filterMap_filter]
    refine List.filterMap_congr ?_
    rintro ⟨ks, s⟩ _
    cases ks with
    | nil => exact hf s
    | cons k ks => rfl
  -- a spec that goes on has a next key
  have hcover : ∀ p ∈ ps.filter (fun p => !p.keys.isEmpty),
      ∃ key ∈ (heads ps).eraseDups, p.keys.head? = some key := by
    rintro ⟨ks, s⟩ hp
    obtain ⟨hmem, hne⟩ := List.mem_filter.mp hp
    cases ks with
    | nil => cases hne
    | cons k ks => exact ⟨k, List.mem_eraseDups.mpr (mem_heads.mpr ⟨ks, s, hmem⟩), rfl⟩
  have hgroups : ∀ key, ((ps.filter fun p => !p.keys.isEmpty).filter fun p =>
      p.keys.head? = some key).filterMap f =
        (under key ps).filterMap fun q => f ⟨key :: q.keys, q.spec⟩ := by
    intro key
    rw [List.filter_filter, List.filterMap_filter, under, List.filterMap_filterMap]
    refine List.filterMap_congr ?_
    rintro ⟨ks, s⟩ _
    cases ks with
    | nil => rfl
    | cons k ks =>
        by_cases hk : k = key
        · subst hk
          simp
        · simp [hk]
  have hperm := (perm_groups (nodup_eraseDups (heads ps)) hcover).filterMap f
  rw [List.filterMap_flatMap] at hperm
  simp only [hgroups] at hperm
  rw [hopen]
  exact hperm.symm

/-- What placed specs give, those that end here first. -/
theorem filterMap_perm_here {β : Type} (f : Placed → Option β) (qs : List Placed) :
    (qs.filterMap f).Perm ((here qs).filterMap (fun s => f ⟨[], s⟩)
      ++ qs.filterMap fun q => if q.keys = [] then none else f q) := by
  have hended : (qs.filter fun q => q.keys.isEmpty).filterMap f =
      (here qs).filterMap fun s => f ⟨[], s⟩ := by
    rw [List.filterMap_filter, here, List.filterMap_filterMap]
    refine List.filterMap_congr ?_
    rintro ⟨ks, s⟩ _
    cases ks <;> rfl
  have hopen : (qs.filter fun q => !q.keys.isEmpty).filterMap f =
      qs.filterMap fun q => if q.keys = [] then none else f q := by
    rw [List.filterMap_filter]
    refine List.filterMap_congr ?_
    rintro ⟨ks, s⟩ _
    cases ks <;> rfl
  rw [← hended, ← hopen, ← List.filterMap_append]
  exact ((List.filter_append_perm _ qs).filterMap f).symm

end Placed

/-! ## Elements and what is expected of them -/

namespace RouteNode

open Placed

theorem servicesAll_append (es fs : List Element) :
    servicesAll (es ++ fs) = servicesAll es ++ servicesAll fs := by
  induction es with
  | nil => rfl
  | cons e es ih => rw [List.cons_append, servicesAll, servicesAll, ih, List.append_assoc]

/-- The keys of the root stand alone. -/
def Rooted (ps : List Placed) : Prop := ∀ p ∈ ps, "" ∈ p.keys → p.keys = [""]

theorem Rooted.not_mem_under {ps : List Placed} (h : Rooted ps) {key : String} :
    ∀ q ∈ under key ps, "" ∉ q.keys := by
  rintro ⟨ks, s⟩ hq hempty
  have hkeys := h _ (mem_under.mp hq) (List.mem_cons_of_mem key hempty)
  change key :: ks = [""] at hkeys
  change "" ∈ ks at hempty
  rw [List.cons.injEq] at hkeys
  rw [hkeys.2] at hempty
  cases hempty

theorem Rooted.under {ps : List Placed} (h : Rooted ps) (key : String) :
    Rooted (under key ps) :=
  fun q hq hempty => absurd hempty (h.not_mem_under q hq)

/-- Nothing goes on below the root slot. -/
theorem Rooted.heads_under {ps : List Placed} (h : Rooted ps) : heads (Placed.under "" ps) = [] := by
  rw [List.eq_nil_iff_forall_not_mem]
  intro key hkey
  obtain ⟨ks, s, hmem⟩ := mem_heads.mp hkey
  have hkeys := h _ (mem_under.mp hmem) List.mem_cons_self
  cases hkeys

variable {ctx : ChainContext}

/-- What a leaf gives right at its node. -/
def ownService (ctx : ChainContext) (ms : List Middleware) (key : String) (l : Leaf) :
    Except Fault Service := do
  let service ← l.serviceAt ctx ("/" ++ l.written [key]) (key = "")
  let layers ← ctx.layers ms
  return service.wrap (guards layers ++ l.ownLayers)

theorem service?_last (ms : List Middleware) (key : String) (s : Spec) :
    service? ctx ms ⟨[key], s⟩ = s.leaf?.map (ownService ctx ms key) := rfl

theorem route_of_leaf? {s : Spec} {l : Leaf} (h : s.leaf? = some l) : l.route = s.route := by
  cases s <;> cases h <;> rfl

/-- The leaf of a node gives what its specs ask for. -/
theorem services_of_own {qs : List Placed} {n : RouteNode} (h : Holds qs n) {layers : List Target}
    (hlayers : ctx.layers n.middleware = .ok layers) {own : List Element}
    (hown : n.leaf.toList.mapM (ctx.leaf n.key n.pattern layers) = .ok own) :
    (servicesAll own).map Except.ok =
      (here qs).filterMap fun s => service? ctx n.middleware ⟨[n.key], s⟩ := by
  have hexpected : ((here qs).filterMap fun s => service? ctx n.middleware ⟨[n.key], s⟩) =
      n.leaf.toList.map (ownService ctx n.middleware n.key) := by
    rw [h.leaf, List.map_filterMap]
    rfl
  rw [hexpected]
  cases hleaf : n.leaf with
  | none =>
      rw [hleaf] at hown
      cases hown
      rfl
  | some l =>
      -- the leaf is that of a spec that ends here, and the pattern is the one of this spec
      have hmem : l ∈ (here qs).filterMap Spec.leaf? := by
        rw [← h.leaf, hleaf]
        exact List.mem_singleton_self l
      obtain ⟨s, hs, hsl⟩ := List.mem_filterMap.mp hmem
      have hpattern : n.pattern = l.route.pattern := by
        rw [route_of_leaf? hsl]
        exact h.pattern s hs (by rw [hsl]; rfl)
      rw [hleaf] at hown
      obtain ⟨e, he, rfl⟩ := mapM_singleton_ok hown
      have hservices := Leaf.services_of_leaf hpattern he
      rw [Option.toList_some, List.map_singleton, ownService, hlayers]
      cases hservice : l.serviceAt ctx ("/" ++ l.written [n.key]) (n.key = "") with
      | error fault =>
          rw [hservice] at hservices
          cases hservices
      | ok service =>
          rw [hservice] at hservices
          rw [servicesAll, servicesAll, List.append_nil, ← Except.ok.inj hservices]
          rfl

/-- What the part of a chain below some placed specs has to register. -/
def expected (ctx : ChainContext) (ps : List Placed) : List (Except Fault Service) :=
  ps.filterMap fun p => service? ctx (around ps p.keys) p

/-- What the part of a chain for one key has to register: all that goes on through the key. -/
def expectedAt (ctx : ChainContext) (ps : List Placed) (key : String) :
    List (Except Fault Service) :=
  (under key ps).filterMap fun q =>
    service? ctx (around ps (key :: q.keys)) ⟨key :: q.keys, q.spec⟩

/-- The keys share out what is expected. -/
theorem expected_perm (ctx : ChainContext) (ps : List Placed) :
    (expected ctx ps).Perm ((heads ps).eraseDups.flatMap (expectedAt ctx ps)) := by
  have hended : ∀ s, service? ctx (around ps []) ⟨[], s⟩ = none := service?_ended ctx (around ps [])
  exact @filterMap_perm_heads _ (fun p => service? ctx (around ps p.keys) p) hended ps

/-- What a node has to register: what ends there, and what is expected below, nested and with the
middleware of the node around it. -/
theorem expectedAt_perm {ps : List Placed} {key : String} {ms : List Middleware}
    (hms : ms = (here (under key ps)).filterMap Spec.middleware?) {layers : List Target}
    (hlayers : ctx.layers ms = .ok layers) :
    (expectedAt ctx ps key).Perm
      (((here (under key ps)).filterMap fun s => service? ctx ms ⟨[key], s⟩)
        ++ (expected ctx (under key ps)).map
          (Except.map fun service => (service.wrap (guards layers)).below ("/" ++ key))) := by
  have hended : ∀ s, service? ctx (around ps [key]) ⟨[key], s⟩ = service? ctx ms ⟨[key], s⟩ := by
    intro s
    rw [around, around, List.append_nil, hms]
  have hopen : ((under key ps).filterMap fun q =>
      if q.keys = [] then none
      else service? ctx (around ps (key :: q.keys)) ⟨key :: q.keys, q.spec⟩) =
        (expected ctx (under key ps)).map
          (Except.map fun service => (service.wrap (guards layers)).below ("/" ++ key)) := by
    rw [expected, List.map_filterMap]
    refine List.filterMap_congr ?_
    rintro ⟨ks, s⟩ _
    cases ks with
    | nil => rfl
    | cons next ks =>
        rw [if_neg (List.cons_ne_nil next ks), around, ← hms]
        exact service?_cons hlayers _ key next ks s
  have hperm := filterMap_perm_here
    (fun q => service? ctx (around ps (key :: q.keys)) ⟨key :: q.keys, q.spec⟩) (under key ps)
  rw [hopen] at hperm
  simp only [hended] at hperm
  exact hperm

section Node

variable {ps : List Placed} {n : RouteNode}

/-- A node without leaf and children has nothing to register. -/
theorem expectedAt_eq_nil (hholds : Holds (under n.key ps) n)
    (hrep : Represents (under n.key ps) n.children) (hleaf : n.leaf = none)
    (hchildren : n.children = []) : expectedAt ctx ps n.key = [] := by
  rw [expectedAt, List.filterMap_eq_nil_iff]
  rintro ⟨ks, s⟩ hq
  cases ks with
  | nil =>
      have hnoLeaf : ∀ t ∈ here (under n.key ps), t.leaf? = none := by
        rw [← List.filterMap_eq_nil_iff, ← hholds.leaf, hleaf]
        rfl
      rw [service?_last, hnoLeaf s (mem_here.mpr hq), Option.map_none]
  | cons k ks =>
      -- a spec that goes on would have made a child
      have hkey := hrep.mem_keys.mpr (mem_heads.mpr ⟨ks, s, hq⟩)
      rw [hchildren] at hkey
      cases hkey

theorem Rooted.children_eq_nil (hroot : Rooted ps)
    (hrep : Represents (Placed.under n.key ps) n.children) (hkey : n.key = "") : n.children = [] := by
  rw [hrep.eq_nil_iff, hkey]
  exact hroot.heads_under

/-- The nest of a node registers what is below, nested and with the layers of the node around it.  No
nest is written only where nothing is below. -/
theorem servicesAll_nest (hflat : n.key = "" → n.children = []) {below : List Element}
    (hbelow : ctx.elementsAll n.children = .ok below) (layers : List Target) :
    servicesAll (if n.children = [] ∨ n.key = "" then below else [.nest n.key below layers]) =
      (servicesAll below).map fun s => (s.wrap (guards layers)).below ("/" ++ n.key) := by
  split
  · rename_i hopen
    have hnil : n.children = [] := hopen.elim id hflat
    rw [hnil] at hbelow
    cases hbelow
    rfl
  · rw [servicesAll, servicesAll, List.append_nil, services, List.map_map]
    rfl

/-- The step lemma: the elements of a node register what is expected of it, once those of its children
do. -/
theorem services_of_elements (hroot : Rooted ps) (hholds : Holds (under n.key ps) n)
    (hrep : Represents (under n.key ps) n.children)
    (hchildren : ∀ below, ctx.elementsAll n.children = .ok below →
      ((servicesAll below).map Except.ok).Perm (expected ctx (under n.key ps)))
    {es : List Element} (hes : ctx.elements n = .ok es) :
    ((servicesAll es).map Except.ok).Perm (expectedAt ctx ps n.key) := by
  rcases ChainContext.elements_ok hes with
    ⟨hleaf, hnone, rfl⟩ | ⟨layers, own, below, hlayers, hown, hbelow, rfl⟩
  · rw [expectedAt_eq_nil hholds hrep hleaf hnone]
    exact List.Perm.nil
  · refine List.Perm.trans ?_ (expectedAt_perm hholds.middleware hlayers).symm
    rw [servicesAll_append, List.map_append, services_of_own hholds hlayers hown,
      servicesAll_nest (hroot.children_eq_nil hrep) hbelow layers]
    refine List.Perm.append_left _ ?_
    have hperm := (hchildren below hbelow).map
      (Except.map fun service => (service.wrap (guards layers)).below ("/" ++ n.key))
    rw [List.map_map] at hperm ⊢
    exact hperm

end Node

/-- The elements of siblings register what is expected of each, one after another. -/
theorem services_of_siblings {ps : List Placed} {ns : List RouteNode}
    (hnodes : ∀ n ∈ ns, ∀ es, ctx.elements n = .ok es →
      ((servicesAll es).map Except.ok).Perm (expectedAt ctx ps n.key))
    {es : List Element} (hes : ctx.elementsAll ns = .ok es) :
    ((servicesAll es).map Except.ok).Perm ((ns.map (·.key)).flatMap (expectedAt ctx ps)) := by
  induction ns generalizing es with
  | nil =>
      cases hes
      exact List.Perm.nil
  | cons n ns ih =>
      obtain ⟨first, rest, hfirst, hrest, rfl⟩ := ChainContext.elementsAll_cons_ok hes
      have hnode := hnodes n List.mem_cons_self first hfirst
      have htail := ih (fun m hm => hnodes m (List.mem_cons_of_mem n hm)) hrest
      rw [servicesAll_append, List.map_append, List.map_cons, List.flatMap_cons]
      exact hnode.append htail

/-- The elements of a forest register what is expected of it. -/
theorem services_of_elementsAll {ps : List Placed} {ns : List RouteNode} (h : Represents ps ns)
    (hroot : Rooted ps) {es : List Element} (hes : ctx.elementsAll ns = .ok es) :
    ((servicesAll es).map Except.ok).Perm (expected ctx ps) := by
  -- on how the forest represents its specs: each child does so for the specs under its key
  induction h generalizing es with
  | @intro ps ns hkeys hholds hchildren ih =>
      have hnodes : ∀ n ∈ ns, ∀ fs, ctx.elements n = .ok fs →
          ((servicesAll fs).map Except.ok).Perm (expectedAt ctx ps n.key) := by
        intro n hn fs hfs
        exact services_of_elements hroot (hholds n hn) (hchildren n hn)
          (fun below hbelow => ih n hn (hroot.under n.key) hbelow) hfs
      have hall := services_of_siblings hnodes hes
      rw [hkeys] at hall
      exact hall.trans (expected_perm ctx ps).symm

end RouteNode

end RouteWorks
