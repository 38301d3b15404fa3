import RouteWorks.Proofs.Route.Represents

/-!
# The route tree is the trie of its paths

`Leads forest ks n` says that the keys `ks` lead from the top of a forest to the node `n`.  A tree
that is built from a list of specs has a node at every nonempty prefix of the keys of a spec and
nowhere else, and each node holds exactly the specs whose keys end there (`build_isTrie`).  A walk in
pre-order meets each of these nodes once (`mem_walkAll`, `nodup_walkAll`).
-/

namespace RouteWorks

namespace Placed

/-! ## Walking down several keys -/

/-- The specs that go on through all keys of a path, placed at its end. -/
def past (ks : List String) (ps : List Placed) : List Placed :=
  ks.foldl (fun ps key => under key ps) ps

@[simp] theorem past_nil (ps : List Placed) : past [] ps = ps := rfl

@[simp] theorem past_cons (key : String) (ks : List String) (ps : List Placed) :
    past (key :: ks) ps = past ks (under key ps) := rfl

theorem past_empty (ks : List String) : past ks [] = [] := by
  induction ks with
  | nil => rfl
  | cons key ks ih => exact ih

theorem past_append (ks : List String) (ps qs : List Placed) :
    past ks (ps ++ qs) = past ks ps ++ past ks qs := by
  induction ks generalizing ps qs with
  | nil => rfl
  | cons key ks ih =>
      rw [past_cons, past_cons, past_cons, under_append]
      exact ih _ _

theorem past_singleton (ks js : List String) (s : Spec) :
    past ks [⟨js, s⟩] = if ks <+: js then [⟨js.drop ks.length, s⟩] else [] := by
  induction ks generalizing js with
  | nil => simp
  | cons key ks ih =>
      rw [past_cons]
      cases js with
      | nil =>
          rw [under_ended, past_empty, if_neg (by simp)]
      | cons j js =>
          by_cases hkey : j = key
          · subst hkey
            rw [under_self, ih]
            simp only [List.cons_prefix_cons, true_and, List.length_cons, List.drop_succ_cons]
          · rw [under_of_ne hkey, past_empty, if_neg]
            rw [List.cons_prefix_cons]
            exact fun h => hkey h.1.symm

/-- The next keys behind a path, each as often as a spec goes through it. -/
def nextKeys (ks : List String) (specs : List Spec) : List String :=
  specs.filterMap fun s => if ks <+: s.route.keys then s.route.keys[ks.length]? else none

theorem heads_past (ks : List String) (specs : List Spec) :
    heads (past ks (specs.map ofSpec)) = nextKeys ks specs := by
  induction specs with
  | nil => rw [List.map_nil, past_empty]; rfl
  | cons s specs ih =>
      -- `past` walks down one spec after another, so the first one can be looked at alone
      rw [List.map_cons, ← List.singleton_append, past_append, heads_append, ih, ofSpec,
        past_singleton, nextKeys, nextKeys, List.filterMap_cons]
      split
      · rename_i hfront
        rw [heads, List.filterMap_cons, List.head?_drop]
        cases s.route.keys[ks.length]? <;> rfl
      · rfl

theorem here_past (ks : List String) (specs : List Spec) :
    here (past ks (specs.map ofSpec)) = specs.filter fun s => s.route.keys = ks := by
  induction specs with
  | nil => rw [List.map_nil, past_empty]; rfl
  | cons s specs ih =>
      rw [List.map_cons, ← List.singleton_append, past_append, here_append, ih, ofSpec,
        past_singleton, List.filter_cons]
      by_cases hkeys : s.route.keys = ks
      · rw [hkeys, if_pos (List.prefix_refl ks), List.drop_length]
        simp
      · -- a longer path goes on, any other one is not on the way
        have hempty : here (if ks <+: s.route.keys then [⟨s.route.keys.drop ks.length, s⟩] else []) =
            [] := by
          split
          · rename_i hfront
            have hdrop : s.route.keys.drop ks.length ≠ [] := by
              intro h
              rw [List.drop_eq_nil_iff] at h
              exact hkeys (hfront.eq_of_length_le h).symm
            simp [here, hdrop]
          · rfl
        rw [hempty]
        simp [hkeys]

end Placed

namespace RouteNode

open Placed

/-! ## Nodes by their keys -/

/-- The keys lead from the top of a forest to a node. -/
inductive Leads : List RouteNode → List String → RouteNode → Prop
  | here {ns : List RouteNode} {n : RouteNode} (hn : n ∈ ns) : Leads ns [n.key] n
  | down {ns : List RouteNode} {n m : RouteNode} {ks : List String} (hn : n ∈ ns)
      (hm : Leads n.children ks m) : Leads ns (n.key :: ks) m

namespace Leads

theorem getLast? {ns : List RouteNode} {ks : List String} {n : RouteNode} (h : Leads ns ks n) :
    ks.getLast? = some n.key := by
  induction h with
  | here _ => rfl
  | @down ns n m ks hn hm ih =>
      rw [List.getLast?_cons, ih]
      rfl

theorem cons_cases {ns : List RouteNode} {key : String} {ks : List String} {m : RouteNode}
    (h : Leads ns (key :: ks) m) :
    ∃ n ∈ ns, n.key = key ∧ (ks = [] ∧ m = n ∨ Leads n.children ks m) := by
  cases h with
  | here hn => exact ⟨_, hn, rfl, Or.inl ⟨rfl, rfl⟩⟩
  | down hn hm => exact ⟨_, hn, rfl, Or.inr hm⟩

theorem ne_nil {ns : List RouteNode} {ks : List String} {n : RouteNode} (h : Leads ns ks n) :
    ks ≠ [] := by
  cases h with
  | here _ => exact List.cons_ne_nil _ _
  | down _ _ => exact List.cons_ne_nil _ _

end Leads

namespace Represents

variable {ps : List Placed} {ns : List RouteNode} {ks : List String} {n : RouteNode}

/-- What a node holds and what its children represent is what goes on through its keys. -/
theorem of_leads (h : Represents ps ns) (hn : Leads ns ks n) :
    Holds (past ks ps) n ∧ Represents (past ks ps) n.children := by
  induction hn generalizing ps with
  | here hn => exact ⟨h.holds _ hn, h.children _ hn⟩
  | down hn _ ih => exact ih (h.children _ hn)

theorem exists_leads_iff (h : Represents ps ns) :
    (∃ n, Leads ns ks n) ↔ ks ≠ [] ∧ ∃ p ∈ ps, ks <+: p.keys := by
  -- along the keys: the children represent the specs under their key, so they are a forest again
  induction ks generalizing ps ns with
  | nil =>
      constructor
      · rintro ⟨n, hn⟩
        exact absurd rfl hn.ne_nil
      · rintro ⟨hne, -⟩
        exact absurd rfl hne
  | cons key ks ih =>
      constructor
      · rintro ⟨n, hn⟩
        refine ⟨List.cons_ne_nil _ _, ?_⟩
        cases hn with
        | here hn =>
            obtain ⟨js, s, hmem⟩ := mem_heads.mp (h.mem_keys.mp (List.mem_map_of_mem hn))
            exact ⟨_, hmem, by simp⟩
        | @down _ parent _ _ hparent hn =>
            obtain ⟨-, ⟨js, s⟩, hmem, hfront⟩ := (ih (h.children parent hparent)).mp ⟨n, hn⟩
            exact ⟨_, mem_under.mp hmem, List.cons_prefix_cons.mpr ⟨rfl, hfront⟩⟩
      · rintro ⟨-, ⟨js, s⟩, hmem, hfront⟩
        obtain ⟨rest, rfl⟩ := hfront
        have hhead : key ∈ heads ps := mem_heads.mpr ⟨ks ++ rest, s, hmem⟩
        obtain ⟨n, hn, rfl⟩ := List.mem_map.mp (h.mem_keys.mpr hhead)
        cases ks with
        | nil => exact ⟨n, .here hn⟩
        | cons next ks =>
            obtain ⟨m, hm⟩ := (ih (h.children n hn)).mpr
              ⟨List.cons_ne_nil _ _, _, mem_under.mpr hmem, List.prefix_append _ _⟩
            exact ⟨m, .down hn hm⟩

/-- There is one node at the end of some keys. -/
theorem leads_unique (h : Represents ps ns) {m : RouteNode} (hn : Leads ns ks n)
    (hm : Leads ns ks m) : n = m := by
  induction ks generalizing ps ns with
  | nil => exact absurd rfl hn.ne_nil
  | cons key ks ih =>
      obtain ⟨a, ha, hakey, hn⟩ := hn.cons_cases
      obtain ⟨b, hb, hbkey, hm⟩ := hm.cons_cases
      -- both ways start at the same sibling, since siblings differ in their keys
      have hab : a = b := List.inj_on_of_nodup_map h.nodup ha hb (hakey.trans hbkey.symm)
      subst hab
      rcases hn with ⟨hks, rfl⟩ | hn
      · rcases hm with ⟨-, rfl⟩ | hm
        · rfl
        · exact absurd hks hm.ne_nil
      · rcases hm with ⟨hks, -⟩ | hm
        · exact absurd hks hn.ne_nil
        · exact ih (h.children a ha) hn hm

end Represents

/-! ## The nodes in pre-order -/

mutual

/-- The nodes of a tree in pre-order, each with the keys that lead to it. -/
def walk (above : List String) : RouteNode → List (List String × RouteNode)
  | ⟨key, pattern, leaf, middleware, children⟩ =>
    (above ++ [key], ⟨key, pattern, leaf, middleware, children⟩)
      :: walkAll (above ++ [key]) children

/-- The nodes of a forest in pre-order. -/
def walkAll (above : List String) : List RouteNode → List (List String × RouteNode)
  | [] => []
  | n :: ns => walk above n ++ walkAll above ns

end

theorem walk_eq (above : List String) (n : RouteNode) :
    n.walk above = (above ++ [n.key], n) :: walkAll (above ++ [n.key]) n.children := by
  obtain ⟨key, pattern, leaf, middleware, children⟩ := n
  rw [walk]

theorem walkAll_eq_flatMap (above : List String) (ns : List RouteNode) :
    walkAll above ns = ns.flatMap (walk above) := by
  induction ns with
  | nil => rw [walkAll, List.flatMap_nil]
  | cons n ns ih => rw [walkAll, List.flatMap_cons, ih]

theorem leads_iff {ns : List RouteNode} {ks : List String} {m : RouteNode} :
    Leads ns ks m ↔ ∃ n ∈ ns, ks = [n.key] ∧ m = n ∨
      ∃ js, ks = n.key :: js ∧ Leads n.children js m := by
  constructor
  · intro h
    cases h with
    | here hn => exact ⟨_, hn, Or.inl ⟨rfl, rfl⟩⟩
    | down hn hm => exact ⟨_, hn, Or.inr ⟨_, rfl, hm⟩⟩
  · rintro ⟨n, hn, ⟨rfl, rfl⟩ | ⟨js, rfl, hm⟩⟩
    · exact .here hn
    · exact .down hn hm

mutual

theorem mem_walk {ks : List String} {m : RouteNode} :
    ∀ (above : List String) (n : RouteNode), (ks, m) ∈ n.walk above ↔
      ∃ js, ks = above ++ js ∧ (js = [n.key] ∧ m = n ∨
        ∃ rest, js = n.key :: rest ∧ Leads n.children rest m)
  | above, ⟨key, pattern, leaf, middleware, children⟩ => by
      rw [walk, List.mem_cons, Prod.mk.injEq, mem_walkAll (above ++ [key]) children]
      constructor
      · rintro (⟨rfl, rfl⟩ | ⟨rest, rfl, hm⟩)
        · exact ⟨[key], rfl, Or.inl ⟨rfl, rfl⟩⟩
        · exact ⟨key :: rest, by rw [List.append_assoc, List.singleton_append], Or.inr ⟨rest, rfl, hm⟩⟩
      · rintro ⟨js, rfl, ⟨rfl, rfl⟩ | ⟨rest, rfl, hm⟩⟩
        · exact Or.inl ⟨rfl, rfl⟩
        · exact Or.inr ⟨rest, by rw [List.append_assoc, List.singleton_append], hm⟩

/-- The walk through a forest meets the nodes that keys lead to. -/
theorem mem_walkAll {ks : List String} {m : RouteNode} :
    ∀ (above : List String) (ns : List RouteNode), (ks, m) ∈ walkAll above ns ↔
      ∃ js, ks = above ++ js ∧ Leads ns js m
  | above, [] => by
      rw [walkAll]
      refine iff_of_false List.not_mem_nil ?_
      rintro ⟨js, -, hm⟩
      obtain ⟨n, hn, -⟩ := leads_iff.mp hm
      cases hn
  | above, n :: ns => by
      rw [walkAll, List.mem_append, mem_walk above n, mem_walkAll above ns, ← exists_or]
      refine exists_congr fun js => ?_
      rw [← and_or_left, leads_iff, leads_iff, List.exists_mem_cons_iff]

end

theorem mem_walkAll_nil {ns : List RouteNode} {ks : List String} {m : RouteNode} :
    (ks, m) ∈ walkAll [] ns ↔ Leads ns ks m := by
  simp [mem_walkAll]

/-- No keys are met twice. -/
theorem nodup_walkAll {ps : List Placed} {ns : List RouteNode} (h : Represents ps ns)
    (above : List String) : ((walkAll above ns).map Prod.fst).Nodup := by
  induction h generalizing above with
  | @intro ps ns hkeys hholds hchildren ih =>
      have hdistinct : ns.Pairwise fun n m => n.key ≠ m.key :=
        List.pairwise_map.mp (Represents.intro hkeys hholds hchildren).nodup
      -- what is met below a node starts with the key of the node
      have hfront : ∀ n : RouteNode, ∀ ks ∈ (n.walk above).map Prod.fst,
          ∃ rest, ks = above ++ n.key :: rest := by
        intro n ks hks
        obtain ⟨⟨ks, m⟩, hmem, rfl⟩ := List.mem_map.mp hks
        obtain ⟨js, rfl, ⟨rfl, -⟩ | ⟨rest, rfl, -⟩⟩ := (mem_walk above n).mp hmem
        · exact ⟨[], rfl⟩
        · exact ⟨rest, rfl⟩
      rw [walkAll_eq_flatMap, List.map_flatMap, List.nodup_flatMap]
      refine ⟨?_, hdistinct.imp ?_⟩
      · intro n hn
        rw [walk_eq, List.map_cons, List.nodup_cons]
        refine ⟨?_, ih n hn (above ++ [n.key])⟩
        intro hmem
        obtain ⟨⟨ks, m⟩, hm, heq⟩ := List.mem_map.mp hmem
        obtain ⟨js, hks, hleads⟩ := (mem_walkAll _ _).mp hm
        exact hleads.ne_nil (List.append_right_eq_self.mp (hks.symm.trans heq))
      · intro n m hne ks hn hm
        obtain ⟨rest, rfl⟩ := hfront n ks hn
        obtain ⟨rest', heq⟩ := hfront m _ hm
        exact hne (List.cons.inj (List.append_cancel_left heq)).1

/-! ## The trie of a list of specs -/

/-- A forest is the trie of the keys of a list of specs. -/
structure IsTrie (specs : List Spec) (forest : List RouteNode) : Prop where
  /-- There are nodes at the nonempty prefixes of keys, and nowhere else. -/
  exists_iff : ∀ ks, (∃ n, Leads forest ks n) ↔ ks ≠ [] ∧ ∃ s ∈ specs, ks <+: s.route.keys
  unique : ∀ ks n m, Leads forest ks n → Leads forest ks m → n = m
  /-- The top nodes stand in the order of the first spec that goes through each. -/
  top_keys : forest.map (·.key) = (nextKeys [] specs).eraseDups
  /-- So do the children of every node. -/
  child_keys : ∀ ks n, Leads forest ks n →
    n.children.map (·.key) = (nextKeys ks specs).eraseDups
  distinct : (forest.map (·.key)).Nodup ∧
    ∀ ks n, Leads forest ks n → (n.children.map (·.key)).Nodup
  /-- The leaf of a node is the one leaf with its keys. -/
  leaf : ∀ ks n, Leads forest ks n →
    n.leaf.toList = (specs.filter fun s => s.route.keys = ks).filterMap Spec.leaf?
  /-- A node with a leaf has the pattern of that leaf. -/
  pattern : ∀ ks n, Leads forest ks n → ∀ s ∈ specs, s.route.keys = ks → s.leaf?.isSome →
    n.pattern = s.route.pattern ∧
      (n.hasTail = true ↔ ∃ g ∈ Route.segments s.path, g.isLiteral = false)
  /-- The middleware of a node is that with its keys, in the order of registration. -/
  middleware : ∀ ks n, Leads forest ks n →
    n.middleware = (specs.filter fun s => s.route.keys = ks).filterMap Spec.middleware?
  /-- Only a top node can have the empty key, and it has no children. -/
  empty_key : ∀ ks n, Leads forest ks n → n.key = "" → ks = [""] ∧ n.children = []
  one_empty : (forest.filter (·.key = "")).length ≤ 1

/-- The keys of a node with the empty key are those of the root. -/
theorem eq_root_of_front {ks : List String} {s : Spec} (hfront : ks <+: s.route.keys)
    (hempty : "" ∈ ks) : ks = [""] ∧ s.route.keys = [""] := by
  have hroot : s.route.keys = [""] := Route.Path.keys_eq_root (hfront.subset hempty)
  refine ⟨?_, hroot⟩
  rw [hroot, List.prefix_cons_iff] at hfront
  rcases hfront with rfl | ⟨t, rfl, ht⟩
  · cases hempty
  · rw [List.prefix_nil.mp ht]

/-- No path goes on behind the empty key. -/
theorem nextKeys_of_empty (specs : List Spec) {ks : List String} (hempty : "" ∈ ks) :
    nextKeys ks specs = [] := by
  rw [nextKeys, List.filterMap_eq_nil_iff]
  intro s _
  split
  · rename_i hfront
    obtain ⟨hks, hkeys⟩ := eq_root_of_front hfront hempty
    rw [hks, hkeys]
    rfl
  · rfl

/-- Siblings that differ in their keys have a key at most once. -/
theorem length_filter_key_le_one {ns : List RouteNode} (h : (ns.map (·.key)).Nodup) (key : String) :
    (ns.filter (·.key = key)).length ≤ 1 := by
  have hnodup : ((ns.filter (·.key = key)).map (·.key)).Nodup :=
    h.sublist (List.filter_sublist.map _)
  have hall : (ns.filter (·.key = key)).map (·.key) =
      List.replicate (ns.filter (·.key = key)).length key := by
    rw [List.map_eq_replicate_iff]
    intro n hn
    simpa using (List.mem_filter.mp hn).2
  rw [hall, List.nodup_replicate] at hnodup
  exact hnodup

/-- A node with the pattern of a path has a tail exactly when the path has a capture. -/
theorem hasTail_iff {n : RouteNode} {s : Spec} (hlast : s.route.keys.getLast? = some n.key)
    (hpattern : n.pattern = s.route.pattern) :
    n.hasTail = true ↔ ∃ g ∈ Route.segments s.path, g.isLiteral = false := by
  rw [hasTail, hpattern, decide_eq_true_iff]
  exact Route.pattern_ne_last_iff hlast

/-- Building gives the trie of the keys: a node stands at some keys if and only if they are a
nonempty prefix of the keys of a spec; siblings differ in their keys and stand in the order of the
first spec that goes through them; a node holds exactly the leaf and the middleware whose keys end
there; and the empty key occurs at most once, on a top node without children. -/
theorem build_isTrie {specs : List Spec} {forest : List RouteNode}
    (h : build specs = .ok forest) : IsTrie specs forest := by
  -- all that is said of a node follows from what the specs past its keys ask for
  have hrep := represents_of_build h
  have hexists : ∀ ks, (∃ n, Leads forest ks n) ↔ ks ≠ [] ∧ ∃ s ∈ specs, ks <+: s.route.keys := by
    intro ks
    rw [hrep.exists_leads_iff]
    simp only [List.mem_map, exists_exists_and_eq_and, ofSpec]
  have hchildKeys : ∀ ks n, Leads forest ks n →
      n.children.map (·.key) = (nextKeys ks specs).eraseDups := by
    intro ks n hn
    rw [(hrep.of_leads hn).2.keys, heads_past]
  refine
    { exists_iff := hexists
      unique := fun ks n m hn hm => hrep.leads_unique hn hm
      top_keys := ?_
      child_keys := hchildKeys
      distinct := ⟨hrep.nodup, fun ks n hn => (hrep.of_leads hn).2.nodup⟩
      leaf := ?_
      pattern := ?_
      middleware := ?_
      empty_key := ?_
      one_empty := ?_ }
  · rw [hrep.keys, ← heads_past, past_nil]
  · intro ks n hn
    rw [(hrep.of_leads hn).1.leaf, here_past]
  · intro ks n hn s hs hkeys hleaf
    have hmem : s ∈ here (past ks (specs.map ofSpec)) := by
      rw [here_past]
      simp [hs, hkeys]
    have hpattern := (hrep.of_leads hn).1.pattern s hmem hleaf
    have hlast : s.route.keys.getLast? = some n.key := by rw [hkeys, hn.getLast?]
    exact ⟨hpattern, hasTail_iff hlast hpattern⟩
  · intro ks n hn
    rw [(hrep.of_leads hn).1.middleware, here_past]
  · intro ks n hn hempty
    have hin : "" ∈ ks := by
      have := List.mem_of_getLast? hn.getLast?
      rwa [hempty] at this
    obtain ⟨-, s, -, hfront⟩ := (hexists ks).mp ⟨n, hn⟩
    have hroot : ks = [""] := (eq_root_of_front hfront hin).1
    have hmap := hchildKeys ks n hn
    rw [nextKeys_of_empty specs hin] at hmap
    exact ⟨hroot, List.map_eq_nil_iff.mp hmap⟩
  · exact length_filter_key_le_one hrep.nodup ""

/-! ## A small router -/

/-- A handler of a path with a capture. -/
def userHandler : Handler where
  path := "/api/users/:id"
  methods := [.get, .put]
  name := ⟨"User", by decide, by decide⟩
  location := ⟨["app", "src"]⟩

/-- A handler on a prefix of another path. -/
def apiHandler : Handler where
  path := "/api"
  methods := []
  name := ⟨"Api", by decide, by decide⟩
  location := ⟨["app", "src"]⟩

/-- Middleware around both handlers. -/
def apiGuard : Middleware where
  path := "/api"
  name := ⟨"Auth", by decide, by decide⟩
  location := ⟨["app", "src"]⟩

/-- A mount on the root. -/
def siteMount : Mount where
  path := "/"
  name := "site"
  root := "./site"
  noCache := true

/-- All of them, the middleware between the routes that it wraps. -/
def guardedSpecs : List Spec :=
  [.handler userHandler, .middleware apiGuard, .mount siteMount, .handler apiHandler]

/-- The tree of `guardedSpecs`. -/
def guardedForest : List RouteNode :=
  [{ key := "api"
     pattern := "api"
     leaf := some (.handler apiHandler)
     middleware := [apiGuard]
     children :=
      [{ key := "users", pattern := "users/:id", leaf := some (.handler userHandler) }] },
   { key := "", pattern := "", leaf := some (.mount siteMount) }]

theorem build_isTrie_guarded :
    build guardedSpecs = .ok guardedForest ∧ IsTrie guardedSpecs guardedForest :=
  ⟨rfl, build_isTrie rfl⟩

end RouteNode

end RouteWorks
