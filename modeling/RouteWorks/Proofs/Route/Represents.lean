import Mathlib.Data.List.Induction
import Mathlib.Data.List.Nodup
import RouteWorks.Proofs.Route.Path
import RouteWorks.Route.Tree

/-!
# What a forest of route nodes represents

Specs are inserted one after another, and each insertion walks down the keys of one path.  Seen from
a forest in the middle of the tree, a spec is *placed* by the keys that its path has left there.
`Represents` says that a forest is the trie of a list of placed specs: its top nodes are the first
keys in the order in which they appeared, every node holds what ends there, and its children
represent what goes on below.

* `Represents.insert_cases` is the step lemma: an insertion adds the placed spec, or it is refused
  because a leaf stands on the same node already.
* `build_cases` is the run lemma: all specs are represented, or the first clash is reported.
-/

namespace RouteWorks

namespace Spec

/-- The leaf that a spec puts on its node; none for middleware. -/
def leaf? : Spec → Option Leaf
  | handler h => some (.handler h)
  | middleware _ => none
  | mount m => some (.mount m)

/-- The middleware that a spec registers. -/
def middleware? : Spec → Option Middleware
  | middleware m => some m
  | _ => none

/-- Where a spec is grouped and what it is registered as. -/
def route (s : Spec) : Route.Path := Route.Path.ofText s.path

theorem keys_ne_nil (s : Spec) : s.route.keys ≠ [] := Route.Path.keys_ne_nil s.path

/-- Two leaves on one node. -/
def Clashes (s t : Spec) : Prop :=
  s.leaf?.isSome ∧ t.leaf?.isSome ∧ s.route.keys = t.route.keys

end Spec

/-- A spec with the keys that its path has left, seen from somewhere in the tree. -/
structure Placed where
  keys : List String
  spec : Spec

namespace Placed

/-- A spec as the root of the tree sees it. -/
def ofSpec (s : Spec) : Placed := ⟨s.route.keys, s⟩

theorem ofSpec_keys (s : Spec) : (ofSpec s).keys = s.route.keys := by
  rw [ofSpec]

theorem ofSpec_spec (s : Spec) : (ofSpec s).spec = s := rfl

/-- The specs that end here. -/
def here (ps : List Placed) : List Spec :=
  ps.filterMap fun p => if p.keys = [] then some p.spec else none

/-- The specs that go on through a key, placed below it. -/
def under (key : String) (ps : List Placed) : List Placed :=
  ps.filterMap fun p =>
    match p.keys with
    | [] => none
    | k :: ks => if k = key then some ⟨ks, p.spec⟩ else none

/-- The next keys, each as often as a spec goes through it. -/
def heads (ps : List Placed) : List String := ps.filterMap (·.keys.head?)

theorem mem_here {ps : List Placed} {s : Spec} : s ∈ here ps ↔ ⟨[], s⟩ ∈ ps := by
  rw [here, List.mem_filterMap]
  constructor
  · rintro ⟨⟨ks, t⟩, hp, h⟩
    split at h
    · rename_i hks
      cases h
      change ks = [] at hks
      rwa [hks] at hp
    · cases h
  · intro hp
    exact ⟨_, hp, by simp⟩

theorem mem_under {key : String} {ps : List Placed} {ks : List String} {s : Spec} :
    ⟨ks, s⟩ ∈ under key ps ↔ ⟨key :: ks, s⟩ ∈ ps := by
  rw [under, List.mem_filterMap]
  constructor
  · rintro ⟨⟨js, t⟩, hp, h⟩
    cases js with
    | nil => cases h
    | cons j js =>
        simp only [Option.ite_none_right_eq_some, Option.some.injEq, mk.injEq] at h
        obtain ⟨rfl, rfl, rfl⟩ := h
        exact hp
  · intro hp
    exact ⟨_, hp, by simp⟩

theorem mem_heads {ps : List Placed} {key : String} :
    key ∈ heads ps ↔ ∃ ks s, ⟨key :: ks, s⟩ ∈ ps := by
  rw [heads, List.mem_filterMap]
  constructor
  · rintro ⟨⟨js, t⟩, hp, h⟩
    cases js with
    | nil => cases h
    | cons j js =>
        cases h
        exact ⟨js, t, hp⟩
  · rintro ⟨ks, s, hp⟩
    exact ⟨_, hp, rfl⟩

theorem under_eq_nil {ps : List Placed} {key : String} (h : key ∉ heads ps) :
    under key ps = [] := by
  rw [List.eq_nil_iff_forall_not_mem]
  rintro ⟨ks, s⟩ hmem
  exact h (mem_heads.mpr ⟨ks, s, mem_under.mp hmem⟩)

@[simp] theorem here_append (ps qs : List Placed) : here (ps ++ qs) = here ps ++ here qs :=
  List.filterMap_append

@[simp] theorem under_append (key : String) (ps qs : List Placed) :
    under key (ps ++ qs) = under key ps ++ under key qs :=
  List.filterMap_append

@[simp] theorem heads_append (ps qs : List Placed) : heads (ps ++ qs) = heads ps ++ heads qs :=
  List.filterMap_append

@[simp] theorem here_ended (s : Spec) : here [⟨[], s⟩] = [s] := rfl

@[simp] theorem here_cons (k : String) (ks : List String) (s : Spec) :
    here [⟨k :: ks, s⟩] = [] := rfl

@[simp] theorem under_ended (key : String) (s : Spec) : under key [⟨[], s⟩] = [] := rfl

@[simp] theorem under_self (key : String) (ks : List String) (s : Spec) :
    under key [⟨key :: ks, s⟩] = [⟨ks, s⟩] := by
  simp [under]

theorem under_of_ne {key k : String} (h : k ≠ key) (ks : List String) (s : Spec) :
    under key [⟨k :: ks, s⟩] = [] := by
  simp [under, h]

@[simp] theorem heads_ended (s : Spec) : heads [⟨[], s⟩] = [] := rfl

@[simp] theorem heads_cons (k : String) (ks : List String) (s : Spec) :
    heads [⟨k :: ks, s⟩] = [k] := rfl

/-- A leaf of the list ends where a spec would go. -/
def Taken (ps : List Placed) (keys : List String) : Prop :=
  ∃ t, t.leaf?.isSome ∧ ⟨keys, t⟩ ∈ ps

theorem taken_under {ps : List Placed} {key : String} {ks : List String} :
    Taken (under key ps) ks ↔ Taken ps (key :: ks) := by
  simp only [Taken, mem_under]

end Placed

/-! ## Lists without their repetitions -/

theorem eraseDups_concat {α : Type} [DecidableEq α] (xs : List α) (a : α) :
    (xs ++ [a]).eraseDups = if a ∈ xs then xs.eraseDups else xs.eraseDups ++ [a] := by
  rw [List.eraseDups_append]
  by_cases h : a ∈ xs
  · simp [List.removeAll, h]
  · simp [List.removeAll, h, List.eraseDups_cons]

theorem nodup_eraseDups {α : Type} [DecidableEq α] (xs : List α) : xs.eraseDups.Nodup := by
  induction xs using List.reverseRecOn with
  | nil => exact List.nodup_nil
  | append_singleton xs a ih =>
      rw [eraseDups_concat]
      split
      · exact ih
      · rename_i h
        rw [List.nodup_append]
        refine ⟨ih, List.nodup_singleton a, ?_⟩
        rintro b hb c hc rfl
        rw [List.mem_singleton.mp hc] at hb
        exact h (List.mem_eraseDups.mp hb)

namespace RouteNode

open Placed

/-! ## The invariant -/

/-- A node holds what ends on it: its leaf with the pattern of that leaf, and its middleware. -/
structure Holds (ps : List Placed) (n : RouteNode) : Prop where
  leaf : n.leaf.toList = (here ps).filterMap Spec.leaf?
  pattern : ∀ s ∈ here ps, s.leaf?.isSome → n.pattern = s.route.pattern
  middleware : n.middleware = (here ps).filterMap Spec.middleware?

/-- A forest is the trie of a list of placed specs. -/
inductive Represents : List Placed → List RouteNode → Prop
  | intro {ps : List Placed} {ns : List RouteNode}
      (keys : ns.map (·.key) = (heads ps).eraseDups)
      (holds : ∀ n ∈ ns, Holds (under n.key ps) n)
      (children : ∀ n ∈ ns, Represents (under n.key ps) n.children) :
      Represents ps ns

namespace Represents

variable {ps : List Placed} {ns : List RouteNode}

theorem keys (h : Represents ps ns) : ns.map (·.key) = (heads ps).eraseDups := by
  cases h with
  | intro keys _ _ => exact keys

theorem holds (h : Represents ps ns) : ∀ n ∈ ns, Holds (under n.key ps) n := by
  cases h with
  | intro _ holds _ => exact holds

theorem children (h : Represents ps ns) :
    ∀ n ∈ ns, Represents (under n.key ps) n.children := by
  cases h with
  | intro _ _ children => exact children

theorem nodup (h : Represents ps ns) : (ns.map (·.key)).Nodup := by
  rw [h.keys]
  exact nodup_eraseDups _

theorem mem_keys (h : Represents ps ns) {key : String} :
    key ∈ ns.map (·.key) ↔ key ∈ heads ps := by
  rw [h.keys, List.mem_eraseDups]

theorem eq_nil_iff (h : Represents ps ns) : ns = [] ↔ heads ps = [] := by
  rw [← List.map_eq_nil_iff (f := RouteNode.key), List.eq_nil_iff_forall_not_mem,
    List.eq_nil_iff_forall_not_mem]
  simp only [h.mem_keys]

/-- The empty forest represents no specs. -/
theorem nil : Represents [] [] :=
  ⟨rfl, fun _ hn => absurd hn List.not_mem_nil, fun _ hn => absurd hn List.not_mem_nil⟩

/-- What ends above a forest is none of its business. -/
theorem append_ended (h : Represents ps ns) (s : Spec) : Represents (ps ++ [⟨[], s⟩]) ns := by
  refine ⟨?_, ?_, ?_⟩
  · rw [heads_append, heads_ended, List.append_nil]
    exact h.keys
  · intro n hn
    rw [under_append, under_ended, List.append_nil]
    exact h.holds n hn
  · intro n hn
    rw [under_append, under_ended, List.append_nil]
    exact h.children n hn

end Represents

/-! ## Changing one of the siblings -/

/-- Puts a node in the place of the sibling with a key, or at the end. -/
def put (key : String) (n : RouteNode) : List RouteNode → List RouteNode
  | [] => [n]
  | m :: ms => if m.key = key then n :: ms else m :: put key n ms

theorem alter_eq (key : String) (change : Option RouteNode → Except Fault RouteNode)
    (ns : List RouteNode) :
    alter key change ns =
      (change (ns.find? (·.key = key))).map (fun n => put key n ns) := by
  induction ns with
  | nil =>
      rw [alter, List.find?_nil]
      cases change none <;> rfl
  | cons m ms ih =>
      rw [alter]
      by_cases h : m.key = key
      · rw [if_pos h, List.find?_cons_of_pos (by simpa using h)]
        cases hc : change (some m) with
        | error e => rfl
        | ok n =>
            change Except.ok (n :: ms) = Except.ok (put key n (m :: ms))
            rw [put, if_pos h]
      · rw [if_neg h, List.find?_cons_of_neg (by simpa using h), ih]
        cases hc : change (ms.find? (·.key = key)) with
        | error e => rfl
        | ok n =>
            change Except.ok (m :: put key n ms) = Except.ok (put key n (m :: ms))
            rw [put, if_neg h]

theorem map_key_put {key : String} {n : RouteNode} (hn : n.key = key) (ns : List RouteNode) :
    (put key n ns).map (·.key) =
      if key ∈ ns.map (·.key) then ns.map (·.key) else ns.map (·.key) ++ [key] := by
  induction ns with
  | nil => simp [put, hn]
  | cons m ms ih =>
      rw [put]
      by_cases h : m.key = key
      · simp [h, hn]
      · rw [if_neg h, List.map_cons, ih]
        by_cases hmem : key ∈ ms.map (·.key)
        · simp [hmem]
        · simp [hmem, Ne.symm h]

theorem mem_put {key : String} {n m : RouteNode} {ns : List RouteNode}
    (hnodup : (ns.map (·.key)).Nodup) (hm : m ∈ put key n ns) :
    m = n ∨ m ∈ ns ∧ m.key ≠ key := by
  induction ns with
  | nil => exact Or.inl (List.mem_singleton.mp hm)
  | cons a as ih =>
      rw [List.map_cons, List.nodup_cons] at hnodup
      rw [put] at hm
      split at hm
      · rename_i ha
        rcases List.mem_cons.mp hm with rfl | hm
        · exact Or.inl rfl
        · right
          refine ⟨List.mem_cons_of_mem a hm, ?_⟩
          intro hkey
          exact hnodup.1 (ha ▸ hkey ▸ List.mem_map_of_mem hm)
      · rename_i ha
        rcases List.mem_cons.mp hm with rfl | hm
        · exact Or.inr ⟨List.mem_cons_self, ha⟩
        · rcases ih hnodup.2 hm with h | ⟨hmem, hkey⟩
          · exact Or.inl h
          · exact Or.inr ⟨List.mem_cons_of_mem a hmem, hkey⟩

namespace Represents

variable {ps : List Placed} {ns : List RouteNode}

/-- A sibling that represents one more spec than before takes the forest one spec further. -/
theorem put (h : Represents ps ns) {key : String} {n : RouteNode} {ks : List String} {s : Spec}
    (hkey : n.key = key) (hholds : Holds (under key ps ++ [⟨ks, s⟩]) n)
    (hchildren : Represents (under key ps ++ [⟨ks, s⟩]) n.children) :
    Represents (ps ++ [⟨key :: ks, s⟩]) (put key n ns) := by
  -- the other siblings see nothing of the new spec
  have hothers : ∀ m : RouteNode, m.key ≠ key →
      under m.key (ps ++ [⟨key :: ks, s⟩]) = under m.key ps := by
    intro m hm
    rw [under_append, under_of_ne (Ne.symm hm), List.append_nil]
  have hself : under n.key (ps ++ [⟨key :: ks, s⟩]) = under key ps ++ [⟨ks, s⟩] := by
    rw [hkey, under_append, under_self]
  refine ⟨?_, ?_, ?_⟩
  · rw [map_key_put hkey, heads_append, heads_cons, eraseDups_concat, ← h.keys]
    simp only [h.mem_keys]
  · intro m hm
    rcases mem_put h.nodup hm with rfl | ⟨hmem, hne⟩
    · rw [hself]
      exact hholds
    · rw [hothers m hne]
      exact h.holds m hmem
  · intro m hm
    rcases mem_put h.nodup hm with rfl | ⟨hmem, hne⟩
    · rw [hself]
      exact hchildren
    · rw [hothers m hne]
      exact h.children m hmem

/-- The sibling with a key, or a new node without leaf, middleware and children in its place, holds
what goes through the key. -/
theorem getD_find? (h : Represents ps ns) (key : String) (new : RouteNode) (hkey : new.key = key)
    (hleaf : new.leaf = none) (hmiddleware : new.middleware = []) (hchildren : new.children = []) :
    ((ns.find? (·.key = key)).getD new).key = key ∧
      Holds (under key ps) ((ns.find? (·.key = key)).getD new) ∧
      Represents (under key ps) ((ns.find? (·.key = key)).getD new).children := by
  cases hfind : ns.find? (·.key = key) with
  | none =>
      have habsent : key ∉ heads ps := by
        rw [← h.mem_keys]
        intro hmem
        obtain ⟨n, hn, hnkey⟩ := List.mem_map.mp hmem
        simpa [hnkey] using List.find?_eq_none.mp hfind n hn
      rw [under_eq_nil habsent, Option.getD_none]
      refine ⟨hkey, ⟨?_, ?_, ?_⟩, ?_⟩
      · rw [hleaf]
        rfl
      · intro s hs
        cases hs
      · rw [hmiddleware]
        rfl
      · rw [hchildren]
        exact nil
  | some n =>
      have hmem := List.mem_of_find?_eq_some hfind
      have hnkey : n.key = key := by simpa using List.find?_some hfind
      rw [Option.getD_some]
      exact ⟨hnkey, hnkey ▸ h.holds n hmem, hnkey ▸ h.children n hmem⟩

end Represents

/-! ## One insertion -/

/-- What becomes of a node that a spec is put on. -/
def hold (s : Spec) (n : RouteNode) : Except Fault RouteNode :=
  match s.leaf? with
  | none => .ok { n with middleware := n.middleware ++ s.middleware?.toList }
  | some l =>
      if n.leaf.isSome then .error (.routeConflict s.path)
      else .ok { n with leaf := some l, pattern := s.route.pattern }

theorem insert_last (s : Spec) (key : String) (ns : List RouteNode) :
    insert s s.route [key] ns =
      alter key (fun old => hold s (old.getD { key, pattern := s.route.pattern })) ns := by
  rw [insert]
  congr 1
  funext old
  cases s <;> rfl

theorem insert_step (s : Spec) (key next : String) (rest : List String) (ns : List RouteNode) :
    insert s s.route (key :: next :: rest) ns =
      alter key
        (fun old => (insert s s.route (next :: rest) (old.getD (group key)).children).map
          fun children => { old.getD (group key) with children })
        ns := by
  rw [insert]
  · rfl
  · exact List.cons_ne_nil next rest

namespace Holds

variable {ps : List Placed} {n : RouteNode}

/-- The place of a node is taken when the node has a leaf. -/
theorem taken_iff (h : Holds ps n) : Taken ps [] ↔ n.leaf.isSome := by
  constructor
  · rintro ⟨t, ht, hmem⟩
    obtain ⟨l, hl⟩ := Option.isSome_iff_exists.mp ht
    have hmem : l ∈ n.leaf.toList := by
      rw [h.leaf]
      exact List.mem_filterMap.mpr ⟨t, mem_here.mpr hmem, hl⟩
    rw [Option.mem_toList.mp hmem]
    rfl
  · intro hsome
    obtain ⟨l, hl⟩ := Option.isSome_iff_exists.mp hsome
    have hmem : l ∈ (here ps).filterMap Spec.leaf? := by
      rw [← h.leaf, hl]
      exact List.mem_singleton_self l
    obtain ⟨t, ht, htl⟩ := List.mem_filterMap.mp hmem
    exact ⟨t, by rw [htl]; rfl, mem_here.mp ht⟩

/-- A spec that goes on below does not concern the node. -/
theorem append_passing (h : Holds ps n) (key : String) (ks : List String) (s : Spec) :
    Holds (ps ++ [⟨key :: ks, s⟩]) n := by
  have hhere : here (ps ++ [⟨key :: ks, s⟩]) = here ps := by
    rw [here_append, here_cons, List.append_nil]
  refine ⟨?_, ?_, ?_⟩
  · rw [hhere]
    exact h.leaf
  · rw [hhere]
    exact h.pattern
  · rw [hhere]
    exact h.middleware

theorem append_middleware (h : Holds ps n) {s : Spec} (hs : s.leaf? = none) :
    Holds (ps ++ [⟨[], s⟩]) { n with middleware := n.middleware ++ s.middleware?.toList } := by
  refine ⟨?_, ?_, ?_⟩
  · rw [here_append, here_ended, List.filterMap_append, ← h.leaf]
    simp [hs]
  · intro t ht hleaf
    rw [here_append, here_ended, List.mem_append, List.mem_singleton] at ht
    rcases ht with ht | rfl
    · exact h.pattern t ht hleaf
    · rw [hs] at hleaf
      cases hleaf
  · rw [here_append, here_ended, List.filterMap_append, ← h.middleware]
    cases s <;> rfl

theorem append_leaf (h : Holds ps n) {s : Spec} {l : Leaf} (hs : s.leaf? = some l)
    (hfree : n.leaf = none) :
    Holds (ps ++ [⟨[], s⟩]) { n with leaf := some l, pattern := s.route.pattern } := by
  have hempty : (here ps).filterMap Spec.leaf? = [] := by
    rw [← h.leaf, hfree]
    rfl
  refine ⟨?_, ?_, ?_⟩
  · rw [here_append, here_ended, List.filterMap_append, hempty]
    simp [hs]
  · intro t ht hleaf
    rw [here_append, here_ended, List.mem_append, List.mem_singleton] at ht
    rcases ht with ht | rfl
    · -- no earlier leaf ends here
      exfalso
      obtain ⟨old, hold⟩ := Option.isSome_iff_exists.mp hleaf
      have hmem := List.mem_filterMap.mpr ⟨t, ht, hold⟩
      rw [hempty] at hmem
      cases hmem
    · dsimp only
  · rw [here_append, here_ended, List.filterMap_append, ← h.middleware]
    cases s with
    | middleware m => cases hs
    | handler _ => simp [Spec.middleware?]
    | mount _ => simp [Spec.middleware?]

/-- A spec put on a node is held by it as well, unless it is a second leaf. -/
theorem hold_cases (h : Holds ps n) (s : Spec) :
    (∃ n', hold s n = .ok n' ∧ n'.key = n.key ∧ n'.children = n.children ∧
        Holds (ps ++ [⟨[], s⟩]) n' ∧ ¬ (s.leaf?.isSome ∧ Taken ps [])) ∨
      (hold s n = .error (.routeConflict s.path) ∧ s.leaf?.isSome ∧ Taken ps []) := by
  rw [h.taken_iff]
  cases hl : s.leaf? with
  | none =>
      left
      have hok : hold s n =
          .ok { n with middleware := n.middleware ++ s.middleware?.toList } := by
        rw [hold, hl]
      refine ⟨_, hok, ?_, ?_, h.append_middleware hl, ?_⟩
      · rfl
      · rfl
      · rintro ⟨hsome, -⟩
        cases hsome
  | some l =>
      cases hn : n.leaf with
      | some old =>
          -- a second leaf
          right
          refine ⟨?_, rfl, rfl⟩
          rw [hold, hl, hn]
          rfl
      | none =>
          left
          have hok : hold s n =
              .ok { n with leaf := some l, pattern := s.route.pattern } := by
            rw [hold, hl, hn]
            rfl
          refine ⟨_, hok, ?_, ?_, h.append_leaf hl hn, ?_⟩
          · rfl
          · rfl
          · rintro ⟨-, hsome⟩
            cases hsome

end Holds

/-- The step lemma: an insertion adds the placed spec to what the forest represents, or the spec is
a leaf whose place is taken. -/
theorem Represents.insert_cases {ps : List Placed} {ns : List RouteNode} (h : Represents ps ns)
    (s : Spec) {keys : List String} (hkeys : keys ≠ []) :
    (∃ ns', insert s s.route keys ns = .ok ns' ∧ Represents (ps ++ [⟨keys, s⟩]) ns' ∧
        ¬ (s.leaf?.isSome ∧ Taken ps keys)) ∨
      (insert s s.route keys ns = .error (.routeConflict s.path) ∧
        s.leaf?.isSome ∧ Taken ps keys) := by
  -- along the keys, for any forest: below a node the spec is inserted into its children
  induction keys generalizing ps ns with
  | nil => exact absurd rfl hkeys
  | cons key rest ih =>
      rw [← taken_under]
      cases rest with
      | nil =>
          obtain ⟨hkey, hholds, hchildren⟩ :=
            h.getD_find? key { key, pattern := s.route.pattern } rfl rfl rfl rfl
          rw [insert_last, alter_eq]
          rcases hholds.hold_cases s with ⟨n, hn, hnkey, hnchildren, hnholds, hfree⟩ | ⟨he, hbad⟩
          · left
            rw [hn]
            refine ⟨_, rfl, h.put (hnkey.trans hkey) hnholds ?_, hfree⟩
            rw [hnchildren]
            exact hchildren.append_ended s
          · right
            rw [he]
            exact ⟨rfl, hbad⟩
      | cons next rest =>
          obtain ⟨hkey, hholds, hchildren⟩ :=
            h.getD_find? key (group key) rfl rfl rfl rfl
          rw [insert_step, alter_eq]
          rcases ih hchildren (List.cons_ne_nil next rest) with
            ⟨children, hok, hrep, hfree⟩ | ⟨he, hbad⟩
          · left
            rw [hok]
            refine ⟨_, rfl, h.put ?_ ?_ hrep, hfree⟩
            · exact hkey
            · obtain ⟨hleaf, hpattern, hmiddleware⟩ := hholds.append_passing next rest s
              exact ⟨hleaf, hpattern, hmiddleware⟩
          · right
            rw [he]
            exact ⟨rfl, hbad⟩

/-! ## A run of insertions -/

theorem clashes_iff {done : List Spec} {s : Spec} :
    (s.leaf?.isSome ∧ Taken (done.map ofSpec) s.route.keys) ↔ ∃ t ∈ done, t.Clashes s := by
  constructor
  · rintro ⟨hs, t, ht, hmem⟩
    obtain ⟨t', ht', heq⟩ := List.mem_map.mp hmem
    rw [ofSpec, Placed.mk.injEq] at heq
    obtain ⟨hkeys, rfl⟩ := heq
    exact ⟨t', ht', ht, hs, hkeys⟩
  · rintro ⟨t, hmem, ht, hs, hkeys⟩
    refine ⟨hs, t, ht, ?_⟩
    rw [← hkeys]
    exact List.mem_map_of_mem hmem

/-- No two specs of the list are leaves on one node. -/
def ClashFree (specs : List Spec) : Prop := specs.Pairwise fun s t => ¬ s.Clashes t

/-- The run lemma: starting from a forest that represents some specs, the following ones are added
as well, or there is a first one that is a leaf whose place is taken. -/
theorem Represents.foldlM_cases {done : List Spec} {ns : List RouteNode}
    (h : Represents (done.map ofSpec) ns) (hdone : ClashFree done) (specs : List Spec) :
    (∃ forest, specs.foldlM (fun forest s => insert s s.route s.route.keys forest) ns = .ok forest ∧
        Represents ((done ++ specs).map ofSpec) forest ∧ ClashFree (done ++ specs)) ∨
      ∃ earlier s later, done ++ specs = earlier ++ s :: later ∧
        specs.foldlM (fun forest s => insert s s.route s.route.keys forest) ns =
          .error (.routeConflict s.path) ∧
        (∃ t ∈ earlier, t.Clashes s) ∧ ClashFree earlier := by
  -- what is represented grows by one spec a step, so the specs that are done vary
  induction specs generalizing done ns with
  | nil =>
      left
      rw [List.append_nil]
      exact ⟨ns, rfl, h, hdone⟩
  | cons s specs ih =>
      rw [List.foldlM_cons]
      rcases h.insert_cases s s.keys_ne_nil with ⟨ns', hok, hrep, hfree⟩ | ⟨he, hbad⟩
      · rw [clashes_iff] at hfree
        have hnext : Represents ((done ++ [s]).map ofSpec) ns' := by
          rw [List.map_append]
          exact hrep
        have hdone' : ClashFree (done ++ [s]) := by
          rw [ClashFree, List.pairwise_append]
          refine ⟨hdone, List.pairwise_singleton _ _, ?_⟩
          intro t ht u hu hclash
          rw [List.mem_singleton.mp hu] at hclash
          exact hfree ⟨t, ht, hclash⟩
        have hrun := ih hnext hdone'
        rw [List.append_assoc, List.singleton_append] at hrun
        rw [hok]
        exact hrun
      · right
        rw [he]
        exact ⟨done, s, specs, rfl, rfl, clashes_iff.mp hbad, hdone⟩

/-- A list of specs is built into the trie that represents it, or it is refused at the first leaf
whose place is taken. -/
theorem build_cases (specs : List Spec) :
    (∃ forest, build specs = .ok forest ∧ Represents (specs.map ofSpec) forest ∧
        ClashFree specs) ∨
      ∃ earlier s later, specs = earlier ++ s :: later ∧
        build specs = .error (.routeConflict s.path) ∧
        (∃ t ∈ earlier, t.Clashes s) ∧ ClashFree earlier :=
  @Represents.foldlM_cases [] [] Represents.nil List.Pairwise.nil specs

/-- What is built represents the specs it is built from. -/
theorem represents_of_build {specs : List Spec} {forest : List RouteNode}
    (h : build specs = .ok forest) : Represents (specs.map ofSpec) forest := by
  rcases build_cases specs with ⟨forest', hok, hrep, -⟩ | ⟨_, s, _, -, he, -⟩
  · rw [h] at hok
    cases hok
    exact hrep
  · rw [h] at he
    cases he

end RouteNode

end RouteWorks
