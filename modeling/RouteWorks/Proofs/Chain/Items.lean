import RouteWorks.Proofs.Chain.Registered

/-!
# What a route tree names

Emission names the items of a route tree one after another: the middleware of a node, then its
handler, then what the children name.  It fails at the first item that cannot be named, and otherwise
the calls of the chain name these items and no others (`elementsAll_agrees`).  Which items they are can
be said of the specs alone: every handler, and the middleware that a leaf or a longer path stands below
(`mem_itemsAll_iff`).
-/

namespace RouteWorks

/-! ## Items -/

/-- An item and the location that declares it. -/
abbrev Item : Type := Location × String

def Middleware.item (m : Middleware) : Item := (m.location, m.name.snake)

/-- The item that answers the requests of a leaf; a mount needs none. -/
def Leaf.item? : Leaf → Option Item
  | handler h => some (h.location, ChainContext.handlerItem h)
  | mount _ => none

/-- The item that a spec declares. -/
def Spec.item? : Spec → Option Item
  | handler h => some (h.location, ChainContext.handlerItem h)
  | middleware m => some m.item
  | mount _ => none

namespace RouteNode

mutual

/-- What is named for a node, in the order in which it is named.  Nothing is named for middleware that
has nothing to wrap. -/
def items : RouteNode → List Item
  | ⟨_, _, leaf, middleware, children⟩ =>
    if leaf.isNone && children.isEmpty then []
    else middleware.map Middleware.item ++ ((leaf.bind Leaf.item?).toList ++ itemsAll children)

def itemsAll : List RouteNode → List Item
  | [] => []
  | n :: ns => items n ++ itemsAll ns

end

theorem items_eq (n : RouteNode) :
    n.items = if n.leaf = none ∧ n.children = [] then []
      else n.middleware.map Middleware.item
        ++ ((n.leaf.bind Leaf.item?).toList ++ itemsAll n.children) := by
  obtain ⟨key, pattern, leaf, middleware, children⟩ := n
  rw [items]
  simp only [Bool.and_eq_true, Option.isNone_iff_eq_none, List.isEmpty_iff]

end RouteNode

/-! ## Emission names the items -/

namespace ChainContext

variable {ctx : ChainContext}

/-- An item, seen from the module of the router. -/
def name (ctx : ChainContext) (x : Item) : Except Fault Target := ctx.target x.1 x.2

theorem layers_eq (ms : List Middleware) :
    ctx.layers ms = (ms.map Middleware.item).mapM ctx.name := by
  rw [layers, List.mapM_map]
  rfl

/-- Calls that name exactly some targets. -/
def NamesAll (es : List Element) (ts : List Target) : Prop :=
  ∀ t, t ∈ Element.targetsAll es ↔ t ∈ ts

theorem targetsAll_append (es fs : List Element) :
    Element.targetsAll (es ++ fs) = Element.targetsAll es ++ Element.targetsAll fs := by
  induction es with
  | nil => rfl
  | cons e es ih => rw [List.cons_append, Element.targetsAll, Element.targetsAll, ih,
      List.append_assoc]

/-- A leaf names its item besides the layers around it. -/
theorem leaf_agrees (key pattern : String) (layers : List Target) (l : Leaf) :
    Agrees (fun e ts => ∀ t, t ∈ Element.targets e ↔ t ∈ layers ∨ t ∈ ts)
      (ctx.leaf key pattern layers l) (l.item?.toList.mapM ctx.name) := by
  cases l with
  | handler h =>
      rw [leaf, Leaf.item?, Option.toList_some, List.mapM_cons]
      refine (Agrees.refl (ctx.target h.location (handlerItem h))).bind ?_
      rintro target _ rfl
      refine .ok ?_
      intro t
      rw [Element.targets, List.mem_append]
      exact Iff.rfl
  | mount m =>
      refine .ok ?_
      intro t
      rw [Element.targets]
      simp

theorem own_agrees (key pattern : String) (layers : List Target) (leaf : Option Leaf) :
    Agrees
      (fun own ts => ∀ t, t ∈ Element.targetsAll own ↔ leaf ≠ none ∧ t ∈ layers ∨ t ∈ ts)
      (leaf.toList.mapM (ctx.leaf key pattern layers))
      ((leaf.bind Leaf.item?).toList.mapM ctx.name) := by
  cases leaf with
  | none =>
      refine .ok ?_
      intro t
      simp [Element.targetsAll]
  | some l =>
      rw [Option.toList_some, List.mapM_cons, ← bind_pure ((Option.bind _ _).toList.mapM ctx.name)]
      refine (leaf_agrees key pattern layers l).bind ?_
      intro e ts h
      refine .ok ?_
      intro t
      simp [Element.targetsAll, h t]

/-- The calls of a node name its items, once those of its children do. -/
theorem elements_agrees {n : RouteNode} (hflat : n.key = "" → n.children = [])
    (hchildren : Agrees NamesAll (ctx.elementsAll n.children)
      ((RouteNode.itemsAll n.children).mapM ctx.name)) :
    Agrees NamesAll (ctx.elements n) (n.items.mapM ctx.name) := by
  rw [elements_eq, n.items_eq]
  split
  · exact .ok fun t => Iff.rfl
  · rename_i hsome
    rw [List.mapM_append, List.mapM_append, layers_eq]
    refine (Agrees.refl _).bind ?_
    rintro layers _ rfl
    rw [bind_assoc]
    refine (own_agrees n.key n.pattern layers n.leaf).bind ?_
    intro own ownTargets hown
    rw [bind_assoc]
    refine hchildren.bind ?_
    intro below belowTargets hbelow
    refine .ok ?_
    intro t
    rw [targetsAll_append, List.mem_append, hown t]
    -- the layers stand around the leaf or around the nest, and one of the two is there
    split
    · rename_i hopen
      have hnil : n.children = [] := hopen.elim id hflat
      have hleaf : n.leaf ≠ none := fun h => hsome ⟨h, hnil⟩
      simp only [hbelow t, List.mem_append, ne_eq, hleaf, not_false_eq_true, true_and]
      tauto
    · simp only [Element.targetsAll, Element.targets, List.append_nil, List.mem_append, hbelow t]
      tauto

theorem elementsAll_agrees_of_forall {ns : List RouteNode}
    (h : ∀ n ∈ ns, Agrees NamesAll (ctx.elements n) (n.items.mapM ctx.name)) :
    Agrees NamesAll (ctx.elementsAll ns) ((RouteNode.itemsAll ns).mapM ctx.name) := by
  induction ns with
  | nil =>
      rw [elementsAll, RouteNode.itemsAll]
      exact .ok fun t => Iff.rfl
  | cons n ns ih =>
      rw [elementsAll, RouteNode.itemsAll, List.mapM_append]
      refine (h n List.mem_cons_self).bind ?_
      intro first firstTargets hfirst
      refine (ih fun m hm => h m (List.mem_cons_of_mem n hm)).bind ?_
      intro rest restTargets hrest
      refine .ok ?_
      intro t
      rw [targetsAll_append, List.mem_append, List.mem_append, hfirst t, hrest t]

/-- Emission fails at the first item of a forest that cannot be named, or the calls name exactly the
items of the forest. -/
theorem elementsAll_agrees {ps : List Placed} {ns : List RouteNode}
    (h : RouteNode.Represents ps ns) (hroot : RouteNode.Rooted ps) :
    Agrees NamesAll (ctx.elementsAll ns) ((RouteNode.itemsAll ns).mapM ctx.name) := by
  induction h with
  | @intro ps ns hkeys hholds hchildren ih =>
      refine elementsAll_agrees_of_forall ?_
      intro n hn
      exact elements_agrees (hroot.children_eq_nil (hchildren n hn)) (ih n hn (hroot.under n.key))

end ChainContext

/-! ## The items of a list of specs -/

namespace Placed

/-- A node at some keys is written: a leaf ends there, or a path goes on below. -/
def Written (ps : List Placed) (keys : List String) : Prop :=
  ∃ p ∈ ps, keys <+: p.keys ∧ (p.spec.leaf?.isSome ∨ p.keys ≠ keys)

theorem written_under {ps : List Placed} {key : String} {keys : List String} :
    Written (under key ps) keys ↔ Written ps (key :: keys) := by
  constructor
  · rintro ⟨⟨ks, s⟩, hp, hfront, hmore⟩
    refine ⟨⟨key :: ks, s⟩, mem_under.mp hp, List.cons_prefix_cons.mpr ⟨rfl, hfront⟩, ?_⟩
    refine hmore.imp_right fun hne heq => hne ?_
    exact (List.cons.inj heq).2
  · rintro ⟨⟨ks, s⟩, hp, hfront, hmore⟩
    cases ks with
    | nil => exact absurd (List.prefix_nil.mp hfront) (List.cons_ne_nil _ _)
    | cons k ks =>
        obtain ⟨rfl, hbelow⟩ := List.cons_prefix_cons.mp hfront
        refine ⟨⟨ks, s⟩, mem_under.mpr hp, hbelow, ?_⟩
        exact hmore.imp_right fun hne heq => hne (congrArg (key :: ·) heq)

/-- An item is named for a spec whose node is written. -/
def Named (ps : List Placed) (x : Item) : Prop :=
  ∃ p ∈ ps, p.keys ≠ [] ∧ p.spec.item? = some x ∧ Written ps p.keys

end Placed

namespace RouteNode

open Placed

variable {qs : List Placed} {n : RouteNode}

/-- A node is written unless it has neither leaf nor children. -/
theorem written_nil_iff (hholds : Holds qs n) (hrep : Represents qs n.children) :
    Written qs [] ↔ ¬ (n.leaf = none ∧ n.children = []) := by
  have hchildren : (∃ p ∈ qs, p.keys ≠ []) ↔ n.children ≠ [] := by
    rw [ne_eq, hrep.eq_nil_iff, List.eq_nil_iff_forall_not_mem, not_forall]
    simp only [not_not, mem_heads]
    constructor
    · rintro ⟨⟨ks, s⟩, hp, hne⟩
      cases ks with
      | nil => exact absurd rfl hne
      | cons k ks => exact ⟨k, ks, s, hp⟩
    · rintro ⟨k, ks, s, hp⟩
      exact ⟨_, hp, List.cons_ne_nil k ks⟩
  rw [not_and_or, ← ne_eq n.children, ← hchildren, ← ne_eq, Option.ne_none_iff_isSome,
    ← hholds.taken_iff]
  constructor
  · rintro ⟨⟨ks, s⟩, hp, -, hmore⟩
    by_cases hks : ks = []
    · subst hks
      exact Or.inl ⟨s, hmore.resolve_right (fun h => h rfl), hp⟩
    · exact Or.inr ⟨_, hp, hks⟩
  · rintro (⟨s, hs, hp⟩ | ⟨p, hp, hne⟩)
    · exact ⟨_, hp, List.nil_prefix, Or.inl hs⟩
    · exact ⟨p, hp, List.nil_prefix, Or.inr hne⟩

/-- What is held by a node is named by the specs that end there. -/
theorem mem_here_items_iff (hholds : Holds qs n) {x : Item} :
    x ∈ n.middleware.map Middleware.item ++ (n.leaf.bind Leaf.item?).toList ↔
      ∃ s ∈ here qs, s.item? = some x := by
  have hleaf : (n.leaf.bind Leaf.item?).toList = n.leaf.toList.filterMap Leaf.item? := by
    cases n.leaf with
    | none => rfl
    | some l => cases l <;> rfl
  rw [hleaf, hholds.middleware, hholds.leaf, List.map_filterMap, List.filterMap_filterMap,
    List.mem_append, List.mem_filterMap, List.mem_filterMap]
  constructor
  · rintro (⟨s, hs, hx⟩ | ⟨s, hs, hx⟩)
    · refine ⟨s, hs, ?_⟩
      cases s <;> cases hx
      rfl
    · refine ⟨s, hs, ?_⟩
      cases s with
      | handler h => exact hx
      | middleware m => cases hx
      | mount m => cases hx
  · rintro ⟨s, hs, hx⟩
    cases s with
    | handler h => exact Or.inr ⟨_, hs, hx⟩
    | middleware m => exact Or.inl ⟨_, hs, hx⟩
    | mount m => cases hx

/-- What is named for a node, once the items of its children are known. -/
theorem mem_items_iff (hholds : Holds qs n) (hrep : Represents qs n.children)
    (hchildren : ∀ x, x ∈ itemsAll n.children ↔ Named qs x) (x : Item) :
    x ∈ n.items ↔ ∃ q ∈ qs, q.spec.item? = some x ∧ Written qs q.keys := by
  have hsplit : (∃ q ∈ qs, q.spec.item? = some x ∧ Written qs q.keys) ↔
      (∃ s ∈ here qs, s.item? = some x) ∧ Written qs [] ∨ Named qs x := by
    constructor
    · rintro ⟨⟨ks, s⟩, hq, hx, hwritten⟩
      by_cases hks : ks = []
      · subst hks
        exact Or.inl ⟨⟨s, mem_here.mpr hq, hx⟩, hwritten⟩
      · exact Or.inr ⟨_, hq, hks, hx, hwritten⟩
    · rintro (⟨⟨s, hs, hx⟩, hwritten⟩ | ⟨q, hq, -, hx, hwritten⟩)
      · exact ⟨_, mem_here.mp hs, hx, hwritten⟩
      · exact ⟨q, hq, hx, hwritten⟩
  rw [hsplit, ← mem_here_items_iff hholds, written_nil_iff hholds hrep, ← hchildren, n.items_eq]
  by_cases hskip : n.leaf = none ∧ n.children = []
  · rw [if_pos hskip]
    simp [hskip, itemsAll]
  · rw [if_neg hskip, ← List.append_assoc, List.mem_append]
    simp only [hskip, not_false_eq_true, and_true]

/-- The items of a forest are those that its specs have named. -/
theorem mem_itemsAll_iff {ps : List Placed} {ns : List RouteNode} (h : Represents ps ns) (x : Item) :
    x ∈ itemsAll ns ↔ Named ps x := by
  induction h generalizing x with
  | @intro ps ns hkeys hholds hchildren ih =>
      -- only the nodes go into this induction, a part of a forest represents nothing by itself
      have hnodes : x ∈ itemsAll ns ↔ ∃ n ∈ ns, x ∈ n.items := by
        clear hkeys hholds hchildren ih
        induction ns with
        | nil => simp [itemsAll]
        | cons n ns ih => simp [itemsAll, ih]
      have hnode : ∀ n ∈ ns, (x ∈ n.items ↔
          ∃ q ∈ under n.key ps, q.spec.item? = some x ∧ Written (under n.key ps) q.keys) :=
        fun n hn => mem_items_iff (hholds n hn) (hchildren n hn) (ih n hn) x
      rw [hnodes]
      constructor
      · rintro ⟨n, hn, hx⟩
        obtain ⟨⟨ks, s⟩, hq, hx, hwritten⟩ := (hnode n hn).mp hx
        exact ⟨_, mem_under.mp hq, List.cons_ne_nil _ _, hx, written_under.mp hwritten⟩
      · rintro ⟨⟨ks, s⟩, hp, hne, hx, hwritten⟩
        cases ks with
        | nil => exact absurd rfl hne
        | cons k ks =>
            have hkey : k ∈ ns.map (·.key) := by
              rw [hkeys, List.mem_eraseDups]
              exact mem_heads.mpr ⟨ks, s, hp⟩
            obtain ⟨n, hn, rfl⟩ := List.mem_map.mp hkey
            exact ⟨n, hn, (hnode n hn).mpr ⟨_, mem_under.mpr hp, hx, written_under.mpr hwritten⟩⟩

end RouteNode

end RouteWorks
