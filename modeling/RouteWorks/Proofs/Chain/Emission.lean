import RouteWorks.Proofs.Chain.Running
import RouteWorks.Proofs.Fallible
import RouteWorks.Proofs.Route.Represents
import RouteWorks.Proofs.Source.Reference

/-!
# What the elements of a node are

Emission can fail only where an item cannot be named.  Where it succeeds, a node gives its leaf and the
nest of what is below it (`elements_ok`), and the items that are named are spelled with name characters and
colons (`spelled_of_elementsAll`), so without brackets.
-/

namespace RouteWorks

/-! ## How items are spelled -/

/-- A text of name characters, underscores and colons. -/
def Spelled (text : String) : Prop := ∀ c ∈ text.toList, (Name.isSnakeChar c || c == ':') = true

namespace Spelled

theorem not_mem {text : String} (h : Spelled text) {c : Char}
    (hc : (Name.isSnakeChar c || c == ':') = false) : c ∉ text.toList := by
  intro hmem
  rw [h c hmem] at hc
  cases hc

theorem plain {text : String} (h : Spelled text) : Plain text := by
  intro c hc
  refine ⟨?_, ?_, ?_⟩
  all_goals
    rintro rfl
    exact absurd hc (h.not_mem (by decide))

/-- A text that is written out is looked through. -/
theorem of_all {text : String} (h : text.toList.all (fun c => Name.isSnakeChar c || c == ':') = true) :
    Spelled text := fun c hc => List.all_eq_true.mp h c hc

theorem append {a b : String} (ha : Spelled a) (hb : Spelled b) : Spelled (a ++ b) := by
  intro c hc
  rw [String.toList_append] at hc
  rcases List.mem_append.mp hc with hc | hc
  · exact ha c hc
  · exact hb c hc

theorem of_isSnakeChar {s : String} (h : ∀ c ∈ s.toList, Name.isSnakeChar c = true) : Spelled s := by
  intro c hc
  rw [h c hc, Bool.true_or]

theorem of_isModuleName {name : String} (h : Name.isModuleName name = true) : Spelled name := by
  refine of_isSnakeChar ?_
  intro c hc
  have hword := Name.wordChar_of_isModuleName h c hc
  rw [Bool.or_eq_true] at hword
  rw [Name.isSnakeChar, Text.isNameChar, Bool.or_eq_true, Bool.or_eq_true]
  exact hword.imp_left Or.inr

end Spelled

theorem spelled_canonical (i : Identifier) : Spelled i.canonical := by
  refine Spelled.of_isSnakeChar ?_
  intro c hc
  rw [Name.isSnakeChar, List.all_eq_true.mp i.nameChars c hc, Bool.true_or]

theorem spelled_snake (i : Identifier) : Spelled i.snake :=
  Spelled.of_isSnakeChar fun _ hc => Identifier.isSnakeChar_of_mem_snake hc

theorem spelled_qualifier {target owner : Location} {entry : Option Location} {r : ModuleReference}
    (h : ModuleReference.resolve target owner entry = .ok r) : Spelled r.qualifier := by
  rw [ModuleReference.qualifier_eq h]
  split
  · exact Spelled.of_all (by decide)
  · split
    · exact Spelled.of_all (by decide)
    · rename_i hentry
      obtain ⟨modules, hmodules⟩ := ModuleReference.exists_modules h hentry
      exact (Spelled.of_isModuleName (Location.isModuleName_last hmodules)).append (.of_all (by decide))

namespace ChainContext

variable {ctx : ChainContext}

theorem spelled_of_target {location : Location} {item : String} {t : Target}
    (h : ctx.target location item = .ok t) (hitem : Spelled item) : Spelled t.text := by
  rw [target] at h
  cases hr : ModuleReference.resolve location ctx.owner ctx.entry with
  | error e =>
      rw [hr] at h
      cases h
  | ok r =>
      rw [hr] at h
      cases h
      exact (spelled_qualifier hr).append hitem

/-! ## Elements of a node -/

/-- The calls of a node in one line: its leaf, and the nest of its children. -/
theorem elements_eq (n : RouteNode) :
    ctx.elements n = if n.leaf = none ∧ n.children = [] then .ok [] else do
      let layers ← ctx.layers n.middleware
      let own ← n.leaf.toList.mapM (ctx.leaf n.key n.pattern layers)
      let below ← ctx.elementsAll n.children
      return own ++ if n.children = [] ∨ n.key = "" then below else [.nest n.key below layers] := by
  obtain ⟨key, pattern, leaf, middleware, children⟩ := n
  rw [elements]
  cases children with
  | nil =>
      cases leaf with
      | none =>
          -- nothing to call, whether there is middleware or not
          cases middleware with
          | nil => rfl
          | cons m ms => rfl
      | some l =>
          rw [if_neg (by simp), if_neg (by simp)]
          refine bind_congr fun layers => ?_
          dsimp only
          rw [Option.toList_some, List.mapM_cons]
          cases ctx.leaf key pattern layers l <;> rfl
  | cons child children =>
      rw [if_neg (by simp), if_neg (by simp)]
      refine bind_congr fun layers => ?_
      cases leaf with
      | none =>
          simp only [reduceCtorEq, false_or]
          rfl
      | some l =>
          simp only [reduceCtorEq, false_or, Option.toList_some, List.mapM_cons]
          cases ctx.leaf key pattern layers l <;> rfl

/-- A node without leaf and children gives nothing.  Any other node names its middleware, and gives
its leaf and then the nest of its children; the children of the root slot are not nested. -/
theorem elements_ok {n : RouteNode} {es : List Element} (h : ctx.elements n = .ok es) :
    (n.leaf = none ∧ n.children = [] ∧ es = []) ∨
      ∃ layers own below, ctx.layers n.middleware = .ok layers ∧
        n.leaf.toList.mapM (ctx.leaf n.key n.pattern layers) = .ok own ∧
        ctx.elementsAll n.children = .ok below ∧
        es = own ++ if n.children = [] ∨ n.key = "" then below else [.nest n.key below layers] := by
  rw [elements_eq] at h
  split at h
  · rename_i hskip
    cases h
    exact Or.inl ⟨hskip.1, hskip.2, rfl⟩
  · obtain ⟨layers, hlayers, h⟩ := bind_eq_ok h
    obtain ⟨own, hown, h⟩ := bind_eq_ok h
    obtain ⟨below, hbelow, h⟩ := bind_eq_ok h
    exact Or.inr ⟨layers, own, below, hlayers, hown, hbelow, (Except.ok.inj h).symm⟩

theorem elementsAll_cons_ok {n : RouteNode} {ns : List RouteNode} {es : List Element}
    (h : ctx.elementsAll (n :: ns) = .ok es) :
    ∃ first rest, ctx.elements n = .ok first ∧ ctx.elementsAll ns = .ok rest ∧
      es = first ++ rest := by
  rw [elementsAll] at h
  obtain ⟨first, hfirst, h⟩ := bind_eq_ok h
  obtain ⟨rest, hrest, h⟩ := bind_eq_ok h
  cases h
  exact ⟨first, rest, hfirst, hrest, rfl⟩

/-- What a handler is named by. -/
def handlerItem (h : Handler) : String :=
  if h.fields.isSome then h.name.canonical else h.name.snake

theorem leaf_ok {key pattern : String} {layers : List Target} {l : Leaf} {e : Element}
    (h : ctx.leaf key pattern layers l = .ok e) :
    (∃ handler target, l = .handler handler ∧
        ctx.target handler.location (handlerItem handler) = .ok target ∧
        e = .route handler pattern target layers) ∨
      ∃ mount, l = .mount mount ∧ e = .mount mount key layers := by
  cases l with
  | handler handler =>
      obtain ⟨target, htarget, h⟩ := bind_eq_ok h
      cases h
      exact Or.inl ⟨handler, target, rfl, htarget, rfl⟩
  | mount mount =>
      cases h
      exact Or.inr ⟨mount, rfl, rfl⟩

/-! ## How the items of elements are spelled -/

theorem spelled_of_layers {ms : List Middleware} {layers : List Target}
    (h : ctx.layers ms = .ok layers) : ∀ t ∈ layers, Spelled t.text := by
  intro t ht
  obtain ⟨m, -, hm⟩ := (mem_mapM_ok h).mp ht
  exact spelled_of_target hm (spelled_snake m.name)

theorem spelled_of_leaf {key pattern : String} {layers : List Target} {l : Leaf} {e : Element}
    (h : ctx.leaf key pattern layers l = .ok e) (hlayers : ∀ t ∈ layers, Spelled t.text) :
    ∀ t ∈ e.targets, Spelled t.text := by
  rcases leaf_ok h with ⟨handler, target, -, htarget, rfl⟩ | ⟨mount, -, rfl⟩
  · have hitem : Spelled (handlerItem handler) := by
      rw [handlerItem]
      split
      · exact spelled_canonical handler.name
      · exact spelled_snake handler.name
    intro t ht
    rcases List.mem_append.mp ht with ht | ht
    · exact hlayers t ht
    · rw [List.mem_singleton.mp ht]
      exact spelled_of_target htarget hitem
  · exact hlayers

theorem mem_targetsAll {es : List Element} {t : Target} :
    t ∈ Element.targetsAll es ↔ ∃ e ∈ es, t ∈ e.targets := by
  induction es with
  | nil => simp [Element.targetsAll]
  | cons e es ih => simp [Element.targetsAll, ih]

mutual

theorem spelled_of_elements :
    ∀ (n : RouteNode) {es : List Element}, ctx.elements n = .ok es →
      ∀ t ∈ Element.targetsAll es, Spelled t.text
  | ⟨key, pattern, leaf, middleware, children⟩, es, h => by
      rcases elements_ok h with ⟨-, -, rfl⟩ | ⟨layers, own, below, hlayers, hown, hbelow, rfl⟩
      · intro t ht
        cases ht
      · have hguards := spelled_of_layers hlayers
        have hchildren := spelled_of_elementsAll children hbelow
        intro t ht
        obtain ⟨e, he, ht⟩ := mem_targetsAll.mp ht
        rcases List.mem_append.mp he with he | he
        · obtain ⟨l, -, hl⟩ := (mem_mapM_ok hown).mp he
          exact spelled_of_leaf hl hguards t ht
        · split at he
          · exact hchildren t (mem_targetsAll.mpr ⟨e, he, ht⟩)
          · rw [List.mem_singleton.mp he] at ht
            rcases List.mem_append.mp ht with ht | ht
            · exact hguards t ht
            · exact hchildren t ht

theorem spelled_of_elementsAll :
    ∀ (ns : List RouteNode) {es : List Element}, ctx.elementsAll ns = .ok es →
      ∀ t ∈ Element.targetsAll es, Spelled t.text
  | [], es, h => by
      cases h
      intro t ht
      cases ht
  | n :: ns, es, h => by
      obtain ⟨first, rest, hfirst, hrest, rfl⟩ := elementsAll_cons_ok h
      intro t ht
      obtain ⟨e, he, ht⟩ := mem_targetsAll.mp ht
      rcases List.mem_append.mp he with he | he
      · exact spelled_of_elements n hfirst t (mem_targetsAll.mpr ⟨e, he, ht⟩)
      · exact spelled_of_elementsAll ns hrest t (mem_targetsAll.mpr ⟨e, he, ht⟩)

end

/-- No item has brackets. -/
theorem clear_of_elementsAll (ns : List RouteNode) {es : List Element}
    (h : ctx.elementsAll ns = .ok es) : ∀ t ∈ Element.targetsAll es, Plain t.text :=
  fun t ht => (spelled_of_elementsAll ns h t ht).plain

end ChainContext

end RouteWorks
