import RouteWorks.Proofs.Chain.Registered
import RouteWorks.Proofs.Project.Registration
import RouteWorks.Proofs.Text.Lines

/-!
# The lines of a chain

Free text gets into a chain between quotes, where line feeds are escaped, and into its comments as it is.
The comments name routes, mounts and the keys of nests (`mem_commentsAll_iff`).  Of a note only the first line
is taken; so a line of the chain has a line feed of its own exactly when the name of a mount or a key in
front of another key has one (`Router.chainOf_lines`).
-/

namespace RouteWorks

open Text Chain

theorem Spelled.unbroken {text : String} (h : Spelled text) : Unbroken text := h.not_mem (by decide)

/-! ## Lines of calls -/

namespace Element

variable {runtime : String} {layers : List Target}

theorem unbroken_line {depth : Nat} {text : String} : Unbroken (line depth text) ↔ Unbroken text := by
  have hblank : Unbroken (Text.replicate (4 * depth) " ") := by
    rw [Text.replicate, unbroken_flatten]
    intro t ht
    rw [List.eq_of_mem_replicate ht]
    exact unbroken_ofList rfl
  rw [line, unbroken_append]
  exact and_iff_right hblank

theorem unbroken_layerText {t : Target} (h : Unbroken t.text) : Unbroken (layerText t) := by
  unfold layerText
  simp only [unbroken_append]
  exact ⟨⟨unbroken_ofList rfl, h⟩, unbroken_ofList rfl⟩

theorem unbroken_of_service? {texts : List String} {service : String}
    (h : service? texts = some service) (htexts : ∀ t ∈ texts, Unbroken t) : Unbroken service := by
  rw [service?] at h
  split at h
  · cases h
  · cases h
    simp only [unbroken_append, unbroken_flatten]
    refine ⟨unbroken_ofList rfl, ?_⟩
    intro call hcall
    obtain ⟨t, ht, rfl⟩ := List.mem_map.mp hcall
    simp only [unbroken_append]
    exact ⟨⟨unbroken_ofList rfl, htexts t ht⟩, unbroken_ofList rfl⟩

theorem unbroken_layerCall (h : ∀ t ∈ layers, Unbroken t.text) : Unbroken (layerCall layers) := by
  unfold layerCall
  split
  · exact unbroken_ofList rfl
  · rename_i service hservice
    have htexts : ∀ text ∈ layers.map layerText, Unbroken text := by
      intro text htext
      obtain ⟨t, ht, rfl⟩ := List.mem_map.mp htext
      exact unbroken_layerText (h t ht)
    simp only [unbroken_append]
    exact ⟨⟨unbroken_ofList rfl, unbroken_of_service? hservice htexts⟩, unbroken_ofList rfl⟩

theorem unbroken_methodRouter (methods : List Method) {callee : String} (h : Unbroken callee) :
    Unbroken (methodRouter methods callee) := by
  have hrouting : ∀ m : Method, Unbroken m.routing := by
    intro m
    cases m <;> exact unbroken_ofList rfl
  unfold methodRouter
  cases methods with
  | nil =>
      simp only [unbroken_append]
      exact ⟨⟨unbroken_ofList rfl, h⟩, unbroken_ofList rfl⟩
  | cons m ms =>
      simp only [unbroken_append, unbroken_flatten]
      refine ⟨⟨⟨⟨⟨unbroken_ofList rfl, hrouting m⟩, unbroken_ofList rfl⟩, h⟩, unbroken_ofList rfl⟩, ?_⟩
      intro call hcall
      obtain ⟨m, -, rfl⟩ := List.mem_map.mp hcall
      simp only [unbroken_append]
      exact ⟨⟨⟨⟨unbroken_ofList rfl, hrouting m⟩, unbroken_ofList rfl⟩, h⟩, unbroken_ofList rfl⟩

theorem unbroken_callee (hruntime : Unbroken runtime) (h : Handler) {target : Target}
    (htarget : Unbroken target.text) : Unbroken (callee runtime h target) := by
  rw [callee]
  split
  · simp only [unbroken_append]
    exact ⟨⟨⟨hruntime, unbroken_ofList rfl⟩, htarget⟩, unbroken_ofList rfl⟩
  · exact htarget

theorem unbroken_mountService (m : Mount) (h : ∀ t ∈ layers, Unbroken t.text) :
    Unbroken (mountService m layers) := by
  have hfiles : Unbroken ("tower_http::services::ServeDir::new(" ++ quote m.root ++ ")"
      ++ if m.noCompress then "" else ".precompressed_gzip().precompressed_br()") := by
    simp only [unbroken_append]
    refine ⟨⟨⟨unbroken_ofList rfl, unbroken_quote m.root⟩, unbroken_ofList rfl⟩, ?_⟩
    split <;> exact unbroken_ofList rfl
  have htexts : ∀ text ∈ layers.map layerText ++ (if m.noCache then [noCacheLayer] else []),
      Unbroken text := by
    intro text htext
    rcases List.mem_append.mp htext with htext | htext
    · obtain ⟨t, ht, rfl⟩ := List.mem_map.mp htext
      exact unbroken_layerText (h t ht)
    · split at htext
      · rw [List.mem_singleton.mp htext]
        unfold noCacheLayer
        simp only [unbroken_append]
        exact ⟨unbroken_ofList rfl, unbroken_ofList rfl⟩
      · cases htext
  unfold mountService
  dsimp only
  split
  · exact hfiles
  · rename_i service hservice
    simp only [unbroken_append] at hfiles ⊢
    exact ⟨⟨⟨unbroken_of_service? hservice htexts, unbroken_ofList rfl⟩, hfiles⟩, unbroken_ofList rfl⟩

/-! ## Comments -/

mutual

/-- What the comments of a call say. -/
def comments : Element → List String
  | route h _ _ _ => [h.routeName]
  | mount m _ _ => [m.name]
  | nest key elements _ => ("/" ++ key) :: commentsAll elements

/-- What the comments of calls say. -/
def commentsAll : List Element → List String
  | [] => []
  | e :: es => comments e ++ commentsAll es

end

mutual

/-- The lines of a call stay lines if and only if its comments do. -/
theorem unbroken_lines (hruntime : Unbroken runtime) (depth : Nat) :
    ∀ e : Element, (∀ t ∈ e.targets, Unbroken t.text) →
      ((∀ l ∈ lines runtime depth e, Unbroken l) ↔ ∀ text ∈ e.comments, Unbroken text)
  | route h pattern target layers, htargets => by
      have htarget := htargets target (List.mem_append_right layers (List.mem_singleton_self target))
      have hlayers : ∀ t ∈ layers, Unbroken t.text :=
        fun t ht => htargets t (List.mem_append_left [target] ht)
      have hcall : Unbroken (".route(" ++ quote ("/" ++ pattern) ++ ", "
          ++ methodRouter h.methods (callee runtime h target) ++ layerCall layers ++ ")") := by
        simp only [unbroken_append]
        exact ⟨⟨⟨⟨⟨unbroken_ofList rfl, unbroken_quote _⟩, unbroken_ofList rfl⟩,
          unbroken_methodRouter _ (unbroken_callee hruntime h htarget)⟩, unbroken_layerCall hlayers⟩,
          unbroken_ofList rfl⟩
      have hmark : Unbroken "// " := unbroken_ofList rfl
      rw [Chain.lines_route, comments]
      simp only [List.forall_mem_cons, unbroken_line, unbroken_append, hcall, hmark, true_and, and_true,
        List.not_mem_nil, false_imp_iff, implies_true]
  | mount m key layers, hlayers => by
      have hservice := unbroken_mountService m hlayers
      have hcall : Unbroken (if key = "" then ".fallback_service(" ++ mountService m layers ++ ")"
          else ".nest_service(" ++ quote ("/" ++ key) ++ ", " ++ mountService m layers ++ ")") := by
        split
        · simp only [unbroken_append]
          exact ⟨⟨unbroken_ofList rfl, hservice⟩, unbroken_ofList rfl⟩
        · simp only [unbroken_append]
          exact ⟨⟨⟨⟨unbroken_ofList rfl, unbroken_quote _⟩, unbroken_ofList rfl⟩, hservice⟩, unbroken_ofList rfl⟩
      have hmark : Unbroken "// " := unbroken_ofList rfl
      rw [Chain.lines_mount, comments]
      simp only [List.forall_mem_cons, unbroken_line, unbroken_append, hcall, hmark, true_and, and_true,
        List.not_mem_nil, false_imp_iff, implies_true]
  | nest key elements layers, htargets => by
      have hlayers : ∀ t ∈ layers, Unbroken t.text :=
        fun t ht => htargets t (List.mem_append_left (targetsAll elements) ht)
      have hbelow := unbroken_linesAll hruntime (depth + 2) elements
        fun t ht => htargets t (List.mem_append_right layers ht)
      -- the key is quoted in the call, so only the comment above the call can be broken by it
      have hopen : Unbroken (".nest(" ++ quote ("/" ++ key) ++ ",") := by
        simp only [unbroken_append]
        exact ⟨⟨unbroken_ofList rfl, unbroken_quote _⟩, unbroken_ofList rfl⟩
      have hlayer : ∀ l ∈ (if layers.isEmpty then [] else [line (depth + 2) (layerCall layers)]),
          Unbroken l := by
        intro l hl
        split at hl
        · cases hl
        · rw [List.mem_singleton.mp hl, unbroken_line]
          exact unbroken_layerCall hlayers
      have hnew : Unbroken "axum::Router::new()" := unbroken_ofList rfl
      have hclose : Unbroken ")" := unbroken_ofList rfl
      have hmark : Unbroken "// /" ∧ Unbroken "/" := ⟨unbroken_ofList rfl, unbroken_ofList rfl⟩
      rw [Chain.lines_nest, comments]
      simp only [List.forall_mem_append, List.forall_mem_cons, unbroken_line, unbroken_append, hopen,
        hnew, hclose, hmark, hbelow, iff_true_intro hlayer, true_and, and_true, List.not_mem_nil,
        false_imp_iff, implies_true]

theorem unbroken_linesAll (hruntime : Unbroken runtime) (depth : Nat) :
    ∀ es : List Element, (∀ t ∈ targetsAll es, Unbroken t.text) →
      ((∀ l ∈ linesAll runtime depth es, Unbroken l) ↔ ∀ text ∈ commentsAll es, Unbroken text)
  | [], _ => Iff.rfl
  | e :: es, htargets => by
      have hfirst := unbroken_lines hruntime depth e
        fun t ht => htargets t (List.mem_append_left (targetsAll es) ht)
      have hrest := unbroken_linesAll hruntime depth es
        fun t ht => htargets t (List.mem_append_right e.targets ht)
      rw [linesAll, commentsAll, List.forall_mem_append, List.forall_mem_append, hfirst, hrest]

end

theorem mem_commentsAll {es : List Element} {text : String} :
    text ∈ commentsAll es ↔ ∃ e ∈ es, text ∈ e.comments := by
  induction es with
  | nil => simp [commentsAll]
  | cons e es ih => simp [commentsAll, ih]

theorem commentsAll_append (es fs : List Element) :
    commentsAll (es ++ fs) = commentsAll es ++ commentsAll fs := by
  induction es with
  | nil => rfl
  | cons e es ih => rw [List.cons_append, commentsAll, commentsAll, ih, List.append_assoc]

end Element

/-! ## What the comments of a chain say -/

namespace Placed

/-- What comments say of placed specs: the name of a leaf, or a key in front of another key. -/
def Remarks (ps : List Placed) (text : String) : Prop :=
  ∃ p ∈ ps, (p.keys ≠ [] ∧ ∃ l, p.spec.leaf? = some l ∧ l.routeName = text) ∨
    ∃ key ∈ p.keys.dropLast, "/" ++ key = text

/-- What is said of the specs below a key. -/
theorem remarks_iff {ps : List Placed} {text : String} :
    Remarks ps text ↔ ∃ key ∈ heads ps,
      (∃ s ∈ here (under key ps), ∃ l, s.leaf? = some l ∧ l.routeName = text) ∨
        heads (under key ps) ≠ [] ∧ ("/" ++ key = text ∨ Remarks (under key ps) text) := by
  constructor
  · rintro ⟨⟨ks, s⟩, hp, hremark⟩
    match ks with
    | [] =>
        rcases hremark with ⟨hne, -⟩ | ⟨key, hkey, -⟩
        · exact absurd rfl hne
        · cases hkey
    | [key] =>
        refine ⟨key, mem_heads.mpr ⟨[], s, hp⟩, Or.inl ?_⟩
        rcases hremark with ⟨-, l, hl⟩ | ⟨key, hkey, -⟩
        · exact ⟨s, mem_here.mpr (mem_under.mpr hp), l, hl⟩
        · cases hkey
    | key :: next :: ks =>
        have hbelow := mem_under.mpr hp
        refine ⟨key, mem_heads.mpr ⟨next :: ks, s, hp⟩, Or.inr ⟨?_, ?_⟩⟩
        · exact List.ne_nil_of_mem (mem_heads.mpr ⟨ks, s, hbelow⟩)
        · rcases hremark with ⟨-, l, hl⟩ | ⟨k, hk, htext⟩
          · exact Or.inr ⟨_, hbelow, Or.inl ⟨List.cons_ne_nil next ks, l, hl⟩⟩
          · rw [List.dropLast_cons_cons] at hk
            rcases List.mem_cons.mp hk with rfl | hk
            · exact Or.inl htext
            · exact Or.inr ⟨_, hbelow, Or.inr ⟨k, hk, htext⟩⟩
  · rintro ⟨key, -, ⟨s, hs, l, hl⟩ | ⟨hnext, hremark⟩⟩
    · exact ⟨_, mem_under.mp (mem_here.mp hs), Or.inl ⟨List.cons_ne_nil key [], l, hl⟩⟩
    · rcases hremark with htext | ⟨⟨ks, s⟩, hp, hremark⟩
      · obtain ⟨next, hmem⟩ := List.exists_mem_of_ne_nil _ hnext
        obtain ⟨ks, s, hp⟩ := mem_heads.mp hmem
        exact ⟨_, mem_under.mp hp, Or.inr ⟨key, List.mem_cons_self, htext⟩⟩
      · refine ⟨_, mem_under.mp hp, ?_⟩
        rcases hremark with ⟨-, l, hl⟩ | ⟨k, hk, htext⟩
        · exact Or.inl ⟨List.cons_ne_nil key ks, l, hl⟩
        · cases ks with
          | nil => cases hk
          | cons next ks => exact Or.inr ⟨k, List.mem_cons_of_mem key hk, htext⟩

end Placed

namespace ChainContext

open Placed Element

variable {ctx : ChainContext} {text : String}

theorem comments_of_leaf {key pattern : String} {layers : List Target} {l : Leaf} {e : Element}
    (h : ctx.leaf key pattern layers l = .ok e) : e.comments = [l.routeName] := by
  rcases leaf_ok h with ⟨handler, target, rfl, -, rfl⟩ | ⟨mount, rfl, rfl⟩
  · rfl
  · rfl

theorem elementsAll_ok {ns : List RouteNode} {es : List Element} (h : ctx.elementsAll ns = .ok es) :
    ∃ parts, ns.mapM ctx.elements = .ok parts ∧ es = parts.flatten := by
  induction ns generalizing es with
  | nil =>
      cases h
      exact ⟨[], rfl, rfl⟩
  | cons n ns ih =>
      obtain ⟨first, rest, hfirst, hrest, rfl⟩ := elementsAll_cons_ok h
      obtain ⟨parts, hparts, rfl⟩ := ih hrest
      refine ⟨first :: parts, ?_, rfl⟩
      rw [List.mapM_cons, hfirst, hparts]
      rfl

/-- The comments for a node: the name of its leaf, its key when there is something below, and the comments
for that. -/
theorem mem_comments_of_elements (text : String) {n : RouteNode} {es : List Element}
    (h : ctx.elements n = .ok es) (hflat : n.key = "" → n.children = []) :
    ∃ below, ctx.elementsAll n.children = .ok below ∧ (text ∈ commentsAll es ↔
      (∃ l, n.leaf = some l ∧ l.routeName = text) ∨
        n.children ≠ [] ∧ ("/" ++ n.key = text ∨ text ∈ commentsAll below)) := by
  rcases elements_ok h with ⟨hleaf, hnil, rfl⟩ | ⟨layers, own, below, -, hown, hbelow, rfl⟩
  · refine ⟨[], ?_, ?_⟩
    · rw [hnil, elementsAll]
    · simp [hleaf, hnil, commentsAll]
  · refine ⟨below, hbelow, ?_⟩
    have hleaf : text ∈ commentsAll own ↔ ∃ l, n.leaf = some l ∧ l.routeName = text := by
      rw [mem_commentsAll]
      constructor
      · rintro ⟨e, he, htext⟩
        obtain ⟨l, hl, hok⟩ := (mem_mapM_ok hown).mp he
        rw [comments_of_leaf hok, List.mem_singleton] at htext
        exact ⟨l, Option.mem_toList.mp hl, htext.symm⟩
      · rintro ⟨l, hl, rfl⟩
        obtain ⟨e, he, hok⟩ := exists_ok_of_mapM_ok hown (Option.mem_toList.mpr hl)
        refine ⟨e, he, ?_⟩
        rw [comments_of_leaf hok]
        exact List.mem_singleton_self _
    rw [commentsAll_append, List.mem_append, hleaf]
    by_cases hnil : n.children = []
    · rw [hnil] at hbelow
      cases hbelow
      simp [hnil, commentsAll]
    · -- only a node without children can have an empty key, so there is a nest with a comment of its own
      have hkey : n.key ≠ "" := fun hkey => hnil (hflat hkey)
      rw [if_neg (by simp [hnil, hkey])]
      simp [hnil, commentsAll, comments, eq_comm]

/-- The comments of a chain name the leaves, and the keys in front of other keys. -/
theorem mem_commentsAll_iff {ps : List Placed} {ns : List RouteNode}
    (h : RouteNode.Represents ps ns) (hroot : RouteNode.Rooted ps) {es : List Element}
    (hes : ctx.elementsAll ns = .ok es) : text ∈ commentsAll es ↔ Remarks ps text := by
  induction h generalizing es with
  | @intro ps ns hkeys hholds hchildren ih =>
      obtain ⟨parts, hparts, rfl⟩ := elementsAll_ok hes
      -- a node stands for the specs below its key, and its children for the ones with a further key
      have hnode : ∀ n ∈ ns, ∀ part, ctx.elements n = .ok part → (text ∈ commentsAll part ↔
          (∃ s ∈ here (under n.key ps), ∃ l, s.leaf? = some l ∧ l.routeName = text) ∨
            heads (under n.key ps) ≠ [] ∧
              ("/" ++ n.key = text ∨ Remarks (under n.key ps) text)) := by
        intro n hn part hpart
        have hrep := hchildren n hn
        obtain ⟨below, hbelow, hmem⟩ :=
          mem_comments_of_elements text hpart (hroot.children_eq_nil hrep)
        have hleaf : (∃ l, n.leaf = some l ∧ l.routeName = text) ↔
            ∃ s ∈ here (under n.key ps), ∃ l, s.leaf? = some l ∧ l.routeName = text := by
          simp only [← Option.mem_toList, (hholds n hn).leaf, List.mem_filterMap]
          constructor
          · rintro ⟨l, ⟨s, hs, hl⟩, htext⟩
            exact ⟨s, hs, l, hl, htext⟩
          · rintro ⟨s, hs, l, hl, htext⟩
            exact ⟨l, ⟨s, hs, hl⟩, htext⟩
        rw [hmem, hleaf, ih n hn (hroot.under n.key) hbelow, ne_eq, hrep.eq_nil_iff]
      rw [remarks_iff, mem_commentsAll]
      constructor
      · rintro ⟨e, he, htext⟩
        obtain ⟨part, hpart, he⟩ := List.mem_flatten.mp he
        obtain ⟨n, hn, hok⟩ := (mem_mapM_ok hparts).mp hpart
        refine ⟨n.key, ?_, (hnode n hn part hok).mp (mem_commentsAll.mpr ⟨e, he, htext⟩)⟩
        rw [← List.mem_eraseDups, ← hkeys]
        exact List.mem_map_of_mem hn
      · rintro ⟨key, hkey, hremark⟩
        rw [← List.mem_eraseDups, ← hkeys] at hkey
        obtain ⟨n, hn, rfl⟩ := List.mem_map.mp hkey
        obtain ⟨part, hpart, hok⟩ := exists_ok_of_mapM_ok hparts hn
        obtain ⟨e, he, htext⟩ := mem_commentsAll.mp ((hnode n hn part hok).mpr hremark)
        exact ⟨e, List.mem_flatten.mpr ⟨part, hpart, he⟩, htext⟩

end ChainContext

/-! ## Lines of chains -/

theorem Handler.unbroken_routeName (h : Handler) : Unbroken h.routeName := by
  rw [routeName]
  cases hline : (Text.lines h.note).head?.filter fun l => !Text.isBlankText l with
  | none => exact (spelled_canonical h.name).unbroken
  | some line =>
      rw [Option.filter_eq_some_iff] at hline
      exact unbroken_of_mem_lines (List.mem_of_head? hline.1)

namespace Router

variable {specs : List Spec} {ctx : ChainContext} {chain : Chain}

theorem remarks_ofSpec_iff {text : String} :
    Placed.Remarks (specs.map Placed.ofSpec) text ↔
      (∃ s ∈ specs, ∃ l, s.leaf? = some l ∧ l.routeName = text) ∨
        ∃ s ∈ specs, ∃ key ∈ s.route.keys.dropLast, "/" ++ key = text := by
  simp only [Placed.Remarks, List.mem_map, exists_exists_and_eq_and, Placed.ofSpec_keys,
    Placed.ofSpec_spec, ne_eq, Spec.keys_ne_nil, not_false_eq_true, true_and]
  rw [← exists_or]
  simp only [and_or_left]

theorem remarks_unbroken_iff :
    (∀ text, Placed.Remarks (specs.map Placed.ofSpec) text → Unbroken text) ↔
      (∀ m, .mount m ∈ specs → Unbroken m.name) ∧
        ∀ s ∈ specs, ∀ key ∈ s.route.keys.dropLast, Unbroken key := by
  have hkey : ∀ key, Unbroken ("/" ++ key) ↔ Unbroken key := by
    intro key
    rw [unbroken_append]
    exact and_iff_right (unbroken_ofList rfl)
  simp only [remarks_ofSpec_iff]
  constructor
  · intro h
    refine ⟨?_, ?_⟩
    · intro m hm
      exact h m.name (Or.inl ⟨.mount m, hm, .mount m, rfl, rfl⟩)
    · intro s hs key hmem
      exact (hkey key).mp (h _ (Or.inr ⟨s, hs, key, hmem, rfl⟩))
  · rintro ⟨hmounts, hkeys⟩ _ (⟨s, hs, l, hl, rfl⟩ | ⟨s, hs, key, hmem, rfl⟩)
    · cases s with
      | handler h =>
          cases hl
          exact h.unbroken_routeName
      | middleware m => cases hl
      | mount m =>
          cases hl
          exact hmounts m hs
    · exact (hkey key).mpr (hkeys s hs key hmem)

/-- With a runtime on one line, only the name of a mount or a key in front of another key can break a line
of a chain; notes, locations, served directories, and all that a pattern holds, cannot.  The text of a
chain has the lines of the chain exactly when no line is broken, and then it is read as what the specs
register and nothing else. -/
theorem chainOf_lines (h : chainOf specs ctx = .ok chain) (hruntime : Unbroken ctx.runtime) :
    ((∀ line ∈ chain.lines, Unbroken line) ↔
      (∀ m, .mount m ∈ specs → Unbroken m.name) ∧
        ∀ s ∈ specs, ∀ key ∈ s.route.keys.dropLast, Unbroken key) ∧
    (chain.lines ≠ [] → (lineParts chain.text = chain.lines ↔ ∀ line ∈ chain.lines, Unbroken line)) ∧
    (chain.lines ≠ [] → (∀ line ∈ chain.lines, Unbroken line) →
      ∃ services expected, readChain ctx.runtime (lineParts chain.text) = some services ∧
        (leaves specs).mapM (wrapped ctx specs) = .ok expected ∧ services.Perm expected) := by
  obtain ⟨services, expected, hread, hexpected, hperm⟩ := readChain_chainOf h
  obtain ⟨forest, hforest, h⟩ := bind_eq_ok h
  obtain ⟨elements, helements, h⟩ := bind_eq_ok h
  cases h
  have hparts : ∀ {lines : List String}, lines ≠ [] →
      lineParts (join "\n" lines) = lines.flatMap lineParts := fun hne => lineParts_join hne
  refine ⟨?_, ?_, ?_⟩
  · -- names of modules and items have no line feeds, so what is left are the comments
    have htargets : ∀ t ∈ Element.targetsAll elements, Unbroken t.text :=
      fun t ht => (ChainContext.spelled_of_elementsAll forest helements t ht).unbroken
    rw [Element.unbroken_linesAll hruntime 1 elements htargets, ← remarks_unbroken_iff]
    refine forall_congr' fun text => ?_
    rw [ChainContext.mem_commentsAll_iff (RouteNode.represents_of_build hforest)
      (RouteNode.rooted_ofSpec specs) helements]
  · intro hne
    rw [Chain.text, hparts hne, flatMap_lineParts_eq_iff]
  · intro hne hlines
    refine ⟨services, expected, ?_, hexpected, hperm⟩
    rw [Chain.text, hparts hne, flatMap_lineParts hlines]
    exact hread

theorem chainOf_lines_guarded :
    chainOf RouteNode.guardedSpecs guardedContext = .ok guardedChain ∧
      (∀ line ∈ guardedChain.lines, Unbroken line) ∧
      lineParts guardedChain.text = guardedChain.lines := by
  have hruntime : Unbroken guardedContext.runtime := unbroken_ofList rfl
  obtain ⟨hlines, htext, -⟩ := chainOf_lines chainOf_guarded hruntime
  have hmounts : ∀ m, .mount m ∈ RouteNode.guardedSpecs → Unbroken m.name := by
    intro m hm
    simp only [RouteNode.guardedSpecs, List.mem_cons, reduceCtorEq, Spec.mount.injEq, List.not_mem_nil,
      or_false, false_or] at hm
    rw [hm]
    decide
  have hkeys : ∀ s ∈ RouteNode.guardedSpecs, ∀ key ∈ s.route.keys.dropLast, Unbroken key := by
    decide
  have hunbroken := hlines.mpr ⟨hmounts, hkeys⟩
  exact ⟨chainOf_guarded, hunbroken, (htext (List.cons_ne_nil _ _)).mpr hunbroken⟩

/-- A directory under a name that goes on in a second line. -/
def filesMount : Mount :=
  { path := "/files"
    name := "files\n    .route(\"/admin\", axum::routing::any(admin))"
    root := "./files" }

/-- A router for this directory. -/
def filesRouter : Router :=
  { name := ⟨"Files", by decide, by decide⟩
    location := ⟨["app", "src", "router"]⟩
    specs := [.mount filesMount] }

theorem filesRouter_registered : filesRouter.Registered := by
  refine .mount (x := filesMount) (.declare "Files" rfl) (addMount_eq_ok_iff.mpr ⟨⟨?_, ?_⟩, rfl⟩)
  · decide
  · rintro _ _ ⟨⟩

theorem exists_filesChain : ∃ chain, filesRouter.chain none "web" = .ok chain ∧
    "    // files\n    .route(\"/admin\", axum::routing::any(admin))" ∈ chain.lines := by
  have hlines : (filesRouter.chain none "web").toOption.map Chain.lines =
      some ["    // files\n    .route(\"/admin\", axum::routing::any(admin))",
        "    .nest_service(\"/files\", tower_http::services::ServeDir::new(\"./files\")"
          ++ ".precompressed_gzip().precompressed_br())"] := by
    decide +kernel
  obtain ⟨chain, hchain, heq⟩ := exists_ok_of_toOption hlines
  refine ⟨chain, hchain, ?_⟩
  rw [heq]
  exact List.mem_cons_self

/-- The name of a mount can break a line. -/
theorem not_unbroken_files :
    ¬ ∀ (r : Router) (entry : Option Location) (runtime : String) (chain : Chain), r.Registered →
      Unbroken runtime → r.chain entry runtime = .ok chain → ∀ line ∈ chain.lines, Unbroken line := by
  intro h
  obtain ⟨chain, hchain, hmem⟩ := exists_filesChain
  have hline := h filesRouter none "web" chain filesRouter_registered (unbroken_ofList rfl) hchain _ hmem
  exact absurd hline (by decide)

end Router

end RouteWorks
