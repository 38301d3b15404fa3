import RouteWorks.Proofs.Chain.Scope

/-!
# Services and nests in a chain

Layers stand around the services of a chain and around its nests.  Both are read here from the lines of a
chain, each with the nests that it stands in and the functions in its layers (`readStations`).  The nodes of
a route tree say which they are: a leaf gives a service, and a node with children gives a nest
(`RouteNode.stations_of_elementsAll`).
-/

namespace RouteWorks

open Text

/-! ## Runs that give nothing or something -/

section Runs

variable {α β : Type}

theorem mapM_append_of_some {f : α → Option β} {xs ys : List α} {as bs : List β}
    (hxs : xs.mapM f = some as) (hys : ys.mapM f = some bs) : (xs ++ ys).mapM f = some (as ++ bs) := by
  rw [List.mapM_append, hxs, hys]
  rfl

theorem foldlM_append_of_some {f : β → α → Option β} {xs ys : List α} {b b' b'' : β}
    (hxs : xs.foldlM f b = some b') (hys : ys.foldlM f b' = some b'') :
    (xs ++ ys).foldlM f b = some b'' := by
  rw [List.foldlM_append, hxs]
  exact hys

end Runs

namespace Chain

/-! ## Calls of an element -/

mutual

/-- The calls that an element is written as. -/
def calls : Element → List Call
  | .route h pattern target layers =>
      [.comment, .route ("/" ++ pattern) (answers h.methods (callee h target) (guards layers))]
  | .mount m key layers =>
      [.comment, if key = "" then .fallback (served m (guards layers))
        else .mount ("/" ++ key) (served m (guards layers))]
  | .nest key elements layers =>
      [.comment, .nest ("/" ++ key), .create] ++ callsAll elements
        ++ (if layers.isEmpty then [] else [.layer (guards layers)]) ++ [.close]

/-- The calls that elements are written as. -/
def callsAll : List Element → List Call
  | [] => []
  | e :: es => calls e ++ callsAll es

end

variable {runtime : String}

mutual

/-- The lines of an element are read as its calls. -/
theorem readCalls_lines (depth : Nat) :
    ∀ e : Element, Clear e →
      (Element.lines runtime depth e).mapM (readCall runtime) = some (calls e)
  | .route h pattern target layers, hclear => by
      have htarget : Plain target.text :=
        hclear target (List.mem_append_right layers (List.mem_singleton_self target))
      have hlayers : ∀ t ∈ layers, Plain t.text :=
        fun t ht => hclear t (List.mem_append_left [target] ht)
      simp [lines_route, calls, readCall_comment, readCall_route runtime depth h pattern htarget hlayers]
  | .mount m key layers, hclear => by
      have hlayers : ∀ l ∈ (served m (guards layers)).layers, l.Readable := readable_served hclear
      rw [lines_mount, mountService_text, calls]
      by_cases hkey : key = ""
      · simp [hkey, readCall_comment, readCall_fallback runtime depth hlayers]
      · simp [hkey, readCall_comment, readCall_mount runtime depth ("/" ++ key) hlayers]
  | .nest key elements layers, hclear => by
      have hlayers : ∀ t ∈ layers, Plain t.text :=
        fun t ht => hclear t (List.mem_append_left (Element.targetsAll elements) ht)
      have hbelow := readCalls_linesAll (depth + 2) elements
        fun t ht => hclear t (List.mem_append_right layers ht)
      have hlayer : (if layers.isEmpty then []
          else [Element.line (depth + 2) (Element.layerCall layers)]).mapM (readCall runtime) =
            some (if layers.isEmpty then [] else [.layer (guards layers)]) := by
        split
        · rfl
        · rename_i hne
          have hne : layers ≠ [] := by simpa using hne
          simp [readCall_layer runtime (depth + 2) hlayers hne]
      rw [lines_nest, calls]
      refine mapM_append_of_some (mapM_append_of_some (mapM_append_of_some ?_ hbelow) hlayer) ?_
      · simp [readCall_keyComment, readCall_nest, readCall_create]
      · simp [readCall_close]

theorem readCalls_linesAll (depth : Nat) :
    ∀ es : List Element, (∀ t ∈ Element.targetsAll es, Plain t.text) →
      (Element.linesAll runtime depth es).mapM (readCall runtime) = some (callsAll es)
  | [], _ => rfl
  | e :: es, hclear => by
      rw [Element.linesAll, callsAll]
      refine mapM_append_of_some (readCalls_lines depth e fun t ht => hclear t ?_)
        (readCalls_linesAll depth es fun t ht => hclear t ?_)
      · exact List.mem_append_left _ ht
      · exact List.mem_append_right _ ht

end

/-! ## Stations -/

/-- What layers stand around, with the paths of the nests that lead there and the functions in its
layers, from the outermost on. -/
inductive Station where
  /-- A route or a mount in a nest. -/
  | service (above : List String) (guards : List String)
  /-- A nest. -/
  | nest (path : List String) (guards : List String)
  deriving DecidableEq, Repr

/-- The functions in the layers at a station. -/
def Station.guards : Station → List String
  | service _ guards => guards
  | nest _ guards => guards

/-- What has been seen of a chain while its calls are read. -/
structure Survey where
  /-- The nests that are open, the innermost first: the path of each, and the functions in the layers
  that have been put around it. -/
  opened : List (String × List String)
  /-- The stations that are finished. -/
  stations : List Station

namespace Survey

/-- The paths of the nests that are open, from the outermost on. -/
def path (s : Survey) : List String := (s.opened.map Prod.fst).reverse

/-- A service is finished where it stands. -/
def serve (s : Survey) (layers : List Layer) : Survey :=
  { s with stations := s.stations ++ [.service s.path (layerPaths layers)] }

/-- Reads one call. -/
def step (s : Survey) (call : Call) : Option Survey :=
  match call, s.opened with
  | .comment, _ => some s
  | .create, _ => some s
  | .route _ answers, _ => some (s.serve ((answers.head?.map Answer.layers).getD []))
  | .mount _ served, _ => some (s.serve served.layers)
  | .fallback served, _ => some (s.serve served.layers)
  | .nest path, opened => some { s with opened := (path, []) :: opened }
  | .layer layers, (path, guards) :: outer =>
      some { s with opened := (path, layerPaths layers ++ guards) :: outer }
  | .close, (_, guards) :: outer => some ⟨outer, s.stations ++ [.nest s.path guards]⟩
  | _, [] => none

end Survey

/-- The stations in the lines of a chain; none when a line cannot be read or the nests are not
balanced. -/
def readStations (runtime : String) (lines : List String) : Option (List Station) := do
  let calls ← lines.mapM (readCall runtime)
  let survey ← calls.foldlM Survey.step ⟨[], []⟩
  if survey.opened = [] then some survey.stations else none

mutual

/-- The stations of an element in some nests. -/
def stations (above : List String) : Element → List Station
  | .route _ _ _ layers => [.service above (layers.map Target.text)]
  | .mount _ _ layers => [.service above (layers.map Target.text)]
  | .nest key elements layers =>
      stationsAll (above ++ ["/" ++ key]) elements
        ++ [.nest (above ++ ["/" ++ key]) (layers.map Target.text)]

/-- The stations of elements in some nests. -/
def stationsAll (above : List String) : List Element → List Station
  | [] => []
  | e :: es => stations above e ++ stationsAll above es

end

theorem stationsAll_append (above : List String) (es fs : List Element) :
    stationsAll above (es ++ fs) = stationsAll above es ++ stationsAll above fs := by
  induction es with
  | nil => rfl
  | cons e es ih => rw [List.cons_append, stationsAll, stationsAll, ih, List.append_assoc]

/-- The answers of a route have the layers of the route. -/
theorem layers_head_answers (methods : List Method) (c : Callee) (layers : List Layer) :
    ((answers methods c layers).head?.map Answer.layers).getD [] = layers := by
  cases methods <;> rfl

mutual

/-- The calls of an element add its stations and leave the nests around it open. -/
theorem survey_calls (s : Survey) :
    ∀ e : Element, (calls e).foldlM Survey.step s =
      some ⟨s.opened, s.stations ++ stations s.path e⟩
  | .route h pattern target layers => by
      change some (s.serve _) = _
      rw [layers_head_answers, Survey.serve, layerPaths_guards, stations]
  | .mount m key layers => by
      have hstep : (calls (.mount m key layers)).foldlM Survey.step s =
          some (s.serve (served m (guards layers)).layers) := by
        rw [calls]
        split <;> rfl
      rw [hstep, Survey.serve, layerPaths_served, stations]
  | .nest key elements layers => by
      -- what is below is read with one more nest open, and the last calls close it again
      have hbelow := survey_callsAll ⟨("/" ++ key, []) :: s.opened, s.stations⟩ elements
      have hpath : Survey.path ⟨("/" ++ key, []) :: s.opened, s.stations⟩ = s.path ++ ["/" ++ key] := by
        simp [Survey.path]
      have hlayer : ∀ ps, (if layers.isEmpty then [] else [Call.layer (guards layers)]).foldlM
          Survey.step ⟨("/" ++ key, []) :: s.opened, ps⟩ =
            some ⟨("/" ++ key, layers.map Target.text) :: s.opened, ps⟩ := by
        intro ps
        cases layers with
        | nil => rfl
        | cons t ts =>
            change some (Survey.mk (("/" ++ key, layerPaths (guards (t :: ts)) ++ []) :: s.opened) ps) = _
            rw [layerPaths_guards, List.append_nil]
      rw [hpath] at hbelow
      rw [calls, stations]
      refine foldlM_append_of_some (foldlM_append_of_some (foldlM_append_of_some ?_ hbelow) (hlayer _)) ?_
      · rfl
      · rw [← List.append_assoc, ← hpath]
        rfl

theorem survey_callsAll (s : Survey) :
    ∀ es : List Element, (callsAll es).foldlM Survey.step s =
      some ⟨s.opened, s.stations ++ stationsAll s.path es⟩
  | [] => by
      rw [callsAll, stationsAll, List.append_nil]
      rfl
  | e :: es => by
      rw [callsAll, stationsAll, ← List.append_assoc]
      exact foldlM_append_of_some (survey_calls s e)
        (survey_callsAll ⟨s.opened, s.stations ++ stations s.path e⟩ es)

end

/-- The lines of elements are read as the stations of all of them. -/
theorem readStations_linesAll (depth : Nat) {es : List Element}
    (hclear : ∀ t ∈ Element.targetsAll es, Plain t.text) :
    readStations runtime (Element.linesAll runtime depth es) = some (stationsAll [] es) := by
  rw [readStations, readCalls_linesAll depth es hclear]
  change ((callsAll es).foldlM Survey.step ⟨[], []⟩).bind _ = _
  rw [survey_callsAll]
  rfl

end Chain

open Chain

/-! ## Stations of a tree -/

/-- The paths of the nests along some keys. -/
def nestPaths (keys : List String) : List String := keys.map ("/" ++ ·)

theorem nestPaths_append (ks js : List String) : nestPaths (ks ++ js) = nestPaths ks ++ nestPaths js :=
  List.map_append

theorem ChainContext.map_text_layers {ctx : ChainContext} {ms : List Middleware} {layers : List Target}
    (h : ctx.layers ms = .ok layers) :
    layers.map Target.text = ms.map fun m => ctx.spelling m.item := by
  rw [layers_eq, mapM_eq_ok_iff_forall₂, List.forall₂_map_left_iff] at h
  induction h with
  | nil => rfl
  | cons hname _ ih => rw [List.map_cons, List.map_cons, ih, text_of_name hname]

namespace RouteNode

open Placed

variable {ctx : ChainContext}

/-- The functions of the middleware of a node. -/
def guards (ctx : ChainContext) (n : RouteNode) : List String :=
  n.middleware.map fun m => ctx.spelling m.item

/-- The stations of a node at the end of some keys: its leaf, and the nest of its children. -/
def stations (ctx : ChainContext) (ks : List String) (n : RouteNode) : List Station :=
  (n.leaf.toList.map fun _ => .service (nestPaths ks.dropLast) (n.guards ctx))
    ++ if n.children = [] then [] else [.nest (nestPaths ks) (n.guards ctx)]

/-- The stations of all nodes of a forest. -/
def stationsAll (ctx : ChainContext) (above : List String) (ns : List RouteNode) : List Station :=
  (walkAll above ns).flatMap fun x => x.2.stations ctx x.1

theorem stationsAll_cons (above : List String) (n : RouteNode) (ns : List RouteNode) :
    stationsAll ctx above (n :: ns) = (n.stations ctx (above ++ [n.key])
      ++ stationsAll ctx (above ++ [n.key]) n.children) ++ stationsAll ctx above ns := by
  rw [stationsAll, walkAll, walk_eq, List.flatMap_append, List.flatMap_cons]
  rfl

theorem stations_of_own {n : RouteNode} {layers : List Target} {own : List Element} (above : List String)
    (h : n.leaf.toList.mapM (ctx.leaf n.key n.pattern layers) = .ok own) :
    Chain.stationsAll above own =
      n.leaf.toList.map fun _ => .service above (layers.map Target.text) := by
  cases hleaf : n.leaf with
  | none =>
      rw [hleaf] at h
      cases h
      rfl
  | some l =>
      rw [hleaf] at h
      obtain ⟨e, he, rfl⟩ := mapM_singleton_ok h
      rcases ChainContext.leaf_ok he with ⟨handler, target, -, -, rfl⟩ | ⟨mount, -, rfl⟩
      · rfl
      · rfl

/-- The elements of a node have the stations of the node, once those of its children do. -/
theorem stations_of_elements {n : RouteNode} {above : List String} {es : List Element}
    (hflat : n.key = "" → n.children = [])
    (hchildren : ∀ below, ctx.elementsAll n.children = .ok below →
      (Chain.stationsAll (nestPaths (above ++ [n.key])) below).Perm
        (stationsAll ctx (above ++ [n.key]) n.children))
    (h : ctx.elements n = .ok es) :
    (Chain.stationsAll (nestPaths above) es).Perm
      (n.stations ctx (above ++ [n.key]) ++ stationsAll ctx (above ++ [n.key]) n.children) := by
  rcases ChainContext.elements_ok h with
    ⟨hleaf, hnil, rfl⟩ | ⟨layers, own, below, hlayers, hown, hbelow, rfl⟩
  · rw [stations, hleaf, hnil]
    exact List.Perm.nil
  · have hstations := hchildren below hbelow
    rw [Chain.stationsAll_append, stations_of_own _ hown, stations, List.dropLast_concat, guards,
      ← ChainContext.map_text_layers hlayers, List.append_assoc]
    refine List.Perm.append_left _ ?_
    by_cases hnil : n.children = []
    · rw [hnil] at hbelow hstations ⊢
      cases hbelow
      rw [if_pos (Or.inl rfl), if_pos rfl]
      exact List.Perm.nil
    · -- the nest is finished after what is in it
      rw [if_neg (not_or.mpr ⟨hnil, fun hkey => hnil (hflat hkey)⟩), if_neg hnil, Chain.stationsAll,
        Chain.stations, Chain.stationsAll, List.append_nil]
      rw [nestPaths_append] at hstations ⊢
      exact List.perm_append_comm.trans (hstations.append_left _)

theorem stations_of_siblings {above : List String} {ns : List RouteNode}
    (hnodes : ∀ n ∈ ns, ∀ es, ctx.elements n = .ok es → (Chain.stationsAll (nestPaths above) es).Perm
      (n.stations ctx (above ++ [n.key]) ++ stationsAll ctx (above ++ [n.key]) n.children))
    {es : List Element} (hes : ctx.elementsAll ns = .ok es) :
    (Chain.stationsAll (nestPaths above) es).Perm (stationsAll ctx above ns) := by
  induction ns generalizing es with
  | nil =>
      cases hes
      exact List.Perm.nil
  | cons n ns ih =>
      obtain ⟨first, rest, hfirst, hrest, rfl⟩ := ChainContext.elementsAll_cons_ok hes
      rw [Chain.stationsAll_append, stationsAll_cons]
      refine (hnodes n List.mem_cons_self first hfirst).append ?_
      exact ih (fun m hm => hnodes m (List.mem_cons_of_mem n hm)) hrest

/-- The elements of a forest have the stations of its nodes. -/
theorem stations_of_elementsAll {ps : List Placed} {ns : List RouteNode} (h : Represents ps ns)
    (hroot : Rooted ps) (above : List String) {es : List Element} (hes : ctx.elementsAll ns = .ok es) :
    (Chain.stationsAll (nestPaths above) es).Perm (stationsAll ctx above ns) := by
  induction h generalizing above es with
  | @intro ps ns hkeys hholds hchildren ih =>
      refine stations_of_siblings ?_ hes
      intro n hn fs hfs
      exact stations_of_elements (hroot.children_eq_nil (hchildren n hn))
        (fun below hbelow => ih n hn (hroot.under n.key) _ hbelow) hfs

end RouteNode

end RouteWorks
