import RouteWorks.Generate.Plan
import RouteWorks.Proofs.Chain.Imports
import RouteWorks.Proofs.Chain.Lines

/-!
# The scope of a router file

A router file imports modules and declares one function, so a path in its chain leads somewhere only if it
starts at the crate or with a name that an import binds (`InScope`).  Items of other locations are written
that way.  Items in the place of the router are written without a qualifier, as if they stood in the same
file (`Router.create_scope`).
-/

namespace RouteWorks

open Text

/-! ## Imports of a file -/

/-- Reads a line that imports a path. -/
def readUse? (line : String) : Option String := do
  let rest ← expect "use " line.toList
  let (path, rest) ← readUntil ';' rest
  if rest = [] then some path else none

/-- The paths that a file imports above its function. -/
def usesOf (text : String) : List String :=
  ((lineParts text).takeWhile fun line => !startsWith line "pub fn ").filterMap readUse?

/-- What a path starts with, up to its first colon. -/
def firstSegment (path : String) : String := String.ofList (path.toList.takeWhile (· != ':'))

/-- A path starts at the crate, or with a name that an import binds. -/
def InScope (uses : List String) (path : String) : Prop :=
  firstSegment path = "crate" ∨ ∃ use ∈ uses, boundName use = firstSegment path

instance (uses : List String) (path : String) : Decidable (InScope uses path) :=
  inferInstanceAs (Decidable (_ ∨ _))

theorem firstSegment_append {name : String} (h : ':' ∉ name.toList) (item : String) :
    firstSegment (name ++ "::" ++ item) = name := by
  rw [firstSegment, String.append_assoc, String.toList_append,
    List.takeWhile_append_of_pos (bne_of_not_mem h)]
  simp

theorem firstSegment_eq_self {name : String} (h : ':' ∉ name.toList) : firstSegment name = name := by
  rw [firstSegment, List.takeWhile_eq_self_iff.mpr (bne_of_not_mem h), String.ofList_toList]

theorem readUse?_use {path : String} (h : ';' ∉ path.toList) :
    readUse? ("use " ++ path ++ ";") = some path := by
  have hread := readUntil_append h ";" (by simp) []
  rw [List.append_nil] at hread
  rw [readUse?]
  simp only [String.toList_append, List.append_assoc, expect_append, hread, Option.bind_eq_bind,
    Option.bind_some, if_true]

/-- The imports of a file are those in the lines above its function. -/
theorem usesOf_lines {above : List String} {head : String}
    (habove : ∀ line ∈ above, Unbroken line ∧ startsWith line "pub fn " = false)
    (hhead : Unbroken head ∧ startsWith head "pub fn " = true) (below : List String) (last : String) :
    usesOf (String.join ((above ++ head :: below).map (· ++ "\n")) ++ last) =
      above.filterMap readUse? := by
  have hkeep : ∀ line ∈ above, (!startsWith line "pub fn ") = true := by
    intro line hline
    rw [(habove line hline).2]
    rfl
  have hstop : ¬ (!startsWith head "pub fn ") = true := by
    rw [hhead.2]
    decide
  rw [usesOf, lineParts_above (fun l hl => (habove l hl).1) hhead.1, List.takeWhile_append_of_pos hkeep,
    List.takeWhile_cons_of_neg (p := fun line => !startsWith line "pub fn ") hstop, List.append_nil]

/-- The lines of a router file above its imports. -/
def routerHeader (name : Identifier) : List String :=
  ["//! " ++ name.canonical ++ " route registration.",
   "//!",
   "//! Generated by routeforge and rewritten on every run. Do not edit.",
   ""]

/-- The lines between the imports of a router file and its function. -/
def routerDoc (name : Identifier) : List String :=
  ["", "/// " ++ name.canonical ++ " registers the routes in a tree style."]

/-- The line that opens the function of a router file. -/
def routerHead (name : Identifier) : String :=
  "pub fn " ++ name.snake ++ "(router: axum::Router) -> axum::Router \x7b"

theorem router_eq (name : Identifier) (chain : Chain) :
    Template.router name chain =
      String.join (((routerHeader name ++ chain.imports.map (fun path => "use " ++ path ++ ";")
        ++ routerDoc name) ++ routerHead name :: ["    router", chain.text]).map (· ++ "\n"))
        ++ "\x7d" := by
  rw [List.append_assoc _ (routerDoc name)]
  rfl

/-- A router file imports what its chain does. -/
theorem usesOf_router (name : Identifier) {chain : Chain} (h : ∀ path ∈ chain.imports, Spelled path) :
    usesOf (Template.router name chain) = chain.imports := by
  have hname := (spelled_canonical name).unbroken
  have hhead : Unbroken (routerHead name) ∧ startsWith (routerHead name) "pub fn " = true := by
    unfold routerHead
    simp only [unbroken_append]
    refine ⟨⟨⟨unbroken_ofList rfl, (spelled_snake name).unbroken⟩, unbroken_ofList rfl⟩, ?_⟩
    simp [startsWith, stripStart?]
  -- comments and empty lines
  have hfixed : ∀ line ∈ routerHeader name ++ routerDoc name,
      (Unbroken line ∧ startsWith line "pub fn " = false) ∧ readUse? line = none := by
    have hwritten : Unbroken "//! " ∧ Unbroken " route registration." ∧ Unbroken "//!" ∧
        Unbroken "//! Generated by routeforge and rewritten on every run. Do not edit." ∧ Unbroken "" ∧
        Unbroken "/// " ∧ Unbroken " registers the routes in a tree style." :=
      ⟨unbroken_ofList rfl, unbroken_ofList rfl, unbroken_ofList rfl, unbroken_ofList rfl,
        unbroken_ofList rfl, unbroken_ofList rfl, unbroken_ofList rfl⟩
    unfold routerHeader routerDoc
    simp [hwritten, hname, startsWith, stripStart?, readUse?, expect]
  have huse : ∀ path ∈ chain.imports, (Unbroken ("use " ++ path ++ ";") ∧
      startsWith ("use " ++ path ++ ";") "pub fn " = false) ∧
      readUse? ("use " ++ path ++ ";") = some path := by
    intro path hpath
    refine ⟨⟨?_, ?_⟩, readUse?_use ((h path hpath).not_mem (by decide))⟩
    · simp only [unbroken_append]
      exact ⟨⟨unbroken_ofList rfl, (h path hpath).unbroken⟩, unbroken_ofList rfl⟩
    · simp [startsWith, stripStart?]
  rw [router_eq, usesOf_lines _ hhead]
  · rw [List.append_assoc, List.filterMap_append, List.filterMap_append, List.filterMap_map]
    have hheader : (routerHeader name).filterMap readUse? = [] :=
      List.filterMap_eq_nil_iff.mpr fun line hline => (hfixed line (List.mem_append_left _ hline)).2
    have hdoc : (routerDoc name).filterMap readUse? = [] :=
      List.filterMap_eq_nil_iff.mpr fun line hline => (hfixed line (List.mem_append_right _ hline)).2
    have huses : chain.imports.filterMap (readUse? ∘ fun path => "use " ++ path ++ ";") =
        chain.imports :=
      (List.filterMap_congr fun path hpath => (huse path hpath).2).trans List.filterMap_some
    rw [hheader, hdoc, huses, List.nil_append, List.append_nil]
  · intro line hline
    rw [List.append_assoc] at hline
    rcases List.mem_append.mp hline with hline | hline
    · exact (hfixed line (List.mem_append_left _ hline)).1
    · rcases List.mem_append.mp hline with hline | hline
      · obtain ⟨path, hpath, rfl⟩ := List.mem_map.mp hline
        exact (huse path hpath).1
      · exact (hfixed line (List.mem_append_right _ hline)).1

/-! ## Paths in a chain -/

namespace Chain

/-- The functions that middleware in layers calls. -/
def layerPaths (layers : List Layer) : List String :=
  layers.filterMap fun
    | .middleware path => some path
    | .header _ _ => none

/-- The paths of handlers and middleware in a call. -/
def Call.paths : Call → List String
  | .route _ answers => answers.flatMap fun a => calleePath a.callee :: layerPaths a.layers
  | .mount _ served => layerPaths served.layers
  | .fallback served => layerPaths served.layers
  | .layer layers => layerPaths layers
  | _ => []

/-- The paths of handlers and middleware in lines. -/
def pathsOf (runtime : String) (lines : List String) : List String :=
  lines.flatMap fun line => ((readCall runtime line).map Call.paths).getD []

variable {runtime : String} {path : String}

theorem pathsOf_append (front back : List String) :
    pathsOf runtime (front ++ back) = pathsOf runtime front ++ pathsOf runtime back :=
  List.flatMap_append

theorem pathsOf_cons {line : String} {call : Call} (h : readCall runtime line = some call)
    (lines : List String) : pathsOf runtime (line :: lines) = call.paths ++ pathsOf runtime lines := by
  rw [pathsOf, List.flatMap_cons, h]
  rfl

theorem layerPaths_guards (targets : List Target) :
    layerPaths (guards targets) = targets.map Target.text := by
  rw [layerPaths, guards, List.filterMap_map]
  exact congrFun (List.filterMap_eq_map (f := Target.text)) targets

theorem layerPaths_served (m : Mount) (targets : List Target) :
    layerPaths (served m (guards targets)).layers = targets.map Target.text := by
  have hown : layerPaths (if m.noCache then [Layer.noCache] else []) = [] := by
    cases m.noCache <;> rfl
  rw [served, layerPaths, List.filterMap_append, ← layerPaths, ← layerPaths, layerPaths_guards, hown,
    List.append_nil]

/-- All answers of a route have the same callee and the same layers, and there is one at least. -/
theorem answers_uniform (methods : List Method) (c : Callee) (layers : List Layer) :
    answers methods c layers ≠ [] ∧
      ∀ a ∈ answers methods c layers, a.callee = c ∧ a.layers = layers := by
  cases methods with
  | nil => simp [answers]
  | cons m ms => simp [answers]

theorem mem_paths_route {pattern : String} (methods : List Method) (c : Callee)
    (targets : List Target) :
    path ∈ (Call.route pattern (answers methods c (guards targets))).paths ↔
      path = calleePath c ∨ ∃ t ∈ targets, t.text = path := by
  obtain ⟨hne, hall⟩ := answers_uniform methods c (guards targets)
  have hanswer : ∀ a ∈ answers methods c (guards targets),
      (path ∈ calleePath a.callee :: layerPaths a.layers ↔
        path = calleePath c ∨ ∃ t ∈ targets, t.text = path) := by
    intro a ha
    rw [(hall a ha).1, (hall a ha).2, List.mem_cons, layerPaths_guards, List.mem_map]
  rw [Call.paths, List.mem_flatMap]
  constructor
  · rintro ⟨a, ha, hpath⟩
    exact (hanswer a ha).mp hpath
  · intro hpath
    obtain ⟨a, ha⟩ := List.exists_mem_of_ne_nil _ hne
    exact ⟨a, ha, (hanswer a ha).mpr hpath⟩

mutual

/-- The paths in the lines of a call are those of its targets. -/
theorem mem_pathsOf_lines (depth : Nat) :
    ∀ e : Element, Clear e → (path ∈ pathsOf runtime (Element.lines runtime depth e) ↔
      ∃ t ∈ e.targets, t.text = path)
  | .route h pattern target layers, hclear => by
      have htarget : Plain target.text :=
        hclear target (List.mem_append_right layers (List.mem_singleton_self target))
      have hlayers : ∀ t ∈ layers, Plain t.text :=
        fun t ht => hclear t (List.mem_append_left [target] ht)
      rw [lines_route, pathsOf_cons (readCall_comment runtime depth h.routeName),
        pathsOf_cons (readCall_route runtime depth h pattern htarget hlayers), List.mem_append,
        List.mem_append, mem_paths_route, calleePath_callee, Element.targets]
      simp [pathsOf, Call.paths, or_and_right, exists_or, or_comm, eq_comm]
  | .mount m key layers, hclear => by
      have hlayers : ∀ l ∈ (served m (guards layers)).layers, l.Readable := readable_served hclear
      have hserved : path ∈ layerPaths (served m (guards layers)).layers ↔
          ∃ t ∈ layers, t.text = path := by
        rw [layerPaths_served, List.mem_map]
      rw [lines_mount, mountService_text, pathsOf_cons (readCall_comment runtime depth m.name),
        Element.targets, ← hserved]
      by_cases hkey : key = ""
      · rw [if_pos hkey, pathsOf_cons (readCall_fallback runtime depth hlayers)]
        simp [pathsOf, Call.paths]
      · rw [if_neg hkey, pathsOf_cons (readCall_mount runtime depth ("/" ++ key) hlayers)]
        simp [pathsOf, Call.paths]
  | .nest key elements layers, hclear => by
      have hlayers : ∀ t ∈ layers, Plain t.text :=
        fun t ht => hclear t (List.mem_append_left (Element.targetsAll elements) ht)
      have hbelow := mem_pathsOf_linesAll (depth + 2) elements
        fun t ht => hclear t (List.mem_append_right layers ht)
      have hlayer : path ∈ pathsOf runtime
          (if layers.isEmpty then [] else [Element.line (depth + 2) (Element.layerCall layers)]) ↔
            ∃ t ∈ layers, t.text = path := by
        cases hempty : layers.isEmpty with
        | true => simp [pathsOf, List.isEmpty_iff.mp hempty]
        | false =>
            have hne : layers ≠ [] := by
              rintro rfl
              cases hempty
            rw [if_neg Bool.false_ne_true, pathsOf_cons (readCall_layer runtime (depth + 2) hlayers hne)]
            simp [pathsOf, Call.paths, layerPaths_guards]
      have hopen : pathsOf runtime [Element.line depth ("// /" ++ key),
          Element.line depth (".nest(" ++ quote ("/" ++ key) ++ ","),
          Element.line (depth + 1) "axum::Router::new()"] = [] := by
        rw [pathsOf_cons (readCall_keyComment runtime depth key),
          pathsOf_cons (readCall_nest runtime depth ("/" ++ key)),
          pathsOf_cons (readCall_create runtime (depth + 1))]
        rfl
      have hclose : pathsOf runtime [Element.line depth ")"] = [] := by
        rw [pathsOf_cons (readCall_close runtime depth)]
        rfl
      rw [lines_nest, Element.targets]
      simp only [pathsOf_append, List.mem_append, hopen, hclose, List.not_mem_nil, false_or,
        hbelow, hlayer, or_and_right, exists_or, or_comm]

theorem mem_pathsOf_linesAll (depth : Nat) :
    ∀ es : List Element, (∀ t ∈ Element.targetsAll es, Plain t.text) →
      (path ∈ pathsOf runtime (Element.linesAll runtime depth es) ↔
        ∃ t ∈ Element.targetsAll es, t.text = path)
  | [], _ => by simp [Element.linesAll, Element.targetsAll, pathsOf]
  | e :: es, hclear => by
      have hfirst := mem_pathsOf_lines depth e
        fun t ht => hclear t (List.mem_append_left (Element.targetsAll es) ht)
      have hrest := mem_pathsOf_linesAll depth es
        fun t ht => hclear t (List.mem_append_right e.targets ht)
      rw [Element.linesAll, Element.targetsAll, pathsOf_append, List.mem_append, hfirst, hrest]
      simp only [List.mem_append, or_and_right, exists_or]

end

end Chain

/-! ## Items in scope -/

namespace ChainContext

variable {ctx : ChainContext}

/-- An item as a chain writes it. -/
def spelling (ctx : ChainContext) (x : Item) : String :=
  if x.1 = ctx.owner then x.2
  else if ctx.entry = some x.1 then "crate::" ++ x.2
  else x.1.last ++ "::" ++ x.2

theorem text_of_name {x : Item} {t : Target} (h : ctx.name x = .ok t) : t.text = ctx.spelling x := by
  obtain ⟨r, hr, h⟩ := bind_eq_ok h
  cases h
  rw [Target.text, ModuleReference.qualifier_eq hr, spelling]
  split
  · exact String.empty_append
  · split
    · rfl
    · rfl

end ChainContext

theorem Spec.not_mem_colon_item {s : Spec} {x : Item} (h : s.item? = some x) : ':' ∉ x.2.toList := by
  have hsnake : ∀ name : String, (∀ c ∈ name.toList, Name.isSnakeChar c = true) → ':' ∉ name.toList := by
    intro name hname hmem
    exact absurd (hname ':' hmem) (by decide)
  cases s with
  | handler handler =>
      cases h
      refine hsnake _ ?_
      change ∀ c ∈ (ChainContext.handlerItem handler).toList, _
      rw [ChainContext.handlerItem]
      split
      · intro c hc
        rw [Name.isSnakeChar, List.all_eq_true.mp handler.name.nameChars c hc, Bool.true_or]
      · exact fun c hc => Identifier.isSnakeChar_of_mem_snake hc
  | middleware m =>
      cases h
      exact hsnake _ fun c hc => Identifier.isSnakeChar_of_mem_snake hc
  | mount m => cases h

namespace Router

variable {specs : List Spec} {ctx : ChainContext} {chain : Chain}

theorem spelled_importPath {modules : List String} (h : ∀ m ∈ modules, Name.isModuleName m = true) :
    Spelled (importPath modules) := by
  have hcolons : Spelled "::" := .of_all (by decide)
  have hjoin : ∀ parts : List String, (∀ part ∈ parts, Spelled part) → Spelled (join "::" parts) := by
    intro parts hparts
    induction parts with
    | nil => exact .of_all (by decide)
    | cons part parts ih =>
        have hpart := hparts part List.mem_cons_self
        cases parts with
        | nil => rwa [join_singleton]
        | cons next parts =>
            rw [join_cons_cons]
            exact (hpart.append hcolons).append (ih fun p hp => hparts p (List.mem_cons_of_mem part hp))
  refine hjoin _ ?_
  intro part hpart
  rcases List.mem_cons.mp hpart with rfl | hpart
  · exact .of_all (by decide)
  · exact .of_isModuleName (h part hpart)

theorem spelled_imports (h : chainOf specs ctx = .ok chain) : ∀ path ∈ chain.imports, Spelled path := by
  intro path hpath
  obtain ⟨l, modules, -, hmodules, rfl⟩ := (mem_imports_iff h path).mp hpath
  exact spelled_importPath (Location.isModuleName_of_properModules? hmodules)

/-- The paths that a chain names are the spellings of its items. -/
theorem mem_pathsOf_iff (h : chainOf specs ctx = .ok chain) (path : String) :
    path ∈ Chain.pathsOf ctx.runtime chain.lines ↔ ∃ x, Names specs x ∧ ctx.spelling x = path := by
  obtain ⟨elements, hspelled, hnames, htargets, rfl⟩ := exists_elements h
  rw [Chain.mem_pathsOf_linesAll 1 elements fun t ht => (hspelled t ht).plain]
  constructor
  · rintro ⟨t, ht, rfl⟩
    obtain ⟨x, hx, hname⟩ := (htargets t).mp ht
    exact ⟨x, hx, (ChainContext.text_of_name hname).symm⟩
  · rintro ⟨x, hx, rfl⟩
    obtain ⟨t, hname⟩ := hnames x hx
    exact ⟨t, (htargets t).mpr ⟨x, hx, hname⟩, ChainContext.text_of_name hname⟩

/-- An item of another location is in scope.  One of the same location is written like a name of the file
itself. -/
theorem inScope_iff (h : chainOf specs ctx = .ok chain) {x : Item} (hx : Names specs x) :
    InScope chain.imports (ctx.spelling x) ↔
      x.1 ≠ ctx.owner ∨ x.2 = "crate" ∨ ∃ use ∈ chain.imports, boundName use = x.2 := by
  obtain ⟨l, item⟩ := x
  rw [ChainContext.spelling]
  by_cases howner : l = ctx.owner
  · obtain ⟨s, -, hitem, -⟩ := hx
    rw [if_pos howner, InScope, firstSegment_eq_self (Spec.not_mem_colon_item hitem)]
    exact (or_iff_right (not_not.mpr howner)).symm
  · refine iff_of_true ?_ (Or.inl howner)
    rw [if_neg howner]
    split
    · -- the entry module is imported nowhere, and its items start at the crate
      left
      have hcrate : ':' ∉ "crate".toList := by decide
      exact firstSegment_append hcrate item
    · -- the qualifier is the last module of the location, and this is what its import binds
      rename_i hentry
      obtain ⟨modules, hmodules⟩ := hx.exists_modules h hentry
      right
      refine ⟨importPath modules, ?_, ?_⟩
      · exact (mem_imports_iff h _).mpr ⟨l, modules, ⟨⟨item, hx⟩, howner, hentry⟩, hmodules, rfl⟩
      · rw [boundName_of_modules hmodules,
          firstSegment_append (not_mem_colon (Location.isModuleName_last hmodules))]

/-- What a router is written for. -/
def context (r : Router) (entry : Option Location) (runtime : String) : ChainContext :=
  { owner := r.location, entry, runtime }

theorem context_runtime (r : Router) (entry : Option Location) (runtime : String) :
    (r.context entry runtime).runtime = runtime := rfl

/-- A router file consists of a fixed frame and the chain, and it imports what the chain does.  The paths
in its chain are the spellings of the items that the specs name.  Those of other locations start at the crate
or with a name that an import binds; those declared in the place of the router are written bare, so
they do only if the item has such a name by chance. -/
theorem create_scope {r : Router} {entry : Option Location} {runtime text : String}
    (h : r.create entry runtime = .ok text) :
    ∃ chain, r.chain entry runtime = .ok chain ∧ text = Template.router r.name chain ∧
      usesOf text = chain.imports ∧
      (∀ path, path ∈ Chain.pathsOf runtime chain.lines ↔
        ∃ x, Names r.specs x ∧ (r.context entry runtime).spelling x = path) ∧
      ∀ x, Names r.specs x → (InScope (usesOf text) ((r.context entry runtime).spelling x) ↔
        x.1 ≠ r.location ∨ x.2 = "crate" ∨ ∃ use ∈ usesOf text, boundName use = x.2) := by
  obtain ⟨chain, hchain, htext⟩ := bind_eq_ok h
  cases htext
  have hof : chainOf r.specs (r.context entry runtime) = .ok chain := hchain
  have huses := usesOf_router r.name (spelled_imports hof)
  have hpaths := mem_pathsOf_iff hof
  rw [context_runtime] at hpaths
  refine ⟨chain, hchain, rfl, huses, hpaths, ?_⟩
  intro x hx
  rw [huses]
  exact inScope_iff hof hx

theorem create_scope_review : ∃ text, reviewRouter.create none "web" = .ok text ∧
    InScope (usesOf text) "handler::listing" := by
  obtain ⟨text, htext⟩ : ∃ text, reviewRouter.create none "web" = .ok text :=
    exists_ok_of_toBool (by decide +kernel)
  obtain ⟨chain, -, -, -, -, hscope⟩ := create_scope htext
  have hnames : Names reviewRouter.specs (listHandler.location, "listing") :=
    ⟨.handler listHandler, List.mem_cons_self, by decide, .handler listHandler, List.mem_cons_self,
      List.prefix_refl _, Or.inl rfl⟩
  have hspelling : (reviewRouter.context none "web").spelling (listHandler.location, "listing") =
      "handler::listing" := by
    decide
  refine ⟨text, htext, ?_⟩
  rw [← hspelling]
  exact (hscope _ hnames).mpr (Or.inl (by decide))

/-- A handler next to its router. -/
def indexHandler : Handler :=
  { path := "/"
    methods := []
    name := ⟨"Index", by decide, by decide⟩
    location := ⟨["app", "src"]⟩ }

/-- A router in the entry module, with a handler there as well. -/
def indexRouter : Router :=
  { name := ⟨"Route", by decide, by decide⟩
    location := ⟨["app", "src"]⟩
    specs := [.handler indexHandler] }

theorem indexRouter_registered : indexRouter.Registered := by
  refine .handler (x := indexHandler) (.declare "Route" rfl) (addHandler_eq_ok_iff.mpr ⟨⟨?_, ?_⟩, rfl⟩)
  · decide
  · rintro _ _ ⟨⟩ ⟨⟩

/-- A handler next to its router is written under a name that is not in scope. -/
theorem not_inScope_index :
    ¬ ∀ (r : Router) (entry : Option Location) (runtime text : String) (chain : Chain),
      r.Registered → r.create entry runtime = .ok text → r.chain entry runtime = .ok chain →
        ∀ path ∈ Chain.pathsOf runtime chain.lines, InScope (usesOf text) path := by
  intro h
  obtain ⟨chain, hchain, himports⟩ :
      ∃ chain, indexRouter.chain (some indexRouter.location) "web" = .ok chain ∧ chain.imports = [] :=
    exists_ok_of_toOption (by decide +kernel)
  have hcreate : indexRouter.create (some indexRouter.location) "web" =
      .ok (Template.router indexRouter.name chain) := by
    rw [create, hchain]
    rfl
  have hof : chainOf indexRouter.specs (indexRouter.context (some indexRouter.location) "web") =
      .ok chain := hchain
  have hnames : Names indexRouter.specs (indexHandler.location, "index") :=
    ⟨.handler indexHandler, List.mem_cons_self, by decide, .handler indexHandler, List.mem_cons_self,
      List.prefix_refl _, Or.inl rfl⟩
  have hscope := h indexRouter (some indexRouter.location) "web" _ chain indexRouter_registered hcreate
    hchain "index" ((mem_pathsOf_iff hof "index").mpr ⟨_, hnames, by decide⟩)
  rw [usesOf_router indexRouter.name (spelled_imports hof), himports] at hscope
  exact absurd hscope (by decide)

end Router

end RouteWorks
