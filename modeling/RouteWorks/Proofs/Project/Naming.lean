import RouteWorks.Proofs.Generate.Structure
import RouteWorks.Proofs.Name.Legal
import RouteWorks.Proofs.Project.Reaching
import RouteWorks.Proofs.Chain.Scope

/-!
# Names in generated code

The name of a router, a handler or a middleware is written in four places, and always as it is: in the
name of its file, in the declaration of its module, where its function is defined, and where the function
is called.  No place escapes it, so for an ASCII name all four are legal if and only if its snake case is
no reserved word (`Plan.ofProject_names`).
-/

namespace RouteWorks

open Template Text

/-! ## Functions of a file -/

/-- Reads the name in a line that opens a function. -/
def readFunction? (line : String) : Option String := do
  let rest ← expect "pub fn " line.toList <|> expect "pub async fn " line.toList
  let (name, _) ← readUntil '(' rest
  return name

/-- The first function that a file defines. -/
def functionOf (text : String) : Option String := (lineParts text).findSome? readFunction?

theorem readFunction?_eq_none {line : String} (h : IsPreface line) : readFunction? line = none := by
  have hsync : expect "pub fn " line.toList = none := h.stripStart?_eq_none rfl
  have hasync : expect "pub async fn " line.toList = none := h.stripStart?_eq_none rfl
  rw [readFunction?, hsync, hasync]
  rfl

theorem functionOf_lines {above : List String} {head name : String}
    (habove : ∀ line ∈ above, IsPreface line)
    (hhead : Unbroken head ∧ readFunction? head = some name) (below : List String) (last : String) :
    functionOf (String.join ((above ++ head :: below).map (· ++ "\n")) ++ last) = some name := by
  have hskip : above.findSome? readFunction? = none :=
    List.findSome?_eq_none_iff.mpr fun line hline => readFunction?_eq_none (habove line hline)
  rw [functionOf, lineParts_above (fun l hl => (habove l hl).1) hhead.1, List.findSome?_append, hskip,
    Option.none_or, List.findSome?_cons, hhead.2]

theorem readFunction?_fn {name : String} (hname : '(' ∉ name.toList) (rest : String) :
    readFunction? ("pub fn " ++ name ++ "(" ++ rest) = some name := by
  have hread := readUntil_append hname "(" rfl rest.toList
  rw [readFunction?]
  simp only [String.toList_append, List.append_assoc, expect_append, hread,
    Option.bind_eq_bind, Option.bind_some, Option.pure_def, HOrElse.hOrElse, OrElse.orElse, Option.orElse]

theorem readFunction?_asyncFn {name : String} (hname : '(' ∉ name.toList) (rest : String) :
    readFunction? ("pub async fn " ++ name ++ "(" ++ rest) = some name := by
  have hread := readUntil_append hname "(" rfl rest.toList
  have hplain : ∀ cs : List Char, expect "pub fn " ("pub async fn ".toList ++ cs) = none := by
    intro cs
    simp [expect, stripStart?]
  rw [readFunction?]
  simp only [String.toList_append, List.append_assoc, hplain, expect_append, hread,
    Option.bind_eq_bind, Option.bind_some, Option.pure_def, HOrElse.hOrElse, OrElse.orElse, Option.orElse]

theorem not_mem_snake {c : Char} (hc : Name.isSnakeChar c = false) (i : Identifier) :
    c ∉ i.snake.toList := by
  intro hmem
  rw [Identifier.isSnakeChar_of_mem_snake hmem] at hc
  cases hc

/-- A router file defines the function of the router. -/
theorem functionOf_router (name : Identifier) {chain : Chain}
    (h : ∀ path ∈ chain.imports, Spelled path) :
    functionOf (Template.router name chain) = some name.snake := by
  have hhead : Unbroken (routerHead name) ∧ readFunction? (routerHead name) = some name.snake := by
    refine ⟨?_, ?_⟩
    · simp only [routerHead, unbroken_append]
      exact ⟨⟨unbroken_ofList rfl, (spelled_snake name).unbroken⟩, unbroken_ofList rfl⟩
    · have hread := readFunction?_fn (not_mem_snake (c := '(') (by decide) name)
        "router: axum::Router) -> axum::Router \x7b"
      simpa [routerHead, String.append_assoc] using hread
  have hfixed : ∀ line ∈ ["//!",
      "//! Generated by routeforge and rewritten on every run. Do not edit.", "", ""],
      IsPreface line := by
    decide
  have huse : ∀ path ∈ chain.imports, IsPreface ("use " ++ path ++ ";") := by
    intro path hpath
    have hmark : IsPreface "use " := by decide
    rw [String.append_assoc]
    exact hmark.append (by decide) ((unbroken_append _ _).mpr
      ⟨(h path hpath).unbroken, unbroken_ofList rfl⟩)
  -- comments, empty lines and imports stand above the function
  rw [router_eq]
  refine functionOf_lines ?_ hhead _ _
  intro line hline
  simp only [routerHeader, routerDoc, List.mem_append, List.mem_cons, List.not_mem_nil, or_false,
    List.mem_map] at hline
  rcases hline with ((rfl | hline) | ⟨path, hpath, rfl⟩) | rfl | rfl
  · exact isPreface_comment (by decide) (by decide) name (unbroken_ofList rfl)
  · exact hfixed line (by simpa using hline)
  · exact huse path hpath
  · exact hfixed "" (by decide)
  · exact isPreface_comment (by decide) (by decide) name (unbroken_ofList rfl)

/-- The line that opens a function that answers requests. -/
theorem head_async (name : Identifier) {rest parameters : String} (hunbroken : Unbroken rest)
    (hrest : rest = "(" ++ parameters) :
    Unbroken ("pub async fn " ++ name.snake ++ rest) ∧
      readFunction? ("pub async fn " ++ name.snake ++ rest) = some name.snake := by
  refine ⟨?_, ?_⟩
  · simp only [unbroken_append]
    exact ⟨⟨unbroken_ofList rfl, (spelled_snake name).unbroken⟩, hunbroken⟩
  · rw [hrest, ← String.append_assoc]
    exact readFunction?_asyncFn (not_mem_snake (by decide) name) parameters

/-- The file of a function handler defines its function. -/
theorem functionOf_functionHandler (h : Handler) (runtime : String) :
    functionOf (functionHandler h runtime) = some h.name.snake := by
  have hfixed : ∀ line ∈ ["", "use axum::extract::Request;",
      "use axum::response::\x7bIntoResponse, Response\x7d;", ""], IsPreface line := by
    decide
  have habove : ∀ line ∈ ["//! " ++ h.name.canonical ++ " handler.", "",
      "use axum::extract::Request;", "use axum::response::\x7bIntoResponse, Response\x7d;", ""] ++
      docLines h, IsPreface line := by
    intro line hline
    rcases List.mem_append.mp hline with hline | hline
    · rcases List.mem_cons.mp hline with rfl | hline
      · exact isPreface_comment (by decide) (by decide) h.name (unbroken_ofList rfl)
      · exact hfixed line hline
    · exact isPreface_of_mem_docLines hline
  have hrest : Unbroken "(req: Request) -> Response \x7b" := by decide
  have hhead := head_async h.name hrest (show _ = "(" ++ "req: Request) -> Response \x7b" from rfl)
  rw [functionHandler, block, ← String.append_empty (s := String.join _), List.append_assoc]
  exact functionOf_lines habove hhead _ ""

/-- The file of a middleware defines its function. -/
theorem functionOf_middleware (m : Middleware) :
    functionOf (Template.middleware m) = some m.name.snake := by
  have hfixed : ∀ line ∈ ["", "use axum::extract::Request;", "use axum::middleware::Next;",
      "use axum::response::Response;", ""], IsPreface line := by
    decide
  have habove : ∀ line ∈ ["//! " ++ m.name.canonical ++ " middleware.", "",
      "use axum::extract::Request;", "use axum::middleware::Next;", "use axum::response::Response;", "",
      "/// " ++ m.name.canonical ++ " runs before the routes it wraps."], IsPreface line := by
    intro line hline
    rcases List.mem_cons.mp hline with rfl | hline
    · exact isPreface_comment (by decide) (by decide) m.name (unbroken_ofList rfl)
    · rcases List.mem_append.mp (show line ∈ ["", "use axum::extract::Request;",
        "use axum::middleware::Next;", "use axum::response::Response;", ""] ++ [_] from hline) with
        hline | hline
      · exact hfixed line hline
      · rw [List.mem_singleton.mp hline]
        exact isPreface_comment (by decide) (by decide) m.name (unbroken_ofList rfl)
  have hrest : Unbroken "(req: Request, next: Next) -> Response \x7b" := by decide
  have hhead := head_async m.name hrest
    (show _ = "(" ++ "req: Request, next: Next) -> Response \x7b" from rfl)
  exact functionOf_lines habove hhead ["    " ++ middlewareBody m] "\x7d"

/-! ## Modules and functions of a router -/

namespace Router

variable {r : Router} {entry l : Location} {runtime text : String} {i : Identifier}

/-- The names that a router gives to modules: its own, and those of its handlers and middleware. -/
inductive Named (r : Router) : Location → Identifier → Prop
  | own : Named r r.location r.name
  | handler {h : Handler} (hs : .handler h ∈ r.specs) : Named r h.location h.name
  | middleware {m : Middleware} (hs : .middleware m ∈ r.specs) : Named r m.location m.name

/-- The names that a router gives to functions, with the file of each.  A handler with fields is no
function. -/
inductive Defines (r : Router) (entry : Location) (runtime : String) : Identifier → String → Prop
  | own {text : String} (h : r.create (some entry) runtime = .ok text) :
      Defines r entry runtime r.name text
  | handler {x : Handler} {text : String} (hs : .handler x ∈ r.specs) (hfields : x.fields = none)
      (h : Template.handler x runtime = .ok text) : Defines r entry runtime x.name text
  | middleware {m : Middleware} (hs : .middleware m ∈ r.specs) :
      Defines r entry runtime m.name (Template.middleware m)

theorem Named.declares (h : r.Named l i) : r.Declares l i.snake := by
  cases h with
  | own => exact .own
  | handler hs => exact .handler hs
  | middleware hs => exact .middleware hs

theorem Defines.functionOf_eq (h : r.Defines entry runtime i text) :
    functionOf text = some i.snake := by
  cases h with
  | own h =>
      obtain ⟨chain, hchain, htext⟩ := bind_eq_ok h
      obtain rfl := Except.ok.inj htext
      exact functionOf_router r.name (spelled_imports hchain)
  | @handler x text hs hfields h =>
      rw [Template.handler, hfields] at h
      obtain rfl := Except.ok.inj h
      exact functionOf_functionHandler x runtime
  | middleware hs => exact functionOf_middleware _

/-- What is called in a chain, and by which name: the function of a handler or a middleware, or else the
type of a handler with fields. -/
inductive Calls (r : Router) : Identifier → String → Prop
  | handler {h : Handler} (hs : .handler h ∈ r.specs) (hfields : h.fields = none) :
      Calls r h.name h.name.snake
  | record {h : Handler} (hs : .handler h ∈ r.specs) (hfields : h.fields ≠ none) :
      Calls r h.name h.name.canonical
  | middleware {m : Middleware} (hs : .middleware m ∈ r.specs) : Calls r m.name m.name.snake

/-- An item is called by its name, whatever qualifies it. -/
theorem boundName_spelling {ctx : ChainContext} {s : Spec} {x : Item} (h : s.item? = some x) :
    boundName (ctx.spelling x) = x.2 := by
  have hcolon := Spec.not_mem_colon_item h
  rw [ChainContext.spelling]
  split
  · exact boundName_eq_self hcolon
  · split
    · exact boundName_append hcolon "crate"
    · exact boundName_append hcolon _

theorem exists_calls {s : Spec} (hs : s ∈ r.specs) {x : Item} (h : s.item? = some x) :
    ∃ i, r.Calls i x.2 := by
  cases s with
  | handler h' =>
      cases h
      refine ⟨h'.name, ?_⟩
      rw [ChainContext.handlerItem]
      split
      · rename_i hfields
        exact .record hs (Option.isSome_iff_ne_none.mp hfields)
      · rename_i hfields
        exact .handler hs (by simpa using hfields)
  | middleware m =>
      cases h
      exact ⟨m.name, .middleware hs⟩
  | mount m => cases h

/-- The calls in a chain end with the names of what is called. -/
theorem exists_calls_of_mem_pathsOf {chain : Chain} (h : r.chain (some entry) runtime = .ok chain)
    {path : String} (hpath : path ∈ Chain.pathsOf runtime chain.lines) :
    ∃ i, r.Calls i (boundName path) := by
  have hof : chainOf r.specs (r.context (some entry) runtime) = .ok chain := h
  obtain ⟨x, ⟨s, hs, hitem, -⟩, rfl⟩ := (mem_pathsOf_iff hof path).mp hpath
  rw [boundName_spelling hitem]
  exact exists_calls hs hitem

end Router

/-! ## Names of fields -/

/-- The name of a checked field is legal unless it is a reserved word that counts as a plain name, and
the name of its companion always is. -/
theorem Field.exists_legal {handler : String} {fields : List Field}
    (h : Field.checkAll handler fields = .ok ()) {f : Field} (hf : f ∈ fields)
    (hascii : ∀ c ∈ f.name.toList, isAscii c = true) :
    ∃ i d, Identifier.ofName f.name = .ok i ∧ f.declare = .ok d ∧
      (Name.IsFieldIdent d.ident ↔ i.snake ∉ Name.unmarked) ∧
      ∀ c, d.companion = some c → Name.IsFieldIdent c.ident := by
  obtain ⟨i, hi⟩ := Field.exists_ofName h hf
  have hcamel := Identifier.isCamel_of_ofName hascii hi
  rw [Field.declare, hi]
  refine ⟨i, _, rfl, rfl, ?_, ?_⟩
  · dsimp only
    exact Name.isFieldIdent_escape_iff (Name.isWord_snake hcamel)
  · intro c hc
    obtain ⟨kind, -, rfl⟩ := Option.map_eq_some_iff.mp hc
    rw [(Field.ident_companion i.canonical kind).1]
    exact .plain (Name.isIdent_companion hcamel kind)

/-! ## Names in a plan -/

namespace Plan

variable {p : Project} {runtime : String} {files : List PlannedFile}

/-- A directory declares its files as modules. -/
theorem declaresModule_of_file {d : ModuleDir} {m visibility rest : String} {ls : List String}
    (hm : m ∈ d.files) (hunbroken : Unbroken m) (hls : ∀ line ∈ d.declarations visibility, line ∈ ls) :
    DeclaresModule (Template.block ls ++ rest) m := by
  have hline : "mod " ++ m ++ ";" ∈ d.declarations visibility :=
    List.mem_append_right _ (List.mem_flatMap.mpr ⟨m, hm, List.mem_cons_self⟩)
  have hkeep : Unbroken ("mod " ++ m ++ ";") := by
    simp only [unbroken_append]
    exact ⟨⟨unbroken_ofList rfl, hunbroken⟩, unbroken_ofList rfl⟩
  refine ⟨"", List.mem_cons_self, ?_⟩
  rw [String.empty_append]
  exact mem_lineParts_ended (hls _ hline) hkeep rest

/-- The places where a plan writes the name of a module: the name of its file, and the line that
declares it in the directory of its location. -/
structure WritesModule (p : Project) (files : List PlannedFile) (l : Location) (m : String) :
    Prop where
  file : Planned files (sourceFile l m)
  line : ∃ path, ModuleTree.path? p.entry l = .ok path ∧
    ∃ g ∈ files, g.path = directoryFile p path ∧ DeclaresModule g.contents m

theorem writesModule (hentry : p.entry.Clean) (hplan : ofProject p runtime = .ok files) {f : Frame}
    (hf : f ∈ p.frames) {l : Location} {i : Identifier} (hi : f.router.Named l i) :
    WritesModule p files l i.snake where
  file := by
    obtain ⟨all, hall, -⟩ := exists_produced hplan
    obtain ⟨text, mode, hwrites⟩ := exists_writes hall hf hi.declares
    refine (planned_iff_produces hplan).mpr ⟨_, .written hf hwrites, ?_⟩
    rw [writtenFile]
  line := by
    obtain ⟨t, ht⟩ := exists_modules hplan
    obtain ⟨entered, hentered, hholds⟩ := holds_modules ht
    obtain ⟨⟨path, _⟩, hmem, hplace⟩ :=
      exists_ok_of_mapM_ok hentered (Project.mem_declared.mpr ⟨f, hf, hi.declares⟩)
    obtain ⟨path', hpath, hplace⟩ := bind_eq_ok hplace
    cases hplace
    have hdir : path ∈ t.paths := (hholds.paths path).mpr ⟨_, hmem, List.prefix_refl path⟩
    have hfile : i.snake ∈ (t.dir path).files := (hholds.files path i.snake).mpr hmem
    obtain ⟨g, hg, hgpath, visibility, -, ls, rest, hcontents, hls⟩ :=
      exists_lines_of_declaring (declaring_of_mem_paths hentry hplan ht hdir)
    refine ⟨path, hpath, g, hg, hgpath, ?_⟩
    rw [hcontents]
    exact declaresModule_of_file hfile (spelled_snake i).unbroken hls

/-- The entry module calls the function of a router by its name. -/
theorem boundName_frameCall {f : Frame} {call : FrameCall} (h : p.frameCall f = .ok call) :
    boundName call.function = f.router.name.snake := by
  obtain ⟨r, -, h⟩ := bind_eq_ok h
  cases h
  have hcolon : ':' ∉ f.router.name.snake.toList := not_mem_snake (by decide) _
  dsimp only
  split
  · exact boundName_append hcolon _
  · exact boundName_eq_self hcolon

/-- The entry module calls the function of every router. -/
theorem exists_entryCall (hplan : ofProject p runtime = .ok files) {f : Frame} (hf : f ∈ p.frames) :
    ∃ declarations calls, mainFile p (Template.entry runtime declarations calls) ∈ files ∧
      ∃ call ∈ calls, boundName call.function = f.router.name.snake := by
  obtain ⟨all, hall, rfl⟩ := exists_produced hplan
  obtain ⟨text, t, routers, htext, -, -, rfl⟩ := produced_eq_ok hall
  obtain ⟨t', -, htext⟩ := bind_eq_ok htext
  obtain ⟨calls, hcalls, htext⟩ := bind_eq_ok htext
  obtain rfl := Except.ok.inj htext
  obtain ⟨call, hcall, hf⟩ := exists_ok_of_mapM_ok hcalls hf
  -- nothing comes before the file of the entry module, so it is kept
  exact ⟨_, calls, mem_firstOfEach.mpr (firstIn_cons.mpr (Or.inl rfl)), call, hcall,
    boundName_frameCall hf⟩

theorem exists_chain (hplan : ofProject p runtime = .ok files) {f : Frame} (hf : f ∈ p.frames) :
    ∃ chain, f.router.chain (some p.entry) runtime = .ok chain := by
  obtain ⟨all, hall, -⟩ := exists_produced hplan
  obtain ⟨text, t, routers, -, -, hrouters, -⟩ := produced_eq_ok hall
  obtain ⟨own, -, hrouter⟩ := exists_ok_of_mapM_ok hrouters hf
  obtain ⟨text, htext, -⟩ := bind_eq_ok hrouter
  obtain ⟨chain, hchain, -⟩ := bind_eq_ok htext
  exact ⟨chain, hchain⟩

/-- The places where a plan writes the names of an app: as names of modules, where functions are
defined, and where they are called. -/
structure WritesNames (p : Project) (runtime : String) (files : List PlannedFile) (f : Frame) :
    Prop where
  modules : ∀ l i, f.router.Named l i → WritesModule p files l i.snake
  functions : ∀ i text, f.router.Defines p.entry runtime i text → functionOf text = some i.snake
  entry : ∃ declarations calls, mainFile p (Template.entry runtime declarations calls) ∈ files ∧
    ∃ call ∈ calls, boundName call.function = f.router.name.snake
  chain : ∃ chain, f.router.chain (some p.entry) runtime = .ok chain ∧
    ∀ path ∈ Chain.pathsOf runtime chain.lines, ∃ i, f.router.Calls i (boundName path)

theorem writesNames (hentry : p.entry.Clean) (hplan : ofProject p runtime = .ok files) {f : Frame}
    (hf : f ∈ p.frames) : WritesNames p runtime files f where
  modules := fun l i hi => writesModule hentry hplan hf hi
  functions := fun i text hi => hi.functionOf_eq
  entry := exists_entryCall hplan hf
  chain := by
    obtain ⟨chain, hchain⟩ := exists_chain hplan hf
    exact ⟨chain, hchain, fun path => Router.exists_calls_of_mem_pathsOf hchain⟩

/-- The names of an app are written as they are, wherever they are written: nothing is escaped.  So an
ASCII name is legal as the name of a module or a function if and only if its snake case is no reserved
word, and as the name of a type unless it is `Self`.  The names of fields are escaped, and legal up to
the reserved words that are not marked; the names of companions are always legal. -/
theorem ofProject_names (hentry : p.entry.Clean) (hplan : ofProject p runtime = .ok files) :
    (∀ f ∈ p.frames, WritesNames p runtime files f) ∧
    (∀ raw i, (∀ c ∈ raw.toList, isAscii c = true) → Identifier.ofName raw = .ok i →
      (Name.isModuleName i.snake = true ↔ i.snake ∉ Name.keywords) ∧
      (Name.IsIdent i.snake ↔ i.snake ∉ Name.reserved) ∧
      (Name.IsIdent i.canonical ↔ i.canonical ≠ "Self")) ∧
    ∀ handler fields, Field.checkAll handler fields = .ok () →
      ∀ f ∈ fields, (∀ c ∈ f.name.toList, isAscii c = true) →
        ∃ i d, Identifier.ofName f.name = .ok i ∧ f.declare = .ok d ∧
          (Name.IsFieldIdent d.ident ↔ i.snake ∉ Name.unmarked) ∧
          ∀ c, d.companion = some c → Name.IsFieldIdent c.ident := by
  refine ⟨fun f hf => writesNames hentry hplan hf, ?_, ?_⟩
  · intro raw i hascii hi
    have hcamel := Identifier.isCamel_of_ofName hascii hi
    have hword := Name.isWord_snake hcamel
    exact ⟨Name.isModuleName_iff hword, and_iff_right hword, hcamel.isIdent_iff⟩
  · intro handler fields hchecked f hf hascii
    exact Field.exists_legal hchecked hf hascii

theorem ofProject_names_shop :
    ∃ files, ofProject (shop [⟨["shop", "src", "handler"]⟩]) "web" = .ok files ∧
      WritesModule (shop [⟨["shop", "src", "handler"]⟩]) files ⟨["shop", "src", "handler"]⟩ "items" ∧
      Name.IsIdent "items" := by
  obtain ⟨files, hplan⟩ : ∃ files,
      ofProject (shop [⟨["shop", "src", "handler"]⟩]) "web" = .ok files :=
    exists_ok_of_toBool (by decide +kernel)
  have hclean : (shop [⟨["shop", "src", "handler"]⟩]).Clean := shop_clean (by decide)
  let items := itemsHandler ⟨["shop", "src", "handler"]⟩
  have hsnake : items.name.snake = "items" := by decide
  obtain ⟨hwritten, hlegal, -⟩ := ofProject_names hclean.entry hplan
  have hitems := (hwritten _ List.mem_cons_self).modules _ _ (.handler (h := items) List.mem_cons_self)
  have hident := (hlegal "items" items.name (List.all_eq_true.mp (by decide)) rfl).2.1
  rw [hsnake] at hitems hident
  exact ⟨files, hplan, hitems, hident.mpr (by decide)⟩

/-- A handler that is called like a reserved word. -/
def typeHandler : Handler :=
  { path := "/type"
    methods := [.get]
    name := ⟨"Type", by decide, by decide⟩
    location := ⟨["app", "src", "handler"]⟩ }

/-- A router with this handler. -/
def typeRouter : Router :=
  { name := ⟨"Types", by decide, by decide⟩
    location := ⟨["app", "src", "router"]⟩
    specs := [.handler typeHandler] }

/-- A project with this router. -/
def typeProject : Project :=
  { entry := ⟨["app", "src"]⟩
    frames := [{ name := "app", version := "1.0", router := typeRouter }] }

theorem typeProject_registered : typeProject.Registered := by
  have hrouter : typeRouter.Registered := by
    refine .handler (x := typeHandler) (.declare "Types" rfl)
      (Router.addHandler_eq_ok_iff.mpr ⟨⟨?_, ?_⟩, rfl⟩)
    · decide
    · rintro _ _ ⟨⟩ ⟨⟩
  exact .frame "app" "1.0" (.start ⟨["app", "src"]⟩) hrouter rfl

/-- A field that is called like a reserved word that counts as a plain name. -/
def finalField : Field := { name := "final", type := "String", position := some .query }

/-- A function and a field can have the names of reserved words. -/
theorem not_isIdent_type :
    (∃ files, typeProject.Registered ∧ ofProject typeProject "web" = .ok files ∧
      WritesModule typeProject files typeHandler.location "type" ∧
      functionOf (functionHandler typeHandler "web") = some "type" ∧
      Name.isModuleName "type" = false) ∧
    Field.checkAll "Type" [finalField] = .ok () ∧
      ∃ d, finalField.declare = .ok d ∧ d.ident = "final" ∧ ¬Name.IsFieldIdent d.ident := by
  obtain ⟨files, hplan⟩ : ∃ files, ofProject typeProject "web" = .ok files :=
    exists_ok_of_toBool (by decide +kernel)
  have hentry : typeProject.entry.Clean := clean_of_all (by decide)
  have hmodule := writesModule hentry hplan List.mem_cons_self
    (.handler (h := typeHandler) List.mem_cons_self)
  have halnum : ∀ c ∈ "final".toList, c.isAlphanum = true := List.all_eq_true.mp (by decide)
  have hword : Name.IsWord "final" :=
    ⟨⟨'f', _, rfl, by decide⟩, fun c hc => Or.inl (halnum c hc), by decide⟩
  have hescape : Name.escape "final" = "final" := by decide
  have hreserved : ¬Name.IsFieldIdent "final" := by
    rw [← hescape, Name.isFieldIdent_escape_iff hword]
    decide
  obtain ⟨d, hd, hident⟩ := exists_ok_of_toOption (x := finalField.declare) (f := Declaration.ident)
    (b := "final") (by decide)
  refine ⟨⟨files, typeProject_registered, hplan, hmodule, ?_, by decide⟩, by decide, d, hd, hident, ?_⟩
  · exact functionOf_functionHandler typeHandler "web"
  · rw [hident]
    exact hreserved

end Plan

end RouteWorks
