import RouteWorks.Proofs.Chain.Written

/-!
# Running a written chain

The lines of an element add its services to the router that is being built, and leave the routers
around it alone (`run_lines`).  Nested lines are read on a router of their own, and their services
come back below its path with its layers around them.
-/

namespace RouteWorks

open Text

namespace Chain

/-! ## Lines -/

/-- How the calls start that are given something, with their names. -/
def heads : List (String × String) :=
  [(".route(", ".route"), (".nest_service(", ".nest_service"),
   (".fallback_service(", ".fallback_service"), (".nest(", ".nest"), (".layer(", ".layer")]

theorem heads_start {head name : String} (h : (head, name) ∈ heads) :
    (∃ rest, name.toList = '.' :: rest) ∧ '(' ∉ name.toList ∧ head = name ++ "(" := by
  simp only [heads, List.mem_cons, Prod.mk.injEq, List.not_mem_nil, or_false] at h
  rcases h with ⟨rfl, rfl⟩ | ⟨rfl, rfl⟩ | ⟨rfl, rfl⟩ | ⟨rfl, rfl⟩ | ⟨rfl, rfl⟩
  all_goals exact ⟨⟨_, String.toList_ofList⟩, by simp, by decide⟩

/-- The indentation of a line is skipped. -/
theorem dropWhile_line (depth : Nat) {text : String} {c : Char} {rest : List Char}
    (htext : text.toList = c :: rest) (hc : c ≠ ' ') :
    (Element.line depth text).toList.dropWhile (· == ' ') = text.toList := by
  have hblank : ∀ d ∈ (Text.replicate (4 * depth) " ").toList, (d == ' ') = true := by
    intro d hd
    rw [Text.replicate, String.toList_join] at hd
    obtain ⟨blank, hblank, hd⟩ := List.mem_flatMap.mp hd
    rw [List.eq_of_mem_replicate hblank] at hd
    simpa using hd
  rw [Element.line, String.toList_append, List.dropWhile_append_of_pos hblank, htext,
    List.dropWhile_cons_of_neg (by simpa using hc)]

theorem readCall_comment (runtime : String) (depth : Nat) (text : String) :
    readCall runtime (Element.line depth ("// " ++ text)) = some .comment := by
  have htext : ("// " ++ text).toList = '/' :: '/' :: ' ' :: text.toList := by simp
  rw [readCall, dropWhile_line depth htext (by decide), htext, readText, if_pos]
  simp [expect, stripStart?]

/-- The comment of a nest. -/
theorem readCall_keyComment (runtime : String) (depth : Nat) (key : String) :
    readCall runtime (Element.line depth ("// /" ++ key)) = some .comment := by
  rw [show ("// /" : String) = "// " ++ "/" by decide, String.append_assoc]
  exact readCall_comment runtime depth ("/" ++ key)

theorem readCall_named (runtime : String) (depth : Nat) {head name : String}
    (h : (head, name) ∈ heads) (text : String) :
    readCall runtime (Element.line depth (head ++ text)) =
      readArguments runtime name text.toList := by
  obtain ⟨⟨rest, hname⟩, hopen, rfl⟩ := heads_start h
  have htext : (name ++ "(" ++ text).toList = '.' :: (rest ++ ("(".toList ++ text.toList)) := by
    rw [String.toList_append, String.toList_append, hname, List.append_assoc, List.cons_append]
  have hread := readUntil_append hopen "(" (by simp) text.toList
  rw [hname, List.cons_append] at hread
  have hcomment : (expect "//" ('.' :: (rest ++ ("(".toList ++ text.toList)))).isSome = false := by
    simp [expect, stripStart?]
  rw [readCall, dropWhile_line depth htext (by decide), htext, readText, hcomment,
    if_neg Bool.false_ne_true, if_neg (by simp), hread]
  rfl

theorem readCall_create (runtime : String) (depth : Nat) :
    readCall runtime (Element.line depth "axum::Router::new()") = some .create := by
  have htext : ("axum::Router::new()" : String).toList =
      "axum::Router::new".toList ++ ("(".toList ++ ")".toList) := by
    decide
  have hread := @readUntil_append '(' "axum::Router::new" (by simp) "(" (by simp) ")".toList
  rw [readCall, dropWhile_line depth String.toList_ofList (by decide), readText, htext, if_neg, if_neg,
    hread]
  · rfl
  · simp
  · simp [expect, stripStart?]

theorem readCall_close (runtime : String) (depth : Nat) :
    readCall runtime (Element.line depth ")") = some .close := by
  rw [readCall, dropWhile_line depth String.toList_ofList (by decide), readText, if_neg, if_pos]
  · simp
  · simp [expect, stripStart?]

/-! ## Elements -/

/-- What a handler is called by. -/
def callee (h : Handler) (target : Target) : Callee :=
  if h.fields.isSome then .record target.text else .function target.text

theorem callee_text (runtime : String) (h : Handler) (target : Target) :
    Element.callee runtime h target = calleeText runtime (callee h target) := by
  rw [Element.callee, callee]
  cases h.fields.isSome <;> rfl

theorem calleePath_callee (h : Handler) (target : Target) :
    calleePath (callee h target) = target.text := by
  rw [callee]
  split <;> rfl

/-- What a mount serves. -/
def served (m : Mount) (layers : List Layer) : Served where
  root := m.root
  precompressed := !m.noCompress
  layers := layers ++ if m.noCache then [.noCache] else []

theorem mountService_text (m : Mount) (targets : List Target) :
    Element.mountService m targets = servedText (served m (guards targets)) := by
  have hlayers : (served m (guards targets)).layers.map Layer.text =
      targets.map Element.layerText ++ if m.noCache then [Element.noCacheLayer] else [] := by
    rw [served, List.map_append, map_text_guards, ← Layer.text_noCache]
    cases m.noCache <;> rfl
  have hfiles : filesText (served m (guards targets)) =
      "tower_http::services::ServeDir::new(" ++ quote m.root ++ ")"
        ++ if m.noCompress then "" else ".precompressed_gzip().precompressed_br()" := by
    unfold filesText
    rw [served]
    cases m.noCompress <;> rfl
  unfold servedText
  rw [hlayers, hfiles]
  rfl

theorem readable_served {m : Mount} {targets : List Target} (h : ∀ t ∈ targets, Plain t.text) :
    ∀ l ∈ (served m (guards targets)).layers, l.Readable := by
  intro l hl
  rcases List.mem_append.mp hl with hl | hl
  · exact readable_of_mem_guards h l hl
  · split at hl
    · rw [List.mem_singleton.mp hl]
      exact Layer.readable_noCache
    · cases hl

mutual

/-- The services that an element stands for. -/
def services : Element → List Service
  | .route h pattern target layers =>
      [.route ("/" ++ pattern) (answers h.methods (callee h target) (guards layers))]
  | .mount m key layers => [.mount ("/" ++ key) (key = "") (served m (guards layers))]
  | .nest key elements layers =>
      ((servicesAll elements).map (Service.wrap (guards layers))).map (Service.below ("/" ++ key))

/-- The services that elements stand for. -/
def servicesAll : List Element → List Service
  | [] => []
  | e :: es => services e ++ servicesAll es

end

/-- The items that an element names have no brackets. -/
def Clear (e : Element) : Prop := ∀ t ∈ e.targets, Plain t.text

/-! ## Calls of elements -/

theorem readCall_route (runtime : String) (depth : Nat) (h : Handler) (pattern : String)
    {target : Target} (htarget : Plain target.text) {layers : List Target}
    (hlayers : ∀ t ∈ layers, Plain t.text) :
    readCall runtime (Element.line depth (".route(" ++ quote ("/" ++ pattern) ++ ", "
        ++ Element.methodRouter h.methods (Element.callee runtime h target)
        ++ Element.layerCall layers ++ ")")) =
      some (.route ("/" ++ pattern) (answers h.methods (callee h target) (guards layers))) := by
  have hcallee : Plain (calleePath (callee h target)) := by rwa [calleePath_callee]
  have hanswers := readAnswers_written runtime h.methods hcallee hlayers
  rw [callee_text]
  simp only [String.append_assoc]
  rw [readCall_named runtime depth (by decide : (".route(", ".route") ∈ heads), readArguments,
    if_pos rfl]
  simp only [String.toList_append, readLiteral_quote, expect_append, hanswers, Option.bind_eq_bind,
    Option.bind_some, Option.pure_def]
  rfl

theorem readCall_mount (runtime : String) (depth : Nat) (path : String) {s : Served}
    (hlayers : ∀ l ∈ s.layers, l.Readable) :
    readCall runtime (Element.line depth (".nest_service(" ++ quote path ++ ", "
        ++ servedText s ++ ")")) = some (.mount path s) := by
  have hserved := readServed_servedText hlayers []
  rw [List.append_nil] at hserved
  simp only [String.append_assoc]
  rw [readCall_named runtime depth (by decide : (".nest_service(", ".nest_service") ∈ heads),
    readArguments, if_neg (by decide), if_pos rfl]
  simp only [String.toList_append, readLiteral_quote, expect_append, hserved, Option.bind_eq_bind,
    Option.bind_some, Option.pure_def]
  rfl

theorem readCall_fallback (runtime : String) (depth : Nat) {s : Served}
    (hlayers : ∀ l ∈ s.layers, l.Readable) :
    readCall runtime (Element.line depth (".fallback_service(" ++ servedText s ++ ")")) =
      some (.fallback s) := by
  have hserved := readServed_servedText hlayers []
  rw [List.append_nil] at hserved
  simp only [String.append_assoc]
  rw [readCall_named runtime depth
      (by decide : (".fallback_service(", ".fallback_service") ∈ heads),
    readArguments, if_neg (by decide), if_neg (by decide), if_pos rfl]
  simp only [String.toList_append, hserved, Option.bind_eq_bind, Option.bind_some, Option.pure_def]
  rfl

theorem readCall_nest (runtime : String) (depth : Nat) (path : String) :
    readCall runtime (Element.line depth (".nest(" ++ quote path ++ ",")) = some (.nest path) := by
  simp only [String.append_assoc]
  rw [readCall_named runtime depth (by decide : (".nest(", ".nest") ∈ heads), readArguments,
    if_neg (by decide), if_neg (by decide), if_neg (by decide), if_pos rfl]
  simp only [String.toList_append, readLiteral_quote, Option.bind_eq_bind, Option.bind_some]
  rfl

theorem readCall_layer (runtime : String) (depth : Nat) {layers : List Target}
    (hlayers : ∀ t ∈ layers, Plain t.text) (hne : layers ≠ []) :
    readCall runtime (Element.line depth (Element.layerCall layers)) =
      some (.layer (guards layers)) := by
  have hbuilder := readBuilder_builderText (readable_of_mem_guards hlayers) (readAdded_close [])
  rw [List.append_nil] at hbuilder
  rw [layerCall_of_ne_nil hne, String.append_assoc,
    readCall_named runtime depth (by decide : (".layer(", ".layer") ∈ heads), readArguments,
    if_neg (by decide), if_neg (by decide), if_neg (by decide), if_neg (by decide),
    if_neg (by decide), if_pos rfl]
  simp only [String.toList_append, hbuilder, Option.bind_eq_bind, Option.bind_some, Option.pure_def]
  rfl

/-! ## Running elements -/

variable {runtime : String} {depth : Nat}

theorem lines_route (h : Handler) (pattern : String) (target : Target) (layers : List Target) :
    Element.lines runtime depth (.route h pattern target layers) =
      [Element.line depth ("// " ++ h.routeName),
       Element.line depth (".route(" ++ quote ("/" ++ pattern) ++ ", "
        ++ Element.methodRouter h.methods (Element.callee runtime h target)
        ++ Element.layerCall layers ++ ")")] := rfl

theorem lines_mount (m : Mount) (key : String) (layers : List Target) :
    Element.lines runtime depth (.mount m key layers) =
      [Element.line depth ("// " ++ m.name),
       Element.line depth (if key = "" then ".fallback_service(" ++ Element.mountService m layers ++ ")"
        else ".nest_service(" ++ quote ("/" ++ key) ++ ", " ++ Element.mountService m layers
          ++ ")")] := rfl

theorem lines_nest (key : String) (elements : List Element) (layers : List Target) :
    Element.lines runtime depth (.nest key elements layers) =
      [Element.line depth ("// /" ++ key), Element.line depth (".nest(" ++ quote ("/" ++ key) ++ ","),
       Element.line (depth + 1) "axum::Router::new()"]
        ++ Element.linesAll runtime (depth + 2) elements
        ++ (if layers.isEmpty then [] else [Element.line (depth + 2) (Element.layerCall layers)])
        ++ [Element.line depth ")"] := rfl

/-- A line that is read is run. -/
theorem run_cons {b b' : Building} {line : String} {call : Call}
    (hcall : readCall runtime line = some call) (hstep : b.step call = some b')
    (lines : List String) : b.run runtime (line :: lines) = b'.run runtime lines := by
  have hline : b.readLine runtime line = some b' := by
    rw [Building.readLine, hcall, Option.bind_some, hstep]
  rw [Building.run, List.foldlM_cons, hline]
  rfl

theorem run_append {b b' : Building} {lines : List String} (h : b.run runtime lines = some b')
    (more : List String) : b.run runtime (lines ++ more) = b'.run runtime more := by
  rw [Building.run] at h
  rw [Building.run, List.foldlM_append, h]
  rfl

theorem wrap_nil (s : Service) : Service.wrap [] s = s := by
  cases s with
  | route path answers =>
      have hwrap : Answer.wrap [] = id := by
        funext a
        rfl
      rw [Service.wrap, hwrap, List.map_id]
  | mount path isFallback served => rfl

/-- The last lines of a nest put its layers around all that is below and close it. -/
theorem run_close (outer : List (String × List Service)) (ss below : List Service) (path : String)
    (depth : Nat) {layers : List Target} (hlayers : ∀ t ∈ layers, Plain t.text) :
    Building.run runtime ⟨(path, ss) :: outer, some below⟩
        ((if layers.isEmpty then [] else [Element.line (depth + 2) (Element.layerCall layers)])
          ++ [Element.line depth ")"]) =
      some ⟨outer, some (ss ++ (below.map (Service.wrap (guards layers))).map
        (Service.below path))⟩ := by
  cases hempty : layers.isEmpty with
  | true =>
      -- without a line for the layers nothing is wrapped
      have hwrap : Service.wrap (guards layers) = id := by
        rw [List.isEmpty_iff.mp hempty]
        funext s
        exact wrap_nil s
      rw [if_pos rfl, List.nil_append, run_cons (readCall_close runtime depth) rfl, hwrap, List.map_id]
      rfl
  | false =>
      -- one line for the layers, one to close
      have hne : layers ≠ [] := by
        rintro rfl
        cases hempty
      rw [if_neg Bool.false_ne_true, List.singleton_append,
        run_cons (readCall_layer runtime (depth + 2) hlayers hne) rfl,
        run_cons (readCall_close runtime depth) rfl]
      rfl

mutual

/-- The lines of an element add its services to the current router. -/
theorem run_lines (outer : List (String × List Service)) (ss : List Service) (depth : Nat) :
    ∀ e : Element, Clear e →
      Building.run runtime ⟨outer, some ss⟩ (Element.lines runtime depth e) =
        some ⟨outer, some (ss ++ services e)⟩
  | .route h pattern target layers, hclear => by
      have htarget : Plain target.text :=
        hclear target (List.mem_append_right layers (List.mem_singleton_self target))
      have hlayers : ∀ t ∈ layers, Plain t.text :=
        fun t ht => hclear t (List.mem_append_left [target] ht)
      rw [lines_route, run_cons (readCall_comment runtime depth h.routeName) rfl,
        run_cons (readCall_route runtime depth h pattern htarget hlayers) rfl]
      rfl
  | .mount m key layers, hclear => by
      have hlayers : ∀ l ∈ (served m (guards layers)).layers, l.Readable := readable_served hclear
      rw [lines_mount, mountService_text, run_cons (readCall_comment runtime depth m.name) rfl]
      by_cases hkey : key = ""
      · subst hkey
        rw [if_pos rfl, run_cons (readCall_fallback runtime depth hlayers) rfl]
        rfl
      · rw [if_neg hkey, run_cons (readCall_mount runtime depth ("/" ++ key) hlayers) rfl, services,
          decide_eq_false hkey]
        rfl
  | .nest key elements layers, hclear => by
      -- what is below is run on a new router, with the current one kept outside
      have hlayers : ∀ t ∈ layers, Plain t.text :=
        fun t ht => hclear t (List.mem_append_left (Element.targetsAll elements) ht)
      have helements : ∀ t ∈ Element.targetsAll elements, Plain t.text :=
        fun t ht => hclear t (List.mem_append_right layers ht)
      have hbelow := run_linesAll (("/" ++ key, ss) :: outer) [] (depth + 2) elements helements
      rw [lines_nest, List.append_assoc, List.append_assoc, List.cons_append, List.cons_append,
        List.cons_append, List.nil_append, run_cons (readCall_keyComment runtime depth key) rfl,
        run_cons (readCall_nest runtime depth ("/" ++ key)) rfl,
        run_cons (readCall_create runtime (depth + 1)) rfl, run_append hbelow, List.nil_append,
        run_close outer ss _ ("/" ++ key) depth hlayers]
      rfl

/-- The lines of elements add the services of all of them. -/
theorem run_linesAll (outer : List (String × List Service)) (ss : List Service) (depth : Nat) :
    ∀ es : List Element, (∀ t ∈ Element.targetsAll es, Plain t.text) →
      Building.run runtime ⟨outer, some ss⟩ (Element.linesAll runtime depth es) =
        some ⟨outer, some (ss ++ servicesAll es)⟩
  | [], _ => by
      rw [servicesAll, List.append_nil]
      rfl
  | e :: es, hclear => by
      have hfirst : Clear e := fun t ht => hclear t (List.mem_append_left _ ht)
      have hrest : ∀ t ∈ Element.targetsAll es, Plain t.text :=
        fun t ht => hclear t (List.mem_append_right _ ht)
      rw [Element.linesAll, run_append (run_lines outer ss depth e hfirst), servicesAll,
        ← List.append_assoc]
      exact run_linesAll outer (ss ++ services e) depth es hrest

end

/-- A chain of elements is read as the services of all of them. -/
theorem readChain_linesAll (depth : Nat) {es : List Element}
    (hclear : ∀ t ∈ Element.targetsAll es, Plain t.text) :
    readChain runtime (Element.linesAll runtime depth es) = some (servicesAll es) := by
  rw [readChain, run_linesAll [] [] depth es hclear]
  rfl

end Chain

end RouteWorks
