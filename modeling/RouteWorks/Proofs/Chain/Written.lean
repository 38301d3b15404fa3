import RouteWorks.Proofs.Chain.Reading

/-!
# Written calls are read back

The text of every part of a chain is read as what it was written for, whatever comes behind it.  The
only thing asked of the items that are named is that no bracket stands in them (`Plain`).
-/

namespace RouteWorks

open Text

/-- A text without the brackets that end it in a chain. -/
def Plain (text : String) : Prop := ∀ c ∈ text.toList, c ≠ ')' ∧ c ≠ '<' ∧ c ≠ '>'

namespace Plain

variable {text : String}

theorem not_mem_close (h : Plain text) : ')' ∉ text.toList := fun hmem => (h _ hmem).1 rfl

theorem not_mem_less (h : Plain text) : '<' ∉ text.toList := fun hmem => (h _ hmem).2.1 rfl

theorem not_mem_greater (h : Plain text) : '>' ∉ text.toList := fun hmem => (h _ hmem).2.2 rfl

end Plain

/-! ## Layers -/

namespace Layer

/-- The layer as it is written. -/
def text : Layer → String
  | middleware path => "axum::middleware::from_fn(" ++ path ++ ")"
  | header name value =>
      "tower_http::set_header::SetResponseHeaderLayer::overriding(" ++ name ++ ","
        ++ " axum::http::HeaderValue::from_static(" ++ quote value ++ "))"

theorem text_middleware (path : String) :
    (middleware path).text = "axum::middleware::from_fn(" ++ path ++ ")" := rfl

theorem text_header (name value : String) :
    (header name value).text =
      "tower_http::set_header::SetResponseHeaderLayer::overriding(" ++ name ++ ","
        ++ " axum::http::HeaderValue::from_static(" ++ quote value ++ "))" := rfl

/-- The layer can be read back. -/
def Readable : Layer → Prop
  | middleware path => Plain path
  | header name _ => ',' ∉ name.toList

/-- The layer that tells clients not to cache. -/
def noCache : Layer := header "axum::http::header::CACHE_CONTROL" "no-cache"

theorem text_noCache : noCache.text = Element.noCacheLayer := by decide +kernel

theorem readable_noCache : noCache.Readable := by
  change ',' ∉ ("axum::http::header::CACHE_CONTROL" : String).toList
  decide

end Layer

namespace Chain

theorem readLayer_text {l : Layer} (h : l.Readable) (rest : List Char) :
    readLayer (l.text.toList ++ rest) = some (l, rest) := by
  cases l with
  | middleware path =>
      have hpath := readUntil_append (Plain.not_mem_close h) ")" (by simp) rest
      simp only [Layer.text_middleware, String.toList_append, List.append_assoc, readLayer,
        expect_append, hpath, Option.map_some]
  | header name value =>
      have hother : ∀ cs, expect "axum::middleware::from_fn("
          ("tower_http::set_header::SetResponseHeaderLayer::overriding(".toList ++ cs) = none := by
        intro cs
        simp [expect, stripStart?]
      have hname := readUntil_append h "," (by simp)
      simp only [Layer.text_header, String.toList_append, List.append_assoc, readLayer, hother,
        expect_append, hname, readLiteral_quote, Option.bind_eq_bind, Option.bind_some,
        Option.pure_def]

/-- What is written for a layer that is added to a service builder. -/
def addedText (l : Layer) : String := ".layer(" ++ l.text ++ ")"

theorem readAdded_addedText {l : Layer} (h : l.Readable) (rest : List Char) :
    readAdded ((addedText l).toList ++ rest) = some (l, rest) := by
  unfold addedText
  simp only [String.toList_append, List.append_assoc, readAdded, expect_append, readLayer_text h,
    Option.bind_eq_bind, Option.bind_some, Option.pure_def]

/-- A service builder with layers. -/
def builderText (layers : List Layer) : String :=
  "tower::ServiceBuilder::new()" ++ String.join (layers.map addedText)

/-- A service builder is written when there are layers. -/
theorem service?_text (layers : List Layer) :
    Element.service? (layers.map Layer.text) =
      if layers.isEmpty then none else some (builderText layers) := by
  rw [Element.service?, List.isEmpty_map, List.map_map]
  rfl

theorem readBuilder_builderText {layers : List Layer} (h : ∀ l ∈ layers, l.Readable)
    {rest : List Char} (hrest : readAdded rest = none) :
    readBuilder ((builderText layers).toList ++ rest) = some (layers, rest) := by
  have hmany : readMany readAdded (layers.flatMap (fun l => (addedText l).toList) ++ rest) =
      (layers, rest) := by
    refine readMany_written (fun _ => True) ?_ (fun _ _ _ _ => trivial) ?_ trivial hrest
    · intro l hl cs _
      exact readAdded_addedText (h l hl) cs
    · intro l hl hnil
      unfold addedText at hnil
      simp at hnil
  unfold builderText
  simp only [String.toList_append, String.toList_join, List.flatMap_map,
    List.append_assoc, readBuilder, expect_append, hmany, Option.bind_eq_bind, Option.bind_some,
    Option.pure_def]

/-- A bracket ends the layers of a service builder. -/
theorem readAdded_close (rest : List Char) : readAdded (")".toList ++ rest) = none := by
  simp [readAdded, expect, stripStart?]

/-! ## Directories -/

/-- A directory as it is written, without layers. -/
def filesText (s : Served) : String :=
  "tower_http::services::ServeDir::new(" ++ quote s.root ++ ")"
    ++ if s.precompressed then ".precompressed_gzip().precompressed_br()" else ""

/-- A directory with its layers. -/
def servedText (s : Served) : String :=
  match Element.service? (s.layers.map Layer.text) with
  | none => filesText s
  | some service => service ++ ".service(" ++ filesText s ++ ")"

theorem readFiles_filesText (s : Served) (rest : List Char) :
    readFiles s.layers ((filesText s).toList ++ (")".toList ++ rest)) =
      some (s, ")".toList ++ rest) := by
  obtain ⟨root, precompressed, layers⟩ := s
  have hplain : expect ".precompressed_gzip().precompressed_br()" (")".toList ++ rest) = none := by
    simp [expect, stripStart?]
  unfold filesText
  cases precompressed with
  | false =>
      rw [if_neg Bool.false_ne_true, String.append_empty]
      simp only [String.toList_append, List.append_assoc, readFiles, expect_append,
        readLiteral_quote, hplain, Option.bind_eq_bind, Option.bind_some, Option.pure_def]
  | true =>
      rw [if_pos rfl]
      simp only [String.toList_append, List.append_assoc, readFiles, expect_append,
        readLiteral_quote, Option.bind_eq_bind, Option.bind_some, Option.pure_def]

theorem readServed_servedText {s : Served} (h : ∀ l ∈ s.layers, l.Readable) (rest : List Char) :
    readServed ((servedText s).toList ++ (")".toList ++ rest)) = some (s, ")".toList ++ rest) := by
  unfold servedText
  rw [service?_text]
  cases hlayers : s.layers.isEmpty with
  | true =>
      have hbare : ∀ cs, readBuilder
          ("tower_http::services::ServeDir::new(".toList ++ cs) = none := by
        intro cs
        simp [readBuilder, expect, stripStart?]
      have hfiles := readFiles_filesText s rest
      rw [List.isEmpty_iff.mp hlayers] at hfiles
      rw [if_pos rfl, readServed, ← hfiles]
      unfold filesText
      simp only [String.toList_append, List.append_assoc, hbare]
  | false =>
      -- the service of a builder is no layer, so the layers end in front of it
      have hstop : ∀ cs, readAdded (".service(".toList ++ cs) = none := by
        intro cs
        simp [readAdded, expect, stripStart?]
      have hbuilder := fun cs => readBuilder_builderText h (hstop cs)
      simp only [Bool.false_eq_true, if_false, String.toList_append, List.append_assoc, readServed,
        hbuilder, expect_append, readFiles_filesText, Option.bind_eq_bind, Option.bind_some,
        Option.pure_def]

/-! ## Callees -/

/-- A callee as it is written. -/
def calleeText (runtime : String) : Callee → String
  | .function path => path
  | .record path => runtime ++ "::serve::<" ++ path ++ ">"

theorem calleeText_record (runtime path : String) :
    calleeText runtime (.record path) = runtime ++ "::serve::<" ++ path ++ ">" := rfl

/-- The path of a callee. -/
def calleePath : Callee → String
  | .function path => path
  | .record path => path

/-- What a callee asks of the text behind it: a function must not be taken for the binding of a
record, which a bracket further on could make of it. -/
def Before : Callee → List Char → Prop
  | .function _, rest => '<' ∉ rest
  | .record _, _ => True

theorem readCallee_calleeText (runtime : String) {c : Callee} (h : Plain (calleePath c))
    {rest : List Char} (hrest : Before c rest) :
    readCallee runtime ((calleeText runtime c).toList ++ (")".toList ++ rest)) = some (c, rest) := by
  cases c with
  | function path =>
      change Plain path at h
      have hpath := readUntil_append (Plain.not_mem_close h) ")" (by simp) rest
      -- with no bracket anywhere behind, the text cannot go on as the start of a binding
      have hbinding : expect (runtime ++ "::serve::<") (path.toList ++ (")".toList ++ rest)) =
          none := by
        have hless : '<' ∈ (runtime ++ "::serve::<").toList := by simp
        refine stripStart?_eq_none_of_mem hless ?_
        simp only [List.mem_append, not_or]
        exact ⟨Plain.not_mem_less h, by simp, hrest⟩
      change readCallee runtime (path.toList ++ (")".toList ++ rest)) = _
      simp only [readCallee, hbinding, hpath, Option.map_some]
  | record path =>
      change Plain path at h
      have hpath := readUntil_append (Plain.not_mem_greater h) ">" (by simp)
      rw [calleeText_record, String.toList_append, String.toList_append, List.append_assoc,
        List.append_assoc]
      simp only [readCallee, expect_append, hpath, Option.bind_eq_bind, Option.bind_some,
        Option.pure_def]

/-! ## Routes -/

/-- A method is found by its registration function. -/
theorem routed?_routing (m : Method) : routed? m.routing = some m := by
  cases m <;> decide

theorem routing_plain (m : Method) :
    '(' ∉ m.routing.toList ∧ '<' ∉ m.routing.toList ∧ m.routing ≠ "layer" ∧ m.routing ≠ "any" := by
  cases m <;> decide

/-- What is added to the router of a route, as it is written. -/
def moreText (runtime : String) : Added → String
  | .answer m c => "." ++ m.routing ++ "(" ++ calleeText runtime c ++ ")"
  | .layers layers => ".layer(" ++ builderText layers ++ ")"

theorem moreText_answer (runtime : String) (m : Method) (c : Callee) :
    moreText runtime (.answer m c) = "." ++ m.routing ++ "(" ++ calleeText runtime c ++ ")" := rfl

theorem moreText_layers (runtime : String) (layers : List Layer) :
    moreText runtime (.layers layers) = "." ++ "layer" ++ "(" ++ builderText layers ++ ")" := by
  rw [show ("." : String) ++ "layer" ++ "(" = ".layer(" by decide]
  rfl

theorem readMore_answer (runtime : String) (m : Method) {c : Callee} (h : Plain (calleePath c))
    {rest : List Char} (hrest : Before c rest) :
    readMore runtime ((moreText runtime (.answer m c)).toList ++ rest) =
      some (.answer m c, rest) := by
  obtain ⟨hbracket, -, hlayer, -⟩ := routing_plain m
  have hname := readUntil_append hbracket "(" (by simp)
  rw [moreText_answer]
  simp only [String.toList_append, List.append_assoc, readMore, expect_append, hname, hlayer,
    if_false, routed?_routing, readCallee_calleeText runtime h hrest, Option.bind_eq_bind,
    Option.bind_some, Option.pure_def]

theorem readMore_layers (runtime : String) {layers : List Layer} (h : ∀ l ∈ layers, l.Readable)
    (rest : List Char) :
    readMore runtime ((moreText runtime (.layers layers)).toList ++ rest) =
      some (.layers layers, rest) := by
  have hname := @readUntil_append '(' "layer" (by simp) "(" (by simp)
  rw [moreText_layers]
  simp only [String.toList_append, List.append_assoc, readMore, expect_append, hname, if_true,
    readBuilder_builderText h (readAdded_close rest), Option.bind_eq_bind, Option.bind_some,
    Option.pure_def]

/-- The layers that middleware makes. -/
def guards (targets : List Target) : List Layer := targets.map fun t => .middleware t.text

theorem map_text_guards (targets : List Target) :
    (guards targets).map Layer.text = targets.map Element.layerText := by
  rw [guards, List.map_map]
  rfl

theorem readable_of_mem_guards {targets : List Target} (h : ∀ t ∈ targets, Plain t.text) :
    ∀ l ∈ guards targets, l.Readable := by
  intro l hl
  obtain ⟨t, ht, rfl⟩ := List.mem_map.mp hl
  exact h t ht

/-- What is added to the answer of the first method. -/
def added (methods : List Method) (c : Callee) (targets : List Target) : List Added :=
  methods.tail.map (.answer · c) ++ if targets.isEmpty then [] else [.layers (guards targets)]

/-- The answers of a route. -/
def answers (methods : List Method) (c : Callee) (layers : List Layer) : List Answer :=
  match methods with
  | [] => [⟨none, c, layers⟩]
  | ms => ms.map fun m => ⟨some m, c, layers⟩

/-- The registration function of the first method. -/
def firstRouting (methods : List Method) : String := (methods.head?.map Method.routing).getD "any"

theorem firstRouting_plain (methods : List Method) : '(' ∉ (firstRouting methods).toList := by
  cases methods with
  | nil => decide
  | cons m ms => exact (routing_plain m).1

theorem answered?_firstRouting (methods : List Method) :
    answered? (firstRouting methods) = some methods.head? := by
  cases methods with
  | nil => rfl
  | cons m ms =>
      change answered? m.routing = some (some m)
      rw [answered?, if_neg (routing_plain m).2.2.2, routed?_routing, Option.map_some]

theorem foldl_addTo_answer (as : List Answer) (ms : List Method) (c : Callee) :
    (ms.map (Added.answer · c)).foldl addTo as = as ++ ms.map fun m => ⟨some m, c, []⟩ := by
  induction ms generalizing as with
  | nil => rw [List.map_nil, List.map_nil, List.append_nil]; rfl
  | cons m ms ih =>
      rw [List.map_cons, List.foldl_cons, ih, addTo, List.map_cons, List.append_assoc,
        List.singleton_append]

theorem foldl_addTo_added (methods : List Method) (c : Callee) (targets : List Target) :
    (added methods c targets).foldl addTo [⟨methods.head?, c, []⟩] =
      answers methods c (guards targets) := by
  have hplain : (methods.tail.map (Added.answer · c)).foldl addTo [⟨methods.head?, c, []⟩] =
      answers methods c [] := by
    rw [foldl_addTo_answer]
    cases methods <;> rfl
  rw [added, List.foldl_append, hplain]
  cases htargets : targets with
  | nil => rfl
  | cons t ts =>
      change (answers methods c []).map (Answer.wrap (guards (t :: ts))) = _
      cases methods with
      | nil => simp [answers, Answer.wrap]
      | cons m ms => simp [answers, Answer.wrap]

theorem layerCall_of_ne_nil {targets : List Target} (h : targets ≠ []) :
    Element.layerCall targets = ".layer(" ++ builderText (guards targets) ++ ")" := by
  have hservice : Element.service? (targets.map Element.layerText) =
      some (builderText (guards targets)) := by
    rw [← map_text_guards, service?_text, guards, List.isEmpty_map, if_neg]
    rwa [List.isEmpty_iff]
  unfold Element.layerCall
  rw [hservice]

theorem layerCall_eq (runtime : String) (targets : List Target) :
    Element.layerCall targets =
      String.join ((if targets.isEmpty then [] else [Added.layers (guards targets)]).map
        (moreText runtime)) := by
  cases targets with
  | nil => rfl
  | cons t ts =>
      rw [layerCall_of_ne_nil (List.cons_ne_nil t ts), if_neg (by simp), List.map_singleton,
        String.join_cons, String.join_nil, String.append_empty]
      rfl

theorem methodRouter_eq (runtime : String) (methods : List Method) (c : Callee) :
    Element.methodRouter methods (calleeText runtime c) =
      "axum::routing::" ++ firstRouting methods ++ "(" ++ calleeText runtime c ++ ")"
        ++ String.join ((methods.tail.map (Added.answer · c)).map (moreText runtime)) := by
  cases methods with
  | nil =>
      change "axum::routing::any(" ++ calleeText runtime c ++ ")" = _ ++ ""
      rw [String.append_empty, firstRouting, List.head?_nil, Option.map_none, Option.getD_none,
        show ("axum::routing::" : String) ++ "any" ++ "(" = "axum::routing::any(" by decide]
  | cons m ms =>
      rw [List.map_map]
      rfl

/-- Service builders with middleware have nothing that looks like a binding. -/
theorem not_mem_builderText {targets : List Target} (h : ∀ t ∈ targets, Plain t.text) :
    '<' ∉ (builderText (guards targets)).toList := by
  unfold builderText
  rw [String.toList_append, String.toList_join, List.mem_append, not_or]
  refine ⟨by simp, ?_⟩
  intro hmem
  obtain ⟨text, htext, hmem⟩ := List.mem_flatMap.mp hmem
  rw [guards, List.map_map] at htext
  obtain ⟨t, ht, rfl⟩ := List.mem_map.mp htext
  change '<' ∈ (".layer(" ++ ("axum::middleware::from_fn(" ++ t.text ++ ")") ++ ")").toList at hmem
  simp only [String.toList_append, List.mem_append] at hmem
  have hplain := (h t ht).not_mem_less
  rcases hmem with (hmem | (hmem | hmem) | hmem) | hmem
  · revert hmem
    decide
  · revert hmem
    decide
  · exact hplain hmem
  · revert hmem
    decide
  · revert hmem
    decide

/-- What is added to a route keeps functions apart from bindings. -/
theorem before_moreText (runtime : String) {methods : List Method} {c : Callee}
    (hc : Plain (calleePath c)) {targets : List Target} (htargets : ∀ t ∈ targets, Plain t.text)
    {a : Added} (ha : a ∈ added methods c targets) {cs : List Char} (hcs : Before c cs) :
    Before c ((moreText runtime a).toList ++ cs) := by
  cases c with
  | record path => trivial
  | function path =>
      change Plain path at hc
      change '<' ∉ cs at hcs
      change '<' ∉ (moreText runtime a).toList ++ cs
      rw [List.mem_append, not_or]
      refine ⟨?_, hcs⟩
      rcases List.mem_append.mp ha with ha | ha
      · obtain ⟨m, -, rfl⟩ := List.mem_map.mp ha
        obtain ⟨-, hm, -, -⟩ := routing_plain m
        rw [moreText_answer]
        change '<' ∉ ("." ++ m.routing ++ "(" ++ path ++ ")").toList
        simp only [String.toList_append, List.mem_append, not_or]
        exact ⟨⟨⟨⟨by simp, hm⟩, by simp⟩, hc.not_mem_less⟩, by simp⟩
      · cases htext : targets.isEmpty with
        | true =>
            rw [htext, if_pos rfl] at ha
            cases ha
        | false =>
            rw [htext, if_neg Bool.false_ne_true] at ha
            rw [List.mem_singleton.mp ha, moreText_layers]
            simp only [String.toList_append, List.mem_append, not_or]
            exact ⟨⟨⟨⟨by simp, by simp⟩, by simp⟩, not_mem_builderText htargets⟩, by simp⟩

theorem before_close (c : Callee) : Before c ")".toList := by
  cases c with
  | function path =>
      change '<' ∉ (")" : String).toList
      decide
  | record path => trivial

/-- All that is added to a route is read back, up to its closing bracket. -/
theorem readMany_added (runtime : String) (methods : List Method) {c : Callee}
    (hc : Plain (calleePath c)) {targets : List Target} (htargets : ∀ t ∈ targets, Plain t.text) :
    readMany (readMore runtime)
      ((added methods c targets).flatMap (fun a => (moreText runtime a).toList) ++ ")".toList) =
        (added methods c targets, ")".toList) := by
  refine readMany_written (Before c) ?_ ?_ ?_ (before_close c) ?_
  · intro a ha cs hcs
    rcases List.mem_append.mp ha with ha | ha
    · obtain ⟨m, -, rfl⟩ := List.mem_map.mp ha
      exact readMore_answer runtime m hc hcs
    · split at ha
      · cases ha
      · rw [List.mem_singleton.mp ha]
        exact readMore_layers runtime (readable_of_mem_guards htargets) cs
  · intro a ha cs hcs
    exact before_moreText runtime hc htargets ha hcs
  · intro a _ hnil
    cases a with
    | answer m c =>
        rw [moreText_answer] at hnil
        simp at hnil
    | layers ls =>
        rw [moreText_layers] at hnil
        simp at hnil
  · simp [readMore, expect, stripStart?]

/-- The router of a route is read as its answers with all layers around them. -/
theorem readAnswers_written (runtime : String) (methods : List Method) {c : Callee}
    (hc : Plain (calleePath c)) {targets : List Target} (htargets : ∀ t ∈ targets, Plain t.text) :
    readAnswers runtime ((Element.methodRouter methods (calleeText runtime c)).toList
        ++ ((Element.layerCall targets).toList ++ ")".toList)) =
      some (answers methods c (guards targets), ")".toList) := by
  -- the first callee stands in front of all that is added, so none of that may look like a binding
  have hbehind := keep_written (Before c)
    (fun a ha cs => @before_moreText runtime methods c hc targets htargets a ha cs) (before_close c)
  have hmore := readMany_added runtime methods hc htargets
  have hname := readUntil_append (firstRouting_plain methods) "(" (by simp)
  have htext : (Element.methodRouter methods (calleeText runtime c)).toList
        ++ ((Element.layerCall targets).toList ++ ")".toList) =
      "axum::routing::".toList ++ ((firstRouting methods).toList ++ ("(".toList
        ++ ((calleeText runtime c).toList ++ (")".toList
          ++ ((added methods c targets).flatMap (fun a => (moreText runtime a).toList)
            ++ ")".toList))))) := by
    rw [methodRouter_eq, layerCall_eq runtime, added, List.flatMap_append]
    simp only [String.toList_append, String.toList_join, List.flatMap_map, List.append_assoc]
  rw [htext]
  simp only [readAnswers, expect_append, hname, answered?_firstRouting,
    readCallee_calleeText runtime hc hbehind, hmore, foldl_addTo_added, Option.bind_eq_bind,
    Option.bind_some, Option.pure_def]

end Chain

end RouteWorks
