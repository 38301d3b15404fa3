import RouteWorks.Proofs.Field.Attribute
import RouteWorks.Proofs.Generate.Structure

/-!
# Request keys of generated fields

A field of a record handler has a name in the request: the one it is declared with, or else its own in snake
case.  The generated file has this name in two places, and writes it in neither when it can be told from the
identifier: the attributes of the field (`requestKey?`), and the calls that store uploaded files
(`readSave?`).  Both are read back here as the name of the declaration, also for identifiers that reserved words
were made into (`Template.handler_keys`).
-/

namespace RouteWorks

open Text Template
open Attribute (Item)

/-! ## Identifiers without their mark -/

namespace Name

variable {a : String}

/-- An identifier without the mark of a raw name. -/
def unraw (ident : String) : String :=
  String.ofList ((stripStart? "r#".toList ident.toList).getD ident.toList)

/-- Escaping is undone by taking the mark away, unless the word has no raw form. -/
theorem unraw_escape (ha : IsWritten a) (hraw : unescapable.contains a = false) :
    unraw (escape a) = a := by
  have hmark : '#' ∉ a.toList := fun hmem => absurd (ha.chars '#' hmem) (by decide)
  rw [escape, hraw, if_neg Bool.false_ne_true]
  split
  · rw [unraw, String.toList_append, stripStart?_append, Option.getD_some, String.ofList_toList]
  · rw [unraw, stripStart?_mark hmark, Option.getD_none, String.ofList_toList]

end Name

/-! ## Keys in attributes -/

namespace Attribute

/-- Whether an attribute is about binding. -/
def isParam (text : String) : Bool := ((readWord (skipBlanks text.toList)).map Prod.fst) == some "param"

theorem isParam_attribute (b : Binding) : isParam b.attribute = true := by
  have hword : IsWord "param" := by decide
  rw [isParam, Binding.attribute_eq, String.append_assoc, String.append_assoc, String.toList_append,
    skipBlanks_word hword, readWord_append hword]
  · rfl
  · intro c hc
    rw [String.toList_append, List.head?_append_of_ne_nil _ (by decide)] at hc
    obtain rfl := Option.some.inj hc
    decide

end Attribute

namespace Template

open Attribute (isParam)

/-- The key that a field is bound under: the name in its attributes, or else its identifier without the mark
of a raw name.  There is none when the field is not bound. -/
def requestKey? (attributes : List String) (ident : String) : Option String := do
  let params ← (attributes.filter isParam).mapM Attribute.read?
  let items := params.flatMap Prod.snd
  if .flag "skip" ∈ items then none
  else
    let binding ← Binding.ofParts? (← items.mapM Binding.Part.ofItem?)
    return binding.key.getD (Name.unraw ident)

/-- The key that a field of a structure is bound under. -/
def FieldLine.requestKey? (l : FieldLine) : Option String := Template.requestKey? l.attributes l.ident

theorem filter_isParam_eq_nil {attributes : List String} (h : ∀ a ∈ attributes, isParam a = false) :
    attributes.filter isParam = [] :=
  List.filter_eq_nil_iff.mpr fun a ha => Bool.not_eq_true _ ▸ h a ha

/-- A field without attributes about binding is not bound. -/
theorem requestKey?_eq_none {attributes : List String} (h : ∀ a ∈ attributes, isParam a = false)
    (ident : String) : requestKey? attributes ident = none := by
  rw [requestKey?, filter_isParam_eq_nil h]
  rfl

/-- A field with one attribute about binding is bound as it says. -/
theorem requestKey?_attribute {others : List String} (b : Binding) (ident : String)
    (hothers : ∀ a ∈ others, isParam a = false) :
    requestKey? (b.attribute :: others) ident = some (b.key.getD (Name.unraw ident)) := by
  have hparams : (b.attribute :: others).filter isParam = [b.attribute] := by
    rw [List.filter_cons_of_pos (Attribute.isParam_attribute b), filter_isParam_eq_nil hothers]
  have hread : [b.attribute].mapM Attribute.read? = some [("param", b.parts.map Binding.Part.item)] := by
    simp [Binding.read?_attribute]
  have hskip : Item.flag "skip" ∉ b.parts.map Binding.Part.item := by
    intro hmem
    obtain ⟨p, -, hp⟩ := List.mem_map.mp hmem
    have hpart := Binding.Part.ofItem?_item p
    rw [hp] at hpart
    cases hpart
  rw [requestKey?, hparams, hread]
  simp only [Option.bind_eq_bind, Option.bind_some, List.flatMap_cons, List.flatMap_nil, List.append_nil,
    if_neg hskip, Binding.mapM_ofItem?, Binding.ofParts?_parts, Option.pure_def]

/-- A field that is said to be skipped is not bound. -/
theorem requestKey?_skip (ident : String) : requestKey? ["param(skip)"] ident = none := by
  have hparams : ["param(skip)"].filter isParam = ["param(skip)"] := by decide
  have hread : ["param(skip)"].mapM Attribute.read? = some [("param", [.flag "skip"])] := by decide
  rw [requestKey?, hparams, hread]
  rfl

end Template

/-! ## Keys of declared fields -/

/-- The name of a field in the request: the one it is declared with, or its own. -/
def NamedField.requestName (p : NamedField) : String := p.1.key.getD p.2.snake

namespace Field

variable {f : Field} {i : Identifier}

/-- The name in the attribute of a bound field, if one is written. -/
def writtenKey? (f : Field) (i : Identifier) : Option String :=
  match f.key with
  | some key => some key
  | none => if Name.unescapable.contains i.snake then some i.snake else none

/-- When no name is written, the identifier tells it. -/
theorem getD_writtenKey? (f : Field) (i : Identifier) :
    (f.writtenKey? i).getD (Name.unraw (Name.escape i.snake)) = NamedField.requestName (f, i) := by
  change (f.writtenKey? i).getD _ = f.key.getD i.snake
  unfold writtenKey?
  cases f.key with
  | some key => simp only [Option.getD_some]
  | none =>
      by_cases hraw : Name.unescapable.contains i.snake = true
      · simp only [if_pos hraw, Option.getD_some, Option.getD_none]
      · have hescape := Name.unraw_escape (Name.isWritten_snake i.canonical) (Bool.not_eq_true _ ▸ hraw)
        simp only [if_neg hraw, Option.getD_none]
        exact hescape

theorem declare_eq (h : Identifier.ofName f.name = .ok i) :
    f.declare = .ok {
      canonical := i.canonical
      ident := Name.escape i.snake
      type := trim f.type
      binding := f.position.map fun position =>
        { position, key := f.writtenKey? i, constraints := f.constraints }
      attributes := f.attributes
      companion := f.upload?.map (companion i.canonical) } := by
  rw [declare, h, writtenKey?]
  cases f.key with
  | some key => rfl
  | none => rfl

end Field

/-- A declaration binds a field under its name in the request: its attribute says so, and so does what is
stored from the form. -/
structure BindsByName (p : NamedField) (d : Declaration) : Prop where
  named : Identifier.ofName p.1.name = .ok p.2
  declared : p.1.declare = .ok d
  bound : ∀ position, p.1.position = some position → ∃ b, d.binding = some b ∧
    b.position = position ∧ requestKey? [b.attribute] d.ident = some p.requestName
  form : p.1.position.isSome → formName d = p.requestName
  /-- Other attributes make no difference unless they are about binding themselves. -/
  own : (∀ a ∈ p.1.attributes, Attribute.isParam a = false) → ∀ l, (fieldLines d).head? = some l →
    l.requestKey? = if p.1.position.isSome then some p.requestName else none
  companion : ∀ l ∈ (fieldLines d).tail, l.requestKey? = none

theorem exists_bindsByName {p : NamedField} (h : Identifier.ofName p.1.name = .ok p.2) :
    ∃ d, BindsByName p d := by
  obtain ⟨f, i⟩ := p
  have hkey := f.getD_writtenKey? i
  have hserde : ∀ a ∈
      (if (f.upload?.map (Field.companion i.canonical)).isSome then ["serde(skip)"] else []),
      Attribute.isParam a = false := by
    intro a ha
    split at ha
    · rw [List.mem_singleton.mp ha]
      decide
    · cases ha
  refine ⟨_, h, Field.declare_eq h, ?_, ?_, ?_, ?_⟩
  · intro position hposition
    dsimp only at hposition ⊢
    rw [hposition]
    refine ⟨_, rfl, rfl, ?_⟩
    rw [← hkey]
    exact requestKey?_attribute _ _ (List.forall_mem_nil _)
  · intro hposition
    obtain ⟨position, hposition⟩ := Option.isSome_iff_exists.mp hposition
    dsimp only at hposition
    rw [← hkey, formName]
    dsimp only
    rw [hposition]
    rfl
  · intro hplain l hl
    have hother := List.forall_mem_append.mpr ⟨hplain, hserde⟩
    obtain rfl := Option.some.inj hl
    rw [FieldLine.requestKey?]
    dsimp only at hother ⊢
    rw [List.append_assoc]
    cases f.position with
    | none =>
        simp only [Option.map_none, Option.toList_none, List.nil_append, Option.isSome_none,
          Bool.false_eq_true, if_false]
        exact requestKey?_eq_none hother _
    | some position =>
        simp only [Option.map_some, Option.toList_some, Option.isSome_some, if_true]
        rw [← hkey]
        exact requestKey?_attribute _ _ hother
  · intro l hl
    obtain ⟨c, -, rfl⟩ := Option.map_eq_some_iff.mp (Option.mem_toList.mp hl)
    exact requestKey?_skip c.ident

/-! ## Calls that store uploads -/

/-- Reads the line of a call that stores what is sent under a name in the form. -/
def readSave? (line : String) : Option (UploadKind × String) :=
  (call "        match ctx.save_file(" .single).or (call "        match ctx.save_files(" .multi)
where
  /-- Reads a call with this beginning. -/
  call (start : String) (kind : UploadKind) : Option (UploadKind × String) := do
    let (name, rest) ← readLiteral (← expect start line.toList)
    if (← expect ", false).await \x7b" rest).isEmpty then some (kind, name) else none

/-- No call is read in a line that does not have the word of a call after the first blanks. -/
theorem readSave?_eq_none {line : String} (h : line.toList[8]? ≠ some 'm') : readSave? line = none := by
  have hsingle : "        match ctx.save_file(".toList[8]? = some 'm' := by decide
  have hmulti : "        match ctx.save_files(".toList[8]? = some 'm' := by decide
  simp only [readSave?, readSave?.call, expect, stripStart?_eq_none_of_getElem? hsingle h,
    stripStart?_eq_none_of_getElem? hmulti h, Option.bind_eq_bind, Option.bind_none, Option.or_none]

theorem call_quote (start : String) (kind : UploadKind) (name : String) :
    readSave?.call (start ++ quote name ++ ", false).await \x7b") start kind = some (kind, name) := by
  have htext : (start ++ quote name ++ ", false).await \x7b").toList =
      start.toList ++ ((quote name).toList ++ (", false).await \x7b".toList ++ [])) := by
    simp [String.toList_append]
  rw [readSave?.call, htext]
  simp only [expect_append, readLiteral_quote, Option.bind_eq_bind, Option.bind_some]
  rfl

theorem readSave?_single (name : String) :
    readSave? ("        match ctx.save_file(" ++ quote name ++ ", false).await \x7b") =
      some (.single, name) := by
  rw [readSave?, call_quote]
  rfl

theorem readSave?_multi (name : String) :
    readSave? ("        match ctx.save_files(" ++ quote name ++ ", false).await \x7b") =
      some (.multi, name) := by
  have hsingle : readSave?.call ("        match ctx.save_files(" ++ quote name ++ ", false).await \x7b")
      "        match ctx.save_file(" .single = none := by
    simp [readSave?.call, expect, stripStart?]
  rw [readSave?, hsingle, call_quote]
  rfl

/-- Each upload is stored by one call. -/
theorem readSave?_uploadLines (token : String) (d : Declaration) (c : Companion) :
    (uploadLines token d c).filterMap readSave? = [(c.kind, formName d)] := by
  have hlines : ∀ line ∈ saveFailure, line.toList[8]? ≠ some 'm' := by decide +kernel
  have hfailure : saveFailure.filterMap readSave? = [] :=
    List.filterMap_eq_nil_iff.mpr fun line hline => readSave?_eq_none (hlines line hline)
  have hone : ∀ place, readSave? ("            Ok(Some(saved)) => " ++ place ++ " = saved.url,") = none :=
    fun place => readSave?_eq_none (by simp)
  have hnone : readSave? "            Ok(None) => \x7b\x7d" = none := readSave?_eq_none (by decide)
  have hmany : ∀ place, readSave? ("            Ok(saved) => " ++ place ++
      ".extend(saved.into_iter().map(|s| s.url)),") = none :=
    fun place => readSave?_eq_none (by simp)
  unfold uploadLines
  cases c.kind with
  | single =>
      simp only [List.filterMap_append, List.filterMap_cons, List.filterMap_nil, readSave?_single, hone, hnone,
        hfailure, List.append_nil]
  | multi =>
      simp only [List.filterMap_append, List.filterMap_cons, List.filterMap_nil, readSave?_multi, hmany,
        hfailure, List.append_nil]

/-- The body that is written by default stores all uploads, each under its name in the form. -/
theorem readSave?_recordBody {h : Handler} (hbody : h.body = none) (ds : List Declaration) :
    (recordBody h ds).filterMap readSave? =
      (Declaration.uploads ds).map fun u => (u.2.kind, formName u.1) := by
  have hfirst : ∀ start token, readSave? ("        let " ++ start ++ token ++ " = self;") = none :=
    fun start token => readSave?_eq_none (by simp)
  have hlast : ∀ token, readSave? ("        ctx.json(StatusCode::OK, &" ++ token ++ ")") = none :=
    fun token => readSave?_eq_none (by simp)
  rw [recordBody, hbody]
  simp only [List.filterMap_append, List.filterMap_cons, List.filterMap_nil, hfirst, hlast,
    List.filterMap_flatMap, readSave?_uploadLines, List.nil_append, List.append_nil]
  exact List.map_eq_flatMap.symm

/-! ## Keys of a handler -/

/-- What is stored for a field is stored under its name. -/
theorem BindsByName.upload {p : NamedField} {d : Declaration} (h : BindsByName p d) :
    (d.companion.map fun c => (c.kind, formName d)) =
      p.1.upload?.map fun kind => (kind, p.requestName) := by
  have hkind : ∀ canonical kind, (Field.companion canonical kind).kind = kind := by
    intro canonical kind
    cases kind <;> rfl
  have hcompanion : d.companion = p.1.upload?.map (Field.companion p.2.canonical) := by
    have hd := h.declared
    rw [Field.declare_eq h.named] at hd
    rw [← Except.ok.inj hd]
  rw [hcompanion, Option.map_map]
  cases hupload : p.1.upload? with
  | none => rfl
  | some kind =>
      have hbound : p.1.position.isSome = true := by
        by_contra hnone
        rw [Field.upload?, if_neg hnone] at hupload
        cases hupload
      simp only [Option.map_some, Function.comp_apply, hkind, h.form hbound]

theorem declareAll_of_bindsByName {named : List NamedField} {ds : List Declaration}
    (h : List.Forall₂ BindsByName named ds) : Field.declareAll (named.map Prod.fst) = .ok ds :=
  mapM_eq_ok_iff_forall₂.mpr (List.forall₂_map_left_iff.mpr (h.imp fun _ _ h => h.declared))

theorem map_uploads {named : List NamedField} {ds : List Declaration}
    (h : List.Forall₂ BindsByName named ds) :
    (Declaration.uploads ds).map (fun u => (u.2.kind, formName u.1)) =
      named.filterMap fun p => p.1.upload?.map fun kind => (kind, p.requestName) := by
  rw [Declaration.uploads, List.map_filterMap]
  induction h with
  | nil => rfl
  | cons hfirst _ ih =>
      rw [List.filterMap_cons, List.filterMap_cons, ih, Option.map_map, Function.comp_def, hfirst.upload]

theorem exists_recordBelow (h : Handler) (ds : List Declaration) (runtime : String) :
    ∃ opening closing, recordBelow h ds runtime = opening ++ (recordBody h ds ++ closing) := by
  simp only [recordBelow, List.append_assoc]
  exact ⟨_, _, rfl⟩

/-- The names of the fields of a record handler in the request.  Each bound field is bound under the name that
it is declared with, or else under its own in snake case; and the body that is written by default stores each
upload from the form under this name as well. -/
theorem Template.handler_keys {handler : String} {h : Handler} {fields : List Field} (runtime : String)
    (hfields : h.fields = some fields) (hchecked : Field.checkAll handler fields = .ok ()) :
    ∃ (named : List NamedField) (ds : List Declaration) (above opening closing : List String)
        (text : String),
      named.map Prod.fst = fields ∧ List.Forall₂ BindsByName named ds ∧
      Template.handler h runtime = .ok text ∧
      text = block (above ++ (structLines h.name.canonical (ds.flatMap fieldLines) ++
        (opening ++ (recordBody h ds ++ closing)))) ++ "\x7d" ∧
      (h.body = none → (recordBody h ds).filterMap readSave? =
        named.filterMap fun p => p.1.upload?.map fun kind => (kind, p.requestName)) := by
  obtain ⟨named, rfl, hnames⟩ := exists_named hchecked
  obtain ⟨ds, hds⟩ := exists_forall₂ fun p hp => exists_bindsByName (hnames p hp)
  have hdeclared := declareAll_of_bindsByName hds
  obtain ⟨opening, closing, hbelow⟩ := exists_recordBelow h ds runtime
  have htext := recordHandler_eq (h := h) hdeclared runtime
  rw [hbelow] at htext
  refine ⟨named, ds, recordAbove h (named.map Prod.fst) runtime, opening, closing, _, rfl, hds, ?_, rfl, ?_⟩
  · rw [Template.handler, hfields]
    exact htext
  · intro hbody
    rw [readSave?_recordBody hbody, map_uploads hds]

/-- Uploads and a parameter that are called like reserved words. -/
def reservedFields : List Field :=
  [{ name := "crate", type := "UploadedFile", position := some .form },
   { name := "type", type := "Vec<UploadedFile>", position := some .form },
   { name := "self", type := "String", position := some .query }]

theorem Template.handler_keys_reserved :
    Field.checkAll "Profile" reservedFields = .ok () ∧
      ∃ ds text, Template.handler (profileHandler reservedFields) defaultRuntime = .ok text ∧
        ds.map Declaration.ident = ["crate_", "r#type", "self_"] ∧
        (recordBody (profileHandler reservedFields) ds).filterMap readSave? =
          [(.single, "crate"), (.multi, "type")] := by
  have hchecked : Field.checkAll "Profile" reservedFields = .ok () := by decide
  obtain ⟨named, ds, above, opening, closing, text, hfst, hbinds, htext, -, hsaved⟩ :=
    Template.handler_keys (h := profileHandler reservedFields) defaultRuntime rfl hchecked
  refine ⟨hchecked, ds, text, htext, ?_, ?_⟩
  · have hdeclared := declareAll_of_bindsByName hbinds
    obtain ⟨ds', hds', hidents⟩ := exists_ok_of_toOption (x := Field.declareAll reservedFields)
      (f := fun ds => ds.map Declaration.ident) (b := ["crate_", "r#type", "self_"]) (by decide)
    rw [hfst, hds'] at hdeclared
    obtain rfl := Except.ok.inj hdeclared
    exact hidents
  · have hnames : ∀ p ∈ named, p.requestName =
        p.1.key.getD (Name.snake (Name.camel (trim p.1.name))) := by
      intro p hp
      obtain ⟨d, -, h⟩ := exists_right_of_forall₂ hbinds hp
      rw [NamedField.requestName, Identifier.snake, Identifier.ofName_eq_ok_iff.mp h.named]
    have hsaves : (named.filterMap fun p => p.1.upload?.map fun kind => (kind, p.requestName)) =
        (named.map Prod.fst).filterMap fun f => f.upload?.map fun kind =>
          (kind, f.key.getD (Name.snake (Name.camel (trim f.name)))) := by
      rw [List.filterMap_map]
      refine List.filterMap_congr fun p hp => ?_
      rw [Function.comp_apply, hnames p hp]
    rw [hsaved rfl, hsaves, hfst]
    decide

end RouteWorks
