import RouteWorks.Generate.Template
import RouteWorks.Proofs.Chain.Lines
import RouteWorks.Proofs.Field.Companion
import RouteWorks.Proofs.Project.Registration
import RouteWorks.Proofs.Text.Ordered

/-!
# The structure of a record handler

The file of a handler with fields has one structure.  Its fields are read back from the file
(`structFields`): there is one for each field of the handler, in the order of the declaration, and
behind each bound upload field its companion.  Companions never clash with each other, so two of all
these names are the same only if a declared field already has the name of a companion.
-/

namespace RouteWorks

open Template Text

/-! ## Declared fields and their companions -/

/-- The fields of the structure that a field of the handler stands for. -/
inductive FieldGroup (f : Field) (i : Identifier) : List FieldLine → Prop
  | plain {own : FieldLine} (hupload : f.upload? = none) (hident : own.ident = Name.escape i.snake)
      (htype : own.type = trim f.type) : FieldGroup f i [own]
  | upload {own companion : FieldLine} {kind : UploadKind} (hupload : f.upload? = some kind)
      (hident : own.ident = Name.escape i.snake) (htype : own.type = trim f.type)
      (hname : companion.ident = Name.snake (i.canonical ++ kind.suffix))
      (hcompanion : companion.type = kind.companionType) : FieldGroup f i [own, companion]

namespace Field

variable {f : Field} {i : Identifier} {d : Declaration}

theorem ident_companion (canonical : String) (kind : UploadKind) :
    (companion canonical kind).ident = Name.snake (canonical ++ kind.suffix) ∧
      (companion canonical kind).type = kind.companionType := by
  rw [← kind.escape_companion canonical]
  cases kind with
  | single => simp only [companion, UploadKind.suffix, UploadKind.companionType, and_self]
  | multi => simp only [companion, UploadKind.suffix, UploadKind.companionType, and_self]

theorem exists_declare_of_ofName (h : Identifier.ofName f.name = .ok i) :
    ∃ d, f.declare = .ok d ∧ FieldGroup f i (fieldLines d) := by
  rw [declare, h]
  refine ⟨_, rfl, ?_⟩
  unfold fieldLines
  cases hupload : f.upload? with
  | none =>
      refine .plain hupload ?_ ?_
      · dsimp only
      · dsimp only
  | some kind =>
      obtain ⟨hname, htype⟩ := ident_companion i.canonical kind
      refine .upload hupload ?_ ?_ hname htype
      · dsimp only
      · dsimp only

end Field

/-- A field of a handler with the name that it is declared under. -/
abbrev NamedField := Field × Identifier

namespace NamedField

/-- The name of the companion, if the field has one. -/
def companionName? (p : NamedField) : Option String :=
  p.1.upload?.map fun kind => Name.snake (p.2.canonical ++ kind.suffix)

/-- The names that a field takes in the structure. -/
def takes (p : NamedField) : List String := p.2.snake :: p.companionName?.toList

theorem map_ident_of_fieldGroup {p : NamedField} {group : List FieldLine}
    (h : FieldGroup p.1 p.2 group) : group.map FieldLine.ident = p.takes.map Name.escape := by
  cases h with
  | plain hupload hident htype => simp [takes, companionName?, hupload, hident]
  | upload hupload hident htype hname hcompanion =>
      rename_i kind
      simp [takes, companionName?, hupload, hident, hname, kind.escape_companion]

theorem isWritten_of_mem_takes {p : NamedField} {name : String} (h : name ∈ p.takes) :
    Name.IsWritten name := by
  rw [takes, List.mem_cons, Option.mem_toList] at h
  rcases h with rfl | h
  · exact Name.isWritten_snake _
  · obtain ⟨kind, -, rfl⟩ := Option.map_eq_some_iff.mp h
    exact Name.isWritten_snake _

/-- Fields with different names have companions with different names. -/
theorem companionName?_ne {p q : NamedField} (h : p.2.snake ≠ q.2.snake) :
    ∀ a, p.companionName? = some a → ∀ b, q.companionName? = some b → a ≠ b := by
  rintro a ha b hb rfl
  obtain ⟨kind, -, ha⟩ := Option.map_eq_some_iff.mp ha
  obtain ⟨kind', -, hb⟩ := Option.map_eq_some_iff.mp hb
  exact h (UploadKind.companion_inj (ha.trans hb.symm)).2

/-- When no two fields have one name, the names of the structure are different unless a field has the
name of a companion. -/
theorem nodup_takes_iff {named : List NamedField} (h : (named.map fun p => p.2.snake).Nodup) :
    (named.flatMap takes).Nodup ↔
      ∀ p ∈ named, ∀ q ∈ named, q.companionName? ≠ some p.2.snake := by
  -- up to order, the declared names come first and the companions behind them
  have hperm : (named.map (fun p => p.2.snake) ++ named.filterMap companionName?).Perm
      (named.flatMap takes) := by
    rw [List.map_eq_flatMap, List.filterMap_eq_flatMap_toList]
    exact List.flatMap_append_perm named (fun p => [p.2.snake]) fun p => p.companionName?.toList
  have hcompanions : (named.filterMap companionName?).Nodup := by
    rw [List.nodup_iff_pairwise_ne, List.pairwise_filterMap]
    rw [List.nodup_iff_pairwise_ne, List.pairwise_map] at h
    exact h.imp companionName?_ne
  rw [← hperm.nodup_iff, List.nodup_append]
  constructor
  · rintro ⟨-, -, hdisjoint⟩ p hp q hq hname
    exact hdisjoint _ (List.mem_map_of_mem hp) _ (List.mem_filterMap.mpr ⟨q, hq, hname⟩) rfl
  · intro hfree
    refine ⟨h, hcompanions, ?_⟩
    intro a ha b hb heq
    obtain ⟨p, hp, rfl⟩ := List.mem_map.mp ha
    obtain ⟨q, hq, hname⟩ := List.mem_filterMap.mp hb
    exact hfree p hp q hq (heq ▸ hname)

end NamedField

/-! ## What stands above the code of a file -/

/-- A line that declares nothing public: a comment, an import, an attribute or an empty line. -/
def IsPreface (line : String) : Prop := Unbroken line ∧ line.toList.head? ≠ some 'p'

instance (line : String) : Decidable (IsPreface line) := inferInstanceAs (Decidable (_ ∧ _))

theorem IsPreface.append {mark text : String} (h : IsPreface mark) (hne : mark ≠ "")
    (htext : Unbroken text) : IsPreface (mark ++ text) := by
  refine ⟨(unbroken_append mark text).mpr ⟨h.1, htext⟩, ?_⟩
  rw [String.toList_append, List.head?_append_of_ne_nil _ (mt String.toList_eq_nil_iff.mp hne)]
  exact h.2

/-- No public item starts in such a line. -/
theorem IsPreface.stripStart?_eq_none {line item : String} (h : IsPreface line)
    (hitem : item.toList.head? = some 'p') : stripStart? item.toList line.toList = none := by
  obtain ⟨rest, hrest⟩ := List.head?_eq_some_iff.mp hitem
  rw [hrest]
  cases hline : line.toList with
  | nil => rfl
  | cons c cs =>
      have hc : ¬('p' == c) = true := by
        intro heq
        refine h.2 ?_
        rw [hline, ← eq_of_beq heq]
        rfl
      rw [stripStart?, if_neg hc]

theorem IsPreface.startsWith_eq_false {line item : String} (h : IsPreface line)
    (hitem : item.toList.head? = some 'p') : startsWith line item = false := by
  rw [startsWith, h.stripStart?_eq_none hitem]
  rfl

/-- A comment about what is called like this. -/
theorem isPreface_comment {mark : String} (h : IsPreface mark) (hne : mark ≠ "") (name : Identifier)
    {text : String} (htext : Unbroken text) : IsPreface (mark ++ name.canonical ++ text) := by
  rw [String.append_assoc]
  exact h.append hne ((unbroken_append _ _).mpr ⟨(spelled_canonical name).unbroken, htext⟩)

/-- The documentation of a handler is written line by line. -/
theorem isPreface_of_mem_docLines {h : Handler} {line : String} (hline : line ∈ docLines h) :
    IsPreface line := by
  obtain ⟨text, htext, rfl⟩ := List.mem_map.mp hline
  have hmark : IsPreface "/// " := by decide
  refine hmark.append (by decide) ?_
  rcases List.mem_cons.mp htext with rfl | htext
  · exact (spelled_canonical h.name).unbroken
  · obtain ⟨note, hnote, rfl⟩ := List.mem_map.mp htext
    intro hmem
    rw [trimEnd, String.toList_ofList, dropEndWhile_eq] at hmem
    exact unbroken_of_mem_lines hnote ((List.rdropWhile_prefix _ _).subset hmem)

/-! ## The lines of the file -/

/-- The lines above the structure of a record handler. -/
def recordAbove (h : Handler) (fields : List Field) (runtime : String) : List String :=
  ["//! " ++ h.name.canonical ++ " handler.",
   "",
   "use axum::http::StatusCode;",
   "use axum::response::Response;",
   "use serde::Serialize;",
   "use " ++ runtime ++ "::"
     ++ braced (join ", " (Ordered.ofList (["Bind", "Context", "Serve"] ++ Field.imports fields)))
     ++ ";",
   ""]
    ++ docLines h
    ++ ["#[derive(Debug, Default, Bind, Serialize)]"]
    ++ if runtime = defaultRuntime then [] else ["#[bind(crate = " ++ quote runtime ++ ")]"]

/-- The lines of a structure. -/
def structLines (name : String) (fields : List FieldLine) : List String :=
  ("pub struct " ++ name ++ " \x7b") :: (fields.flatMap FieldLine.lines ++ ["\x7d"])

/-- The lines below the structure of a record handler. -/
def recordBelow (h : Handler) (ds : List Declaration) (runtime : String) : List String :=
  ["",
   "impl Serve for " ++ h.name.canonical ++ " \x7b",
   "    async fn serve(self, ctx: &mut Context) -> Response \x7b"]
    ++ recordBody h ds
    ++ ["    \x7d"]
    ++ if hasDoc h then
      ["",
       "    fn doc() -> " ++ runtime ++ "::Doc \x7b",
       "        " ++ runtime ++ "::Doc \x7b",
       "            note: " ++ quote h.note ++ ",",
       "            returns: " ++ quote h.returns ++ ",",
       "        \x7d",
       "    \x7d"]
    else []

theorem recordHandler_eq {h : Handler} {fields : List Field} {ds : List Declaration}
    (hds : Field.declareAll fields = .ok ds) (runtime : String) :
    recordHandler h fields runtime =
      .ok (block (recordAbove h fields runtime ++
        (structLines h.name.canonical (ds.flatMap fieldLines) ++ recordBelow h ds runtime))
        ++ "\x7d") := by
  rw [recordHandler, hds]
  simp only [recordAbove, structLines, recordBelow, List.append_assoc, List.cons_append,
    List.nil_append]
  rfl

/-- Reads a line that declares a field. -/
def readField? (line : String) : Option (String × String) := do
  let rest ← expect "    pub " line.toList
  let (ident, rest) ← readUntil ':' rest
  let type ← expect " " rest
  if type.getLast? = some ',' then some (ident, String.ofList type.dropLast) else none

/-- The fields of the first structure of a file, each with its type. -/
def structFields (text : String) : List (String × String) :=
  let inside := ((lineParts text).dropWhile fun line => !startsWith line "pub struct ").drop 1
  (inside.takeWhile (· ≠ "\x7d")).filterMap readField?

theorem readField?_line {ident : String} (h : ':' ∉ ident.toList) (type : String) :
    readField? ("    pub " ++ ident ++ ": " ++ type ++ ",") = some (ident, type) := by
  have hline : ("    pub " ++ ident ++ ": " ++ type ++ ",").toList =
      "    pub ".toList ++ (ident.toList ++ (":".toList ++ (" ".toList ++ (type.toList ++ [',']))))
      := by
    simp [String.toList_append]
  rw [readField?, hline]
  simp only [expect_append, readUntil_append h ":" rfl, Option.bind_eq_bind, Option.bind_some]
  simp

theorem readField?_attribute (text : String) : readField? ("    #[" ++ text ++ "]") = none := by
  simp [readField?, expect, stripStart?]

/-- The fields of a file are those in the lines between the one that opens the structure and the one
that closes it. -/
theorem structFields_lines {above inside : List String} {head : String}
    (habove : ∀ line ∈ above, IsPreface line)
    (hhead : Unbroken head ∧ startsWith head "pub struct " = true)
    (hinside : ∀ line ∈ inside, Unbroken line ∧ line ≠ "\x7d") (below : List String) (last : String) :
    structFields
      (String.join ((above ++ head :: (inside ++ "\x7d" :: below)).map (· ++ "\n")) ++ last) =
      inside.filterMap readField? := by
  have hskip : ∀ line ∈ above, (!startsWith line "pub struct ") = true := by
    intro line hline
    rw [(habove line hline).startsWith_eq_false rfl]
    rfl
  have hopen : ¬(!startsWith head "pub struct ") = true := by
    rw [hhead.2]
    decide
  have hkeep : ∀ line ∈ inside, decide (line ≠ "\x7d") = true :=
    fun line hline => decide_eq_true (hinside line hline).2
  have hclose : lineParts "\x7d" = ["\x7d"] := lineParts_eq_self_iff.mpr (unbroken_ofList rfl)
  rw [structFields, lineParts_above (fun l hl => (habove l hl).1) hhead.1, List.flatMap_append,
    flatMap_lineParts fun l hl => (hinside l hl).1, List.flatMap_cons, hclose]
  simp only [List.append_assoc, List.cons_append, List.nil_append]
  rw [List.dropWhile_append_of_pos hskip,
    List.dropWhile_cons_of_neg (p := fun line => !startsWith line "pub struct ") hopen,
    List.drop_one, List.tail_cons, List.takeWhile_append_of_pos hkeep,
    List.takeWhile_cons_of_neg (by decide), List.append_nil]

/-! ## Lines without line feeds -/

theorem unbroken_constraint (c : Constraint) : Unbroken c.text := by
  have hmegabytes : ∀ n : Nat, Unbroken (toString n) := by
    intro n hmem
    rw [Nat.toString_eq_ofList_toDigits, String.toList_ofList] at hmem
    exact absurd (Nat.isDigit_of_mem_toDigits (by decide) (by decide) hmem) (by decide)
  cases c with
  | required => exact unbroken_ofList rfl
  | nonzero => exact unbroken_ofList rfl
  | maxmb n => exact (unbroken_append _ _).mpr ⟨unbroken_ofList rfl, hmegabytes n⟩
  | _ => exact (unbroken_append _ _).mpr ⟨unbroken_ofList rfl, unbroken_quote _⟩

/-- The attribute of a bound field is one line, whatever its rules say. -/
theorem unbroken_attribute (b : Binding) : Unbroken b.attribute := by
  have hparts : ∀ part ∈ ("in = " ++ quote b.position.word)
      :: ((b.key.map fun k => "name = " ++ quote k).toList ++ b.constraints.map Constraint.text),
      Unbroken part := by
    intro part hpart
    rw [List.mem_cons, List.mem_append, Option.mem_toList, Option.map_eq_some_iff, List.mem_map]
      at hpart
    rcases hpart with rfl | ⟨key, -, rfl⟩ | ⟨c, -, rfl⟩
    · exact (unbroken_append _ _).mpr ⟨unbroken_ofList rfl, unbroken_quote _⟩
    · exact (unbroken_append _ _).mpr ⟨unbroken_ofList rfl, unbroken_quote _⟩
    · exact unbroken_constraint c
  rw [Binding.attribute, unbroken_append, unbroken_append]
  exact ⟨⟨unbroken_ofList rfl, unbroken_join (unbroken_ofList rfl) hparts⟩, unbroken_ofList rfl⟩

/-- A field that is written on lines of its own. -/
structure Template.FieldLine.OnLines (l : FieldLine) : Prop where
  attributes : ∀ a ∈ l.attributes, Unbroken a
  ident : ∀ c ∈ l.ident.toList, Name.isSnakeChar c = true ∨ c = '#'
  type : Unbroken l.type

namespace Template.FieldLine

variable {l : FieldLine}

theorem OnLines.not_mem_ident (h : l.OnLines) {c : Char} (hc : Name.isSnakeChar c = false)
    (hmark : c ≠ '#') : c ∉ l.ident.toList := by
  intro hmem
  rcases h.ident c hmem with hsnake | heq
  · rw [hc] at hsnake
    cases hsnake
  · exact hmark heq

theorem OnLines.filterMap_lines (h : l.OnLines) : l.lines.filterMap readField? = [(l.ident, l.type)] := by
  have hattributes : (l.attributes.map fun a => "    #[" ++ a ++ "]").filterMap readField? = [] := by
    rw [List.filterMap_map, List.filterMap_eq_nil_iff]
    exact fun a _ => readField?_attribute a
  have hfield := readField?_line (h.not_mem_ident (c := ':') (by decide) (by decide)) l.type
  rw [lines, List.filterMap_append, hattributes, List.nil_append, List.filterMap_cons, hfield]
  rfl

theorem OnLines.lines (h : l.OnLines) : ∀ line ∈ l.lines, Unbroken line ∧ line ≠ "\x7d" := by
  intro line hline
  have hindented : line.toList.head? = some ' ' → line ≠ "\x7d" := by
    rintro hfirst rfl
    exact absurd hfirst (by decide)
  rw [FieldLine.lines, List.mem_append, List.mem_map, List.mem_singleton] at hline
  rcases hline with ⟨a, ha, rfl⟩ | rfl
  · refine ⟨?_, ?_⟩
    · simp only [unbroken_append]
      exact ⟨⟨unbroken_ofList rfl, h.attributes a ha⟩, unbroken_ofList rfl⟩
    · exact hindented (by simp)
  · refine ⟨?_, ?_⟩
    · simp only [unbroken_append]
      exact ⟨⟨⟨⟨unbroken_ofList rfl, h.not_mem_ident (by decide) (by decide)⟩, unbroken_ofList rfl⟩,
        h.type⟩, unbroken_ofList rfl⟩
    · exact hindented (by simp)

end Template.FieldLine

theorem onLines_fieldLines {f : Field} {d : Declaration} (hd : f.declare = .ok d)
    (htype : Unbroken f.type) (hattributes : ∀ a ∈ f.attributes, Unbroken a) :
    ∀ l ∈ fieldLines d, l.OnLines := by
  obtain ⟨i, -, hd⟩ := bind_eq_ok hd
  obtain rfl := Except.ok.inj hd
  intro l hl
  rw [fieldLines, List.mem_cons, Option.mem_toList, Option.map_eq_some_iff] at hl
  rcases hl with rfl | ⟨c, hc, rfl⟩
  · refine ⟨?_, ?_, ?_⟩
    · intro a ha
      simp only [List.mem_append, Option.mem_toList, Option.map_eq_some_iff] at ha
      rcases ha with (⟨b, -, rfl⟩ | ha) | ha
      · exact unbroken_attribute b
      · exact hattributes a ha
      · split at ha
        · rw [List.mem_singleton.mp ha]
          exact unbroken_ofList rfl
        · cases ha
    · dsimp only
      exact fun c hc => Name.isSnakeChar_of_mem_escape (Name.isWritten_snake _) hc
    · intro hmem
      rw [Text.trim, String.toList_ofList] at hmem
      exact htype (mem_of_mem_trimChars hmem)
  · obtain ⟨kind, -, rfl⟩ := Option.map_eq_some_iff.mp hc
    obtain ⟨hident, hcompanion⟩ := Field.ident_companion i.canonical kind
    refine ⟨?_, ?_, ?_⟩
    · exact List.forall_mem_singleton.mpr (unbroken_ofList rfl)
    · intro c hc
      rw [hident] at hc
      exact Or.inl ((Name.isWritten_snake _).chars c hc)
    · rw [hcompanion]
      cases kind <;> exact unbroken_ofList rfl

theorem unbroken_imports (fields : List Field) :
    Unbroken (join ", " (Ordered.ofList (["Bind", "Context", "Serve"] ++ Field.imports fields))) := by
  refine unbroken_join (unbroken_ofList rfl) ?_
  intro name hname
  rw [Ordered.mem_ofList, List.mem_append, Field.imports, Ordered.mem_ofList, List.mem_flatMap] at hname
  rcases hname with hname | ⟨f, -, hname⟩
  · simp only [List.mem_cons, List.not_mem_nil, or_false] at hname
    rcases hname with rfl | rfl | rfl <;> exact unbroken_ofList rfl
  · rcases List.mem_append.mp hname with hname | hname
    · split at hname
      · rw [List.mem_singleton.mp hname]
        exact unbroken_ofList rfl
      · cases hname
    · split at hname
      · rw [List.mem_singleton.mp hname]
        exact unbroken_ofList rfl
      · cases hname

/-- Nothing is declared above the structure. -/
theorem isPreface_of_mem_recordAbove {runtime : String} (hruntime : Unbroken runtime) (h : Handler)
    (fields : List Field) : ∀ line ∈ recordAbove h fields runtime, IsPreface line := by
  have hfixed : ∀ line ∈ ["", "use axum::http::StatusCode;", "use axum::response::Response;",
      "use serde::Serialize;", "#[derive(Debug, Default, Bind, Serialize)]"], IsPreface line := by
    decide
  have huse : IsPreface ("use " ++ runtime ++ "::" ++ braced (join ", "
      (Ordered.ofList (["Bind", "Context", "Serve"] ++ Field.imports fields))) ++ ";") := by
    have hmark : IsPreface "use " := by decide
    simp only [String.append_assoc]
    refine hmark.append (by decide) ?_
    simp only [unbroken_append, braced]
    exact ⟨hruntime, unbroken_ofList rfl, ⟨⟨unbroken_ofList rfl, unbroken_imports fields⟩,
      unbroken_ofList rfl⟩, unbroken_ofList rfl⟩
  have hbind : IsPreface ("#[bind(crate = " ++ quote runtime ++ ")]") := by
    have hmark : IsPreface "#[bind(crate = " := by decide
    rw [String.append_assoc]
    exact hmark.append (by decide) ((unbroken_append _ _).mpr
      ⟨unbroken_quote runtime, unbroken_ofList rfl⟩)
  intro line hline
  simp only [recordAbove, List.mem_append, List.mem_cons, List.not_mem_nil, or_false] at hline
  rcases hline with ((hline | hline) | rfl) | hline
  · rcases hline with rfl | rfl | rfl | rfl | rfl | rfl | rfl
    · exact isPreface_comment (by decide) (by decide) h.name (unbroken_ofList rfl)
    · exact hfixed _ (by decide)
    · exact hfixed _ (by decide)
    · exact hfixed _ (by decide)
    · exact hfixed _ (by decide)
    · exact huse
    · exact hfixed _ (by decide)
  · exact isPreface_of_mem_docLines hline
  · exact hfixed _ (by decide)
  · split at hline
    · cases hline
    · rw [List.mem_singleton.mp hline]
      exact hbind

/-! ## The structure of a file -/

/-- The fields of a structure are read back from the file. -/
theorem structFields_recordHandler {h : Handler} {fields : List Field} {ds : List Declaration}
    {runtime text : String} (hds : Field.declareAll fields = .ok ds)
    (htext : recordHandler h fields runtime = .ok text) (hruntime : Unbroken runtime)
    (hfields : ∀ f ∈ fields, Unbroken f.type ∧ ∀ a ∈ f.attributes, Unbroken a) :
    structFields text = (ds.flatMap fieldLines).map fun l => (l.ident, l.type) := by
  have hlines : ∀ l ∈ ds.flatMap fieldLines, l.OnLines := by
    intro l hl
    obtain ⟨d, hd, hl⟩ := List.mem_flatMap.mp hl
    obtain ⟨f, hf, hdeclare⟩ := (mem_mapM_ok hds).mp hd
    exact onLines_fieldLines hdeclare (hfields f hf).1 (hfields f hf).2 l hl
  have hhead : Unbroken ("pub struct " ++ h.name.canonical ++ " \x7b") ∧
      startsWith ("pub struct " ++ h.name.canonical ++ " \x7b") "pub struct " = true := by
    simp only [unbroken_append]
    refine ⟨⟨⟨unbroken_ofList rfl, (spelled_canonical h.name).unbroken⟩, unbroken_ofList rfl⟩, ?_⟩
    simp [startsWith, stripStart?]
  have hinside : ∀ line ∈ (ds.flatMap fieldLines).flatMap FieldLine.lines,
      Unbroken line ∧ line ≠ "\x7d" := by
    intro line hline
    obtain ⟨l, hl, hline⟩ := List.mem_flatMap.mp hline
    exact (hlines l hl).lines line hline
  rw [recordHandler_eq hds] at htext
  obtain rfl := Except.ok.inj htext
  have hread := structFields_lines (isPreface_of_mem_recordAbove hruntime h fields) hhead hinside
    (recordBelow h ds runtime) "\x7d"
  have hshape : structLines h.name.canonical (ds.flatMap fieldLines) ++ recordBelow h ds runtime =
      ("pub struct " ++ h.name.canonical ++ " \x7b") ::
        ((ds.flatMap fieldLines).flatMap FieldLine.lines ++ "\x7d" :: recordBelow h ds runtime) := by
    simp [structLines]
  rw [block, hshape, hread, List.filterMap_flatMap]
  rw [List.map_eq_flatMap]
  exact List.flatMap_congr fun l hl => (hlines l hl).filterMap_lines

/-- A checked field has a name. -/
theorem Field.exists_ofName {handler : String} {fields : List Field}
    (h : Field.checkAll handler fields = .ok ()) {f : Field} (hf : f ∈ fields) :
    ∃ i, Identifier.ofName f.name = .ok i := by
  obtain ⟨u, hall, -⟩ := bind_eq_ok h
  obtain ⟨i, hi, -⟩ := bind_eq_ok (forM_eq_ok_iff.mp hall f hf)
  exact ⟨i, hi⟩

theorem exists_named {handler : String} {fields : List Field}
    (h : Field.checkAll handler fields = .ok ()) :
    ∃ named : List NamedField, named.map Prod.fst = fields ∧
      ∀ p ∈ named, Identifier.ofName p.1.name = .ok p.2 := by
  have hone : ∀ f ∈ fields, ∃ p : NamedField, p.1 = f ∧ Identifier.ofName p.1.name = .ok p.2 := by
    intro f hf
    obtain ⟨i, hi⟩ := Field.exists_ofName h hf
    exact ⟨(f, i), rfl, hi⟩
  obtain ⟨named, hnamed⟩ := exists_forall₂ hone
  refine ⟨named, ?_, ?_⟩
  · rw [← List.forall₂_eq_eq_eq, List.forall₂_map_left_iff]
    exact hnamed.flip.imp fun _ _ h => h.1
  · intro p hp
    obtain ⟨f, -, -, hi⟩ := exists_left_of_forall₂ hnamed hp
    exact hi

/-- The names in a structure are those that its fields take. -/
theorem map_ident_flatten {named : List NamedField} {groups : List (List FieldLine)}
    (h : List.Forall₂ (fun p group => FieldGroup p.1 p.2 group) named groups) :
    groups.flatten.map FieldLine.ident = (named.flatMap NamedField.takes).map Name.escape := by
  induction h with
  | nil => rfl
  | cons hgroup _ ih =>
      rw [List.flatten_cons, List.map_append, NamedField.map_ident_of_fieldGroup hgroup, ih,
        List.flatMap_cons, List.map_append]

theorem nodup_map_escape_iff {names : List String} (h : ∀ name ∈ names, Name.IsWritten name) :
    (names.map Name.escape).Nodup ↔ names.Nodup := by
  constructor
  · exact List.Nodup.of_map Name.escape
  · exact List.Nodup.map_on fun a ha b hb heq => (Name.escape_inj (h a ha) (h b hb)).mp heq

/-- The structure of a record handler.  Its fields are, in the order of the declaration, the declared
ones, each bound upload field with its companion behind it; they are read back from the file when
types and attributes stay on their lines.  When no two declared fields have one name, all names of the
structure are different if and only if no field has the name of a companion. -/
theorem Template.handler_structure {handler : String} {h : Handler} {fields : List Field}
    (runtime : String) (hfields : h.fields = some fields)
    (hchecked : Field.checkAll handler fields = .ok ()) :
    ∃ (named : List NamedField) (groups : List (List FieldLine)) (above below : List String)
        (text : String),
      named.map Prod.fst = fields ∧ (∀ p ∈ named, Identifier.ofName p.1.name = .ok p.2) ∧
      List.Forall₂ (fun p group => FieldGroup p.1 p.2 group) named groups ∧
      Template.handler h runtime = .ok text ∧
      text = block (above ++ (structLines h.name.canonical groups.flatten ++ below)) ++ "\x7d" ∧
      (Unbroken runtime → (∀ f ∈ fields, Unbroken f.type ∧ ∀ a ∈ f.attributes, Unbroken a) →
        structFields text = groups.flatten.map fun l => (l.ident, l.type)) ∧
      ((named.map fun p => p.2.snake).Nodup →
        ((groups.flatten.map FieldLine.ident).Nodup ↔
          ∀ p ∈ named, ∀ q ∈ named, q.companionName? ≠ some p.2.snake)) := by
  obtain ⟨named, rfl, hnames⟩ := exists_named hchecked
  obtain ⟨ds, hds⟩ := exists_forall₂ fun p hp => Field.exists_declare_of_ofName (hnames p hp)
  have hgroups : List.Forall₂ (fun p group => FieldGroup p.1 p.2 group) named (ds.map fieldLines) :=
    List.forall₂_map_right_iff.mpr (hds.imp fun _ _ h => h.2)
  have hdeclared : Field.declareAll (named.map Prod.fst) = .ok ds :=
    mapM_eq_ok_iff_forall₂.mpr (List.forall₂_map_left_iff.mpr (hds.imp fun _ _ h => h.1))
  have hwritten : ∀ name ∈ named.flatMap NamedField.takes, Name.IsWritten name := by
    intro name hname
    obtain ⟨p, -, hname⟩ := List.mem_flatMap.mp hname
    exact NamedField.isWritten_of_mem_takes hname
  have htext := recordHandler_eq (h := h) hdeclared runtime
  refine ⟨named, ds.map fieldLines, recordAbove h (named.map Prod.fst) runtime,
    recordBelow h ds runtime, _, rfl, hnames, hgroups, ?_, rfl, ?_, ?_⟩
  · rw [Template.handler, hfields]
    exact htext
  · exact structFields_recordHandler hdeclared htext
  · intro hdistinct
    rw [map_ident_flatten hgroups, nodup_map_escape_iff hwritten,
      NamedField.nodup_takes_iff hdistinct]

/-- A record handler with the given fields. -/
def profileHandler (fields : List Field) : Handler :=
  { path := "/profile"
    methods := [.post]
    name := ⟨"Profile", by decide, by decide⟩
    location := ⟨["app", "src", "handler"]⟩
    fields := some fields }

/-- An uploaded picture. -/
def avatarField : Field :=
  { name := "avatar", type := "Option<UploadedFile>", position := some .form }

theorem Template.handler_structure_avatar :
    Field.checkAll "Profile" [avatarField] = .ok () ∧
      ∃ text, Template.handler (profileHandler [avatarField]) defaultRuntime = .ok text ∧
        structFields text = [("avatar", "Option<UploadedFile>"), ("avatar_url", "String")] := by
  have hchecked : Field.checkAll "Profile" [avatarField] = .ok () := by decide
  obtain ⟨named, groups, above, below, text, hfst, hnames, hgroups, htext, -, hread, -⟩ :=
    Template.handler_structure (h := profileHandler [avatarField]) defaultRuntime rfl hchecked
  refine ⟨hchecked, text, htext, ?_⟩
  rw [hread (unbroken_ofList rfl) (by decide)]
  obtain ⟨⟨f, i⟩, rfl, rfl⟩ := List.map_eq_singleton_iff.mp hfst
  obtain ⟨group, rest, hgroup, hrest, rfl⟩ := List.forall₂_cons_left_iff.mp hgroups
  obtain rfl := List.forall₂_nil_left_iff.mp hrest
  have hi : i.canonical = "Avatar" :=
    (Identifier.ofName_eq_ok_iff.mp (hnames _ List.mem_cons_self)).trans
      (show Name.camel (trim "avatar") = "Avatar" by decide)
  have hsingle : avatarField.upload? = some .single := by decide
  cases hgroup with
  | plain hupload hident htype =>
      rw [hsingle] at hupload
      cases hupload
  | upload hupload hident htype hname hcompanion =>
      rw [hsingle] at hupload
      cases hupload
      have hown : Name.escape (Name.snake "Avatar") = "avatar" := by decide
      have htrim : trim avatarField.type = "Option<UploadedFile>" := by decide
      have hurl : Name.snake ("Avatar" ++ UploadKind.single.suffix) = "avatar_url" := by decide
      rw [Identifier.snake, hi, hown] at hident
      rw [hi, hurl] at hname
      rw [htrim] at htype
      simp [hident, htype, hname, hcompanion, UploadKind.companionType]

/-- The picture and a field that is named like its companion. -/
def clashingFields : List Field :=
  [avatarField, { name := "avatar_url", type := "String", position := some .query }]

/-- The names of the declared fields differ, and the structure has one of them twice. -/
theorem not_nodup_avatarUrl :
    Field.checkAll "Profile" clashingFields = .ok () ∧
      (clashingFields.map fun f => (Identifier.ofName f.name).toOption.map Identifier.snake) =
        [some "avatar", some "avatar_url"] ∧
      ∃ text, Template.handler (profileHandler clashingFields) defaultRuntime = .ok text ∧
        structFields text =
          [("avatar", "Option<UploadedFile>"), ("avatar_url", "String"), ("avatar_url", "String")] ∧
        ¬((structFields text).map Prod.fst).Nodup := by
  have hchecked : Field.checkAll "Profile" clashingFields = .ok () := by decide
  obtain ⟨ds, hds, hlines⟩ := exists_ok_of_toOption (x := Field.declareAll clashingFields)
    (f := fun ds => (ds.flatMap fieldLines).map fun l => (l.ident, l.type))
    (b := [("avatar", "Option<UploadedFile>"), ("avatar_url", "String"), ("avatar_url", "String")])
    (by decide)
  have htext := recordHandler_eq (h := profileHandler clashingFields) hds defaultRuntime
  have hread := structFields_recordHandler hds htext (unbroken_ofList rfl) (by decide)
  rw [hlines] at hread
  refine ⟨hchecked, by decide, _, htext, hread, ?_⟩
  rw [hread]
  decide

end RouteWorks
