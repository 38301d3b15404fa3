import Mathlib.Data.List.Sort
import RouteWorks.Proofs.Source.Modules
import RouteWorks.Proofs.Text.Reader

/-!
# Runs of insertions into a tree of modules

An insertion is refused for a location that is in no module, and then nothing changes.  What a tree holds
after a run of insertions, with all its sets ascending, leaves no choice for the tree (`Holds.unique`), so
the tree depends on the entered files as a set (`after_holds`).  The lines of a directory are read back as
what they declare: every module once, and the items of every file once (`map_ofLine?`,
`declaredBy_said`).
-/

namespace RouteWorks

open Text Ordered

/-! ## Lines of a directory -/

/-- What stands between a text in front and one at the end. -/
def between? (front back line : String) : Option String :=
  (stripStart? front.toList line.toList).bind fun rest =>
    (stripStart? back.toList.reverse rest.reverse).map fun inner => String.ofList inner.reverse

@[simp] theorem between?_append (front back inner : String) :
    between? front back (front ++ inner ++ back) = some inner := by
  have hfront : (front ++ inner ++ back).toList = front.toList ++ (inner ++ back).toList := by
    simp only [String.toList_append, List.append_assoc]
  have hback : (inner ++ back).toList.reverse = back.toList.reverse ++ inner.toList.reverse := by
    rw [String.toList_append, List.reverse_append]
  rw [between?, hfront, stripStart?_append, Option.bind_some, hback, stripStart?_append, Option.map_some,
    List.reverse_reverse, String.ofList_toList]

theorem between?_eq_none {front back line : String} (h : stripStart? front.toList line.toList = none) :
    between? front back line = none := by
  rw [between?, h]
  rfl

/-- What a line in the file of a directory does. -/
inductive ModuleLine where
  /-- Declares a module. -/
  | module (name : String)
  /-- Exports all items of a module. -/
  | items (name : String)
  deriving DecidableEq, Repr

/-- Reads a line in the file of a directory. -/
def ModuleLine.ofLine? (line : String) : Option ModuleLine :=
  match between? "pub use " "::*;" line with
  | some name => some (items name)
  | none => ((between? "pub mod " ";" line).or (between? "mod " ";" line)).map module

namespace ModuleDir

/-- What a directory declares: the subdirectories that no file has the name of, and the files. -/
def said (d : ModuleDir) : List ModuleLine :=
  (d.subdirs.filter fun s => !d.files.contains s).map ModuleLine.module
    ++ d.files.flatMap fun f => [.module f, .items f]

/-- Every file and every subdirectory is declared once, and the items of every file are exported once.
The subdirectories come first, and each group ascends. -/
structure DeclaredBy (d : ModuleDir) (said : List ModuleLine) : Prop where
  modules : ∀ name, said.count (.module name) = if name ∈ d.files ∨ name ∈ d.subdirs then 1 else 0
  items : ∀ name, said.count (.items name) = if name ∈ d.files then 1 else 0
  order : ∃ dirs, Ascending dirs ∧ Ascending d.files ∧
    (∀ name, name ∈ dirs ↔ name ∈ d.subdirs ∧ name ∉ d.files) ∧
    said = dirs.map ModuleLine.module ++ d.files.flatMap fun f => [.module f, .items f]

variable {d : ModuleDir} {visibility : String}

theorem ofLine?_subdir (hvisibility : visibility ∈ ["", "pub "]) (name : String) :
    ModuleLine.ofLine? (visibility ++ "mod " ++ name ++ ";") = some (.module name) := by
  rcases List.mem_pair.mp hvisibility with rfl | rfl
  · have hitems : between? "pub use " "::*;" ("" ++ "mod " ++ name ++ ";") = none :=
      between?_eq_none (by simp [stripStart?])
    have hpub : between? "pub mod " ";" ("" ++ "mod " ++ name ++ ";") = none :=
      between?_eq_none (by simp [stripStart?])
    have hbare : between? "mod " ";" ("" ++ "mod " ++ name ++ ";") = some name := by
      rw [String.empty_append, between?_append]
    rw [ModuleLine.ofLine?, hitems, hpub, hbare]
    rfl
  · have hitems : between? "pub use " "::*;" ("pub " ++ "mod " ++ name ++ ";") = none :=
      between?_eq_none (by simp [stripStart?])
    have hpub : between? "pub mod " ";" ("pub " ++ "mod " ++ name ++ ";") = some name := by
      have hfront : "pub " ++ "mod " = "pub mod " := by decide
      rw [hfront, between?_append]
    rw [ModuleLine.ofLine?, hitems, hpub]
    rfl

theorem ofLine?_items (name : String) :
    ModuleLine.ofLine? ("pub use " ++ name ++ "::*;") = some (.items name) := by
  rw [ModuleLine.ofLine?, between?_append]

/-- The lines of a directory are read back as what it declares. -/
theorem map_ofLine? (hvisibility : visibility ∈ ["", "pub "]) :
    (d.declarations visibility).map ModuleLine.ofLine? = d.said.map some := by
  rw [declarations, said, List.map_append, List.map_append, List.map_map, List.map_map, List.map_flatMap,
    List.map_flatMap]
  refine congrArg₂ (· ++ ·) (List.map_congr_left ?_) (List.flatMap_congr ?_)
  · intro s _
    exact ofLine?_subdir hvisibility s
  · intro f _
    have hfile : ModuleLine.ofLine? ("mod " ++ f ++ ";") = some (.module f) := by
      have hsubdir := @ofLine?_subdir "" List.mem_cons_self f
      rwa [String.empty_append] at hsubdir
    simp only [List.map_cons, List.map_nil, hfile, ofLine?_items]

theorem mem_said_module {name : String} :
    .module name ∈ d.said ↔ name ∈ d.files ∨ name ∈ d.subdirs := by
  simp only [said, List.mem_append, List.mem_map, List.mem_flatMap, List.mem_filter, List.mem_cons,
    ModuleLine.module.injEq, reduceCtorEq, List.not_mem_nil, or_false, exists_eq_right]
  by_cases hfile : name ∈ d.files
  · simp [hfile]
  · simp [hfile]

theorem mem_said_items {name : String} : .items name ∈ d.said ↔ name ∈ d.files := by
  simp [said]

theorem nodup_said (hfiles : Ascending d.files) (hsubdirs : Ascending d.subdirs) : d.said.Nodup := by
  rw [said, List.nodup_append']
  refine ⟨?_, ?_, ?_⟩
  · exact (hsubdirs.nodup.filter _).map fun _ _ h => ModuleLine.module.inj h
  · rw [List.nodup_flatMap]
    refine ⟨fun f _ => by simp, hfiles.nodup.imp ?_⟩
    intro f g hne
    simp [Function.onFun, Ne.symm hne]
  · -- a subdirectory is declared in the first group only when it is no file
    intro said hdir hfile
    obtain ⟨name, hname, rfl⟩ := List.mem_map.mp hdir
    have hmem : name ∈ d.files := by simpa using hfile
    simpa [hmem] using (List.mem_filter.mp hname).2

theorem declaredBy_said (hfiles : Ascending d.files) (hsubdirs : Ascending d.subdirs) :
    d.DeclaredBy d.said := by
  have hnodup := nodup_said hfiles hsubdirs
  refine ⟨?_, ?_, ?_⟩
  · intro name
    rw [hnodup.count]
    simp only [mem_said_module]
  · intro name
    rw [hnodup.count]
    simp only [mem_said_items]
  · refine ⟨d.subdirs.filter fun s => !d.files.contains s, hsubdirs.filter _, hfiles, ?_, rfl⟩
    intro name
    simp [List.mem_filter]

end ModuleDir

namespace ModuleTree

/-! ## Ascending trees -/

/-- The sets of a tree ascend. -/
structure Sorted (t : ModuleTree) : Prop where
  files : ∀ path, Ascending (t.dir path).files
  subdirs : ∀ path, Ascending (t.dir path).subdirs

theorem sorted_empty : ({} : ModuleTree).Sorted :=
  ⟨fun _ => List.Pairwise.nil, fun _ => List.Pairwise.nil⟩

theorem sorted_update {t : ModuleTree} (h : t.Sorted) (hpaths : Ascending t.paths) {above : List String}
    {change : ModuleDir → ModuleDir}
    (hchange : ∀ d, Ascending d.files → Ascending d.subdirs →
      Ascending (change d).files ∧ Ascending (change d).subdirs) :
    Sorted ⟨update above {} change t.dirs⟩ := by
  have hdir : ∀ path, Ascending (dir ⟨update above {} change t.dirs⟩ path).files ∧
      Ascending (dir ⟨update above {} change t.dirs⟩ path).subdirs := by
    intro path
    rw [dir_update hpaths]
    split
    · exact hchange _ (h.files above) (h.subdirs above)
    · exact ⟨h.files path, h.subdirs path⟩
  exact ⟨fun path => (hdir path).1, fun path => (hdir path).2⟩

theorem sorted_enter {t : ModuleTree} (h : t.Sorted) (hpaths : Ascending t.paths)
    (above below : List String) (file : String) : (enter above below file t).Sorted := by
  induction below generalizing above t with
  | nil => exact sorted_update h hpaths fun d hfiles hsubdirs => ⟨ascending_insert hfiles, hsubdirs⟩
  | cons next rest ih =>
      refine ih (sorted_update h hpaths ?_) (ascending_update hpaths) _
      exact fun d hfiles hsubdirs => ⟨hfiles, ascending_insert hsubdirs⟩

theorem dirs_eq {t : ModuleTree} (h : Ascending t.paths) :
    t.dirs = t.paths.map fun path => (path, t.dir path) := by
  have hpair : ∀ x ∈ t.dirs, ((fun path => (path, t.dir path)) ∘ Prod.fst) x = id x := by
    intro x hx
    exact congrArg (Prod.mk x.1) ((mem_dirs h).mp hx).2
  rw [paths, List.map_map, List.map_congr_left hpair, List.map_id]

/-- What a tree holds determines the tree. -/
theorem Holds.unique {t t' : ModuleTree} {entered entered' : List (List String × String)}
    (h : t.Holds entered) (hsorted : t.Sorted) (h' : t'.Holds entered') (hsorted' : t'.Sorted)
    (hsame : ∀ x, x ∈ entered ↔ x ∈ entered') : t = t' := by
  have hpaths : t.paths = t'.paths := by
    refine List.Pairwise.eq_of_mem_iff h.ascending h'.ascending fun path => ?_
    simp only [h.paths, h'.paths, hsame]
  have hdir : ∀ path, t.dir path = t'.dir path := by
    intro path
    have hfiles : (t.dir path).files = (t'.dir path).files := by
      refine List.Pairwise.eq_of_mem_iff (hsorted.files path) (hsorted'.files path) fun file => ?_
      rw [h.files, h'.files, hsame]
    have hsubdirs : (t.dir path).subdirs = (t'.dir path).subdirs := by
      refine List.Pairwise.eq_of_mem_iff (hsorted.subdirs path) (hsorted'.subdirs path) fun sub => ?_
      simp only [h.subdirs, h'.subdirs, hsame]
    cases hd : t.dir path
    cases hd' : t'.dir path
    rw [hd, hd'] at hfiles hsubdirs
    exact congrArg₂ ModuleDir.mk hfiles hsubdirs
  have hdirs : t.dirs = t'.dirs := by
    rw [dirs_eq h.ascending, dirs_eq h'.ascending, hpaths]
    simp only [hdir]
  cases t
  cases t'
  exact congrArg ModuleTree.mk hdirs

/-! ## Runs -/

/-- The tree behind an insertion.  A refused one leaves it as it was. -/
def attempt (entry : Location) (t : ModuleTree) (x : Location × String) : ModuleTree :=
  (t.insert entry x.1 x.2).toOption.getD t

/-- The tree behind a run of insertions. -/
def after (entry : Location) (xs : List (Location × String)) : ModuleTree :=
  xs.foldl (attempt entry) {}

/-- The files that a run enters, each with the path of its directory. -/
def accepted (entry : Location) (xs : List (Location × String)) : List (List String × String) :=
  xs.filterMap fun x => (place entry x).toOption

section Runs

variable {entry : Location} {t : ModuleTree} {xs ys : List (Location × String)}

theorem place_cases (entry : Location) (x : Location × String) :
    (x.1.HasModule entry ∧ ∃ path, path? entry x.1 = .ok path ∧ place entry x = .ok (path, x.2)) ∨
      ¬ x.1.HasModule entry ∧ place entry x = .error (.unresolvableModule x.1.text) := by
  by_cases hmodule : x.1.HasModule entry
  · obtain ⟨path, hpath⟩ := hmodule.exists_path?
    refine Or.inl ⟨hmodule, path, hpath, ?_⟩
    rw [place, hpath]
    rfl
  · refine Or.inr ⟨hmodule, ?_⟩
    rw [place, Location.HasModule.path?_error hmodule]
    rfl

theorem insert_eq (t : ModuleTree) (entry : Location) (x : Location × String) :
    t.insert entry x.1 x.2 = (place entry x).map fun p => enter [] p.1 p.2 t := by
  rw [insert, place]
  cases path? entry x.1 <;> rfl

/-- A location in no module is all that an insertion is refused for. -/
theorem insert_cases (t : ModuleTree) (entry : Location) (x : Location × String) :
    (x.1.HasModule entry ∧ ∃ t', t.insert entry x.1 x.2 = .ok t') ∨
      ¬ x.1.HasModule entry ∧ t.insert entry x.1 x.2 = .error (.unresolvableModule x.1.text) := by
  rw [insert_eq]
  rcases place_cases entry x with ⟨hmodule, path, -, hplace⟩ | ⟨hmodule, hplace⟩
  · rw [hplace]
    exact Or.inl ⟨hmodule, _, rfl⟩
  · rw [hplace]
    exact Or.inr ⟨hmodule, rfl⟩

theorem mem_accepted {path : List String} {file : String} :
    (path, file) ∈ accepted entry xs ↔ ∃ l, (l, file) ∈ xs ∧
      (l = entry ∧ path = [] ∨ l ≠ entry ∧ l.properModules? = some path) := by
  rw [accepted, List.mem_filterMap]
  simp only [← path?_eq_ok_iff]
  constructor
  · rintro ⟨⟨l, file'⟩, hx, hplace⟩
    rcases place_cases entry (l, file') with ⟨-, path', hpath, hok⟩ | ⟨-, herror⟩
    · rw [hok] at hplace
      cases hplace
      exact ⟨l, hx, hpath⟩
    · rw [herror] at hplace
      cases hplace
  · rintro ⟨l, hx, hpath⟩
    refine ⟨_, hx, ?_⟩
    rw [place, hpath]
    rfl

/-- The step lemma: an insertion adds its file to what an ascending tree holds, or it adds nothing. -/
theorem holds_attempt (entry : Location) {entered : List (List String × String)} (h : t.Holds entered)
    (hsorted : t.Sorted) (x : Location × String) :
    (attempt entry t x).Holds (entered ++ (place entry x).toOption.toList) ∧
      (attempt entry t x).Sorted := by
  rw [attempt, insert_eq]
  cases place entry x with
  | error e =>
      refine ⟨?_, hsorted⟩
      rw [Except.toOption, Option.toList_none, List.append_nil]
      exact h
  | ok p => exact ⟨h.enter p.1 p.2, sorted_enter hsorted h.ascending [] p.1 p.2⟩

/-- The run lemma. -/
theorem holds_after (entry : Location) (xs : List (Location × String)) :
    (after entry xs).Holds (accepted entry xs) ∧ (after entry xs).Sorted := by
  have hrun : ∀ (t : ModuleTree) (entered : List (List String × String)), t.Holds entered → t.Sorted →
      (xs.foldl (attempt entry) t).Holds (entered ++ accepted entry xs) ∧
        (xs.foldl (attempt entry) t).Sorted := by
    induction xs with
    | nil =>
        intro t entered h hsorted
        rw [accepted, List.filterMap_nil, List.append_nil]
        exact ⟨h, hsorted⟩
    | cons x xs ih =>
        intro t entered h hsorted
        obtain ⟨hnext, hnextSorted⟩ := holds_attempt entry h hsorted x
        have hcons : accepted entry (x :: xs) = (place entry x).toOption.toList ++ accepted entry xs := by
          rw [accepted, List.filterMap_cons, accepted]
          cases (place entry x).toOption <;> rfl
        rw [List.foldl_cons, hcons, ← List.append_assoc]
        exact ih _ _ hnext hnextSorted
  exact hrun {} [] holds_empty sorted_empty

/-- An insertion is refused exactly for a location in no module, and then the tree stays as it was.  Every
other one enters its file, for the entry at the top of the tree and otherwise at the modules of the location.
After any run of insertions, a tree has the directories on the way to what was entered, with the files that
were entered there and the next directories on the way; it is the same tree for every run that enters the same
files.  Each of its directories declares every file and every subdirectory once. -/
theorem after_holds (entry : Location) (xs : List (Location × String)) :
    (∀ t x, ((∃ t', t.insert entry x.1 x.2 = .ok t') ↔ x.1.HasModule entry) ∧
      (¬ x.1.HasModule entry → t.insert entry x.1 x.2 = .error (.unresolvableModule x.1.text) ∧
        attempt entry t x = t)) ∧
    (∀ path file, (path, file) ∈ accepted entry xs ↔ ∃ l, (l, file) ∈ xs ∧
      (l = entry ∧ path = [] ∨ l ≠ entry ∧ l.properModules? = some path)) ∧
    (after entry xs).Holds (accepted entry xs) ∧
    (∀ ys, (∀ x, x ∈ accepted entry ys ↔ x ∈ accepted entry xs) → after entry ys = after entry xs) ∧
    ∀ path ∈ (after entry xs).paths, ∀ visibility ∈ ["", "pub "], ∃ said,
      (((after entry xs).dir path).declarations visibility).map ModuleLine.ofLine? = said.map some ∧
      ((after entry xs).dir path).DeclaredBy said := by
  obtain ⟨hholds, hsorted⟩ := holds_after entry xs
  refine ⟨?_, fun path file => mem_accepted, hholds, ?_, ?_⟩
  · intro t x
    rcases insert_cases t entry x with ⟨hmodule, hok⟩ | ⟨hmodule, herror⟩
    · exact ⟨iff_of_true hok hmodule, fun h => absurd hmodule h⟩
    · refine ⟨iff_of_false ?_ hmodule, fun _ => ⟨herror, ?_⟩⟩
      · rw [herror]
        exact not_exists_ok _
      · rw [attempt, herror]
        rfl
  · intro ys hsame
    obtain ⟨hholds', hsorted'⟩ := holds_after entry ys
    exact hholds'.unique hsorted' hholds hsorted hsame
  · intro path _ visibility hvisibility
    exact ⟨_, ModuleDir.map_ofLine? hvisibility,
      ModuleDir.declaredBy_said (hsorted.files path) (hsorted.subdirs path)⟩

/-- Insertions of a file, of one in no module, and of a file with the name of a directory. -/
def apiInsertions : List (Location × String) :=
  [(⟨["app", "src", "api", "handler"]⟩, "index"), (⟨["app", "src", "my-api"]⟩, "show"),
    (⟨["app", "src"]⟩, "api")]

theorem after_holds_api :
    ¬ (⟨["app", "src", "my-api"]⟩ : Location).HasModule ⟨["app", "src"]⟩ ∧
      attempt ⟨["app", "src"]⟩ {} (⟨["app", "src", "my-api"]⟩, "show") = {} ∧
      after ⟨["app", "src"]⟩ (apiInsertions.reverse ++ apiInsertions) =
        after ⟨["app", "src"]⟩ apiInsertions ∧
      "handler" ∈ ((after ⟨["app", "src"]⟩ apiInsertions).dir ["api"]).subdirs ∧
      "index" ∈ ((after ⟨["app", "src"]⟩ apiInsertions).dir ["api", "handler"]).files ∧
      ∃ said : List ModuleLine,
        (((after ⟨["app", "src"]⟩ apiInsertions).dir []).declarations "").map ModuleLine.ofLine? =
          said.map some ∧ said.count (.module "api") = 1 := by
  obtain ⟨hcalls, haccepted, hholds, hsame, hdeclared⟩ := after_holds ⟨["app", "src"]⟩ apiInsertions
  have hrefused : ModuleTree.insert {} ⟨["app", "src"]⟩ ⟨["app", "src", "my-api"]⟩ "show" =
      .error (.unresolvableModule "/app/src/my-api") := by
    decide +kernel
  have hmodule : ¬ (⟨["app", "src", "my-api"]⟩ : Location).HasModule ⟨["app", "src"]⟩ := by
    intro h
    obtain ⟨t, ht⟩ := (hcalls {} (⟨["app", "src", "my-api"]⟩, "show")).1.mpr h
    rw [hrefused] at ht
    cases ht
  have hfile : ([], "api") ∈ accepted ⟨["app", "src"]⟩ apiInsertions :=
    (haccepted [] "api").mpr ⟨⟨["app", "src"]⟩, by decide, Or.inl ⟨rfl, rfl⟩⟩
  have hbelow : (["api", "handler"], "index") ∈ accepted ⟨["app", "src"]⟩ apiInsertions :=
    (haccepted ["api", "handler"] "index").mpr
      ⟨⟨["app", "src", "api", "handler"]⟩, by decide, Or.inr ⟨by decide, by decide⟩⟩
  have hroot : [] ∈ (after ⟨["app", "src"]⟩ apiInsertions).paths :=
    (hholds.paths []).mpr ⟨_, hfile, List.nil_prefix⟩
  obtain ⟨said, hsaid, hdeclares⟩ := hdeclared [] hroot "" List.mem_cons_self
  refine ⟨hmodule, ((hcalls {} _).2 hmodule).2, hsame _ ?_, ?_, ?_, said, hsaid, ?_⟩
  · rintro ⟨path, file⟩
    simp only [mem_accepted, List.mem_append, List.mem_reverse, or_self]
  · exact (hholds.subdirs ["api"] "handler").mpr ⟨_, hbelow, List.prefix_rfl⟩
  · exact (hholds.files ["api", "handler"] "index").mpr hbelow
  · rw [hdeclares.modules, if_pos]
    exact Or.inl ((hholds.files [] "api").mpr hfile)

end Runs

end ModuleTree

end RouteWorks
