import RouteWorks.Proofs.Fallible
import RouteWorks.Proofs.Source.Location
import RouteWorks.Proofs.Text.Ordered
import RouteWorks.Source.Modules

/-!
# What a tree of modules holds

A tree holds the files that have been entered into it: its directories are the ones on the way to an
entered file, the files of a directory are those entered there, and its subdirectories are the next ones on
the way (`Holds`).  Entering a file adds this file to what the tree holds (`Holds.enter`), so a run of
insertions adds the files of the run (`Holds.inserts`).
-/

namespace RouteWorks

/-! ## Where a location is in a tree -/

namespace Location.HasModule

variable {l entry : Location}

theorem exists_path? (h : l.HasModule entry) : ∃ modules, ModuleTree.path? entry l = .ok modules := by
  rw [ModuleTree.path?]
  split
  · exact ⟨_, rfl⟩
  · rename_i hne
    obtain ⟨modules, hmodules⟩ := isModule_iff.mp (h.resolve_left hne)
    rw [hmodules]
    exact ⟨_, rfl⟩

theorem path?_error (h : ¬ l.HasModule entry) :
    ModuleTree.path? entry l = .error (.unresolvableModule l.text) := by
  obtain ⟨hne, hmodule⟩ := not_or.mp h
  rw [ModuleTree.path?, if_neg hne, properModules?_eq_none_iff.mpr hmodule]

end Location.HasModule

namespace ModuleTree

open Ordered

/-- The entry is at the top of a tree, and any other location at its modules. -/
theorem path?_eq_ok_iff {entry l : Location} {path : List String} :
    path? entry l = .ok path ↔
      l = entry ∧ path = [] ∨ l ≠ entry ∧ l.properModules? = some path := by
  rw [path?]
  by_cases hentry : l = entry
  · simp [hentry, eq_comm]
  · cases hmodules : l.properModules? with
    | none => simp [hentry]
    | some modules => simp [hentry]

/-! ## What is in a tree -/

/-- The directories of a tree, by their paths. -/
def paths (t : ModuleTree) : List (List String) := t.dirs.map Prod.fst

/-- The modules of the directory at a path; none where there is no directory. -/
def dir (t : ModuleTree) (path : List String) : ModuleDir := (t.dirs.lookup path).getD {}

/-- A tree has one directory for each of its paths. -/
theorem mem_dirs {t : ModuleTree} (h : Ascending t.paths) {path : List String} {d : ModuleDir} :
    (path, d) ∈ t.dirs ↔ path ∈ t.paths ∧ t.dir path = d := by
  constructor
  · intro hmem
    refine ⟨List.mem_map.mpr ⟨_, hmem, rfl⟩, ?_⟩
    rw [dir, (lookup_eq_some_iff h.nodup).mpr hmem, Option.getD_some]
  · rintro ⟨hpath, rfl⟩
    obtain ⟨⟨path, d⟩, hmem, rfl⟩ := List.mem_map.mp hpath
    rw [dir, (lookup_eq_some_iff h.nodup).mpr hmem]
    exact hmem

/-- A tree holds some entered files, each given by the path of its directory and its name. -/
structure Holds (t : ModuleTree) (entered : List (List String × String)) : Prop where
  ascending : Ascending t.paths
  paths : ∀ path, path ∈ t.paths ↔ ∃ x ∈ entered, path <+: x.1
  files : ∀ path file, file ∈ (t.dir path).files ↔ (path, file) ∈ entered
  subdirs : ∀ path sub, sub ∈ (t.dir path).subdirs ↔ ∃ x ∈ entered, path ++ [sub] <+: x.1

/-! ## Changing one directory -/

section Change

variable {t : ModuleTree} {change : ModuleDir → ModuleDir} {path above : List String}

theorem mem_paths_update :
    path ∈ paths ⟨update above {} change t.dirs⟩ ↔ path = above ∨ path ∈ t.paths := by
  rw [paths, keys_update, mem_insert, paths]

theorem ascending_update (h : Ascending t.paths) :
    Ascending (paths ⟨update above {} change t.dirs⟩) := by
  rw [paths, keys_update]
  exact ascending_insert h

theorem dir_update (h : Ascending t.paths) :
    dir ⟨update above {} change t.dirs⟩ path =
      if path = above then change (t.dir above) else t.dir path := by
  rw [dir, lookup_update h]
  split <;> rfl

end Change

/-! ## Entering a file -/

section Enter

variable {t : ModuleTree} {file : String}

/-- A path that goes on from another one ends there or takes the next step. -/
theorem exists_front_iff {path : List String} (above : List String) {next : String}
    {P Q : List String → Prop}
    (hcons : ∀ step front, P (step :: front) ↔ step = next ∧ Q front) :
    (∃ front, path = above ++ front ∧ P front) ↔
      (path = above ∧ P []) ∨ ∃ front, path = above ++ [next] ++ front ∧ Q front := by
  constructor
  · rintro ⟨front, rfl, hfront⟩
    cases front with
    | nil => exact Or.inl ⟨List.append_nil _, hfront⟩
    | cons step front =>
        obtain ⟨rfl, hrest⟩ := (hcons step front).mp hfront
        refine Or.inr ⟨front, ?_, hrest⟩
        rw [List.append_assoc, List.singleton_append]
  · rintro (⟨rfl, hfront⟩ | ⟨front, rfl, hrest⟩)
    · exact ⟨[], (List.append_nil _).symm, hfront⟩
    · refine ⟨next :: front, ?_, (hcons next front).mpr ⟨rfl, hrest⟩⟩
      rw [List.append_assoc, List.singleton_append]

theorem ascending_enter {above below : List String} (h : Ascending t.paths) :
    Ascending (enter above below file t).paths := by
  induction below generalizing above t with
  | nil => exact ascending_update h
  | cons next rest ih => exact ih (ascending_update h)

theorem mem_paths_enter {above below path : List String} :
    path ∈ (enter above below file t).paths ↔
      path ∈ t.paths ∨ ∃ front, path = above ++ front ∧ front <+: below := by
  -- on the way down `above` grows by what `below` loses, and every directory on it is entered
  induction below generalizing above t with
  | nil =>
      rw [enter, mem_paths_update, or_comm]
      simp
  | cons next rest ih =>
      have hstep : ∀ step front, step :: front <+: next :: rest ↔ step = next ∧ front <+: rest :=
        fun _ _ => List.cons_prefix_cons
      rw [enter, ih, mem_paths_update, exists_front_iff above hstep]
      simp only [List.nil_prefix, and_true]
      tauto

theorem mem_files_enter (h : Ascending t.paths) {above below path : List String} {f : String} :
    f ∈ ((enter above below file t).dir path).files ↔
      f ∈ (t.dir path).files ∨ path = above ++ below ∧ f = file := by
  induction below generalizing above t with
  | nil =>
      rw [enter, dir_update h, List.append_nil]
      split
      · rename_i hpath
        rw [mem_insert, hpath]
        simp [or_comm]
      · rename_i hpath
        simp [hpath]
  | cons next rest ih =>
      rw [enter, ih (ascending_update h), dir_update h, List.append_assoc, List.singleton_append]
      split
      · rename_i hpath
        rw [hpath]
      · rfl

theorem mem_subdirs_enter (h : Ascending t.paths) {above below path : List String} {sub : String} :
    sub ∈ ((enter above below file t).dir path).subdirs ↔
      sub ∈ (t.dir path).subdirs ∨ ∃ front, path = above ++ front ∧ front ++ [sub] <+: below := by
  induction below generalizing above t with
  | nil =>
      rw [enter, dir_update h]
      split
      · rename_i hpath
        simp [hpath]
      · simp
  | cons next rest ih =>
      have hstep : ∀ step front, (step :: front) ++ [sub] <+: next :: rest ↔
          step = next ∧ front ++ [sub] <+: rest := fun _ _ => List.cons_prefix_cons
      have hfirst : [] ++ [sub] <+: next :: rest ↔ sub = next := by
        rw [List.nil_append, List.cons_prefix_cons, and_iff_left List.nil_prefix]
      rw [enter, ih (ascending_update h), dir_update h, exists_front_iff above hstep, hfirst]
      split
      · rename_i hpath
        rw [mem_insert, hpath]
        tauto
      · rename_i hpath
        simp only [hpath, false_and, false_or]

end Enter

/-! ## Runs of insertions -/

/-- Where a file with a location is entered. -/
def place (entry : Location) (x : Location × String) : Except Fault (List String × String) := do
  return (← path? entry x.1, x.2)

theorem holds_empty : ({} : ModuleTree).Holds [] := by
  refine ⟨List.Pairwise.nil, ?_, ?_, ?_⟩
  · intro path
    simp [paths]
  · intro path file
    simp [dir]
  · intro path sub
    simp [dir]

namespace Holds

variable {t : ModuleTree} {entered : List (List String × String)}

/-- Entering a file adds it to what the tree holds. -/
theorem enter (h : t.Holds entered) (path : List String) (file : String) :
    (enter [] path file t).Holds (entered ++ [(path, file)]) := by
  refine ⟨ascending_enter h.ascending, ?_, ?_, ?_⟩
  · intro path'
    rw [mem_paths_enter, h.paths]
    simp [or_and_right, exists_or]
  · intro path' file'
    rw [mem_files_enter h.ascending, h.files]
    simp
  · intro path' sub
    rw [mem_subdirs_enter h.ascending, h.subdirs]
    simp [or_and_right, exists_or]

/-- A run of insertions adds the files of the run, each in the directory of its location. -/
theorem inserts {entry : Location} {xs : List (Location × String)} {t' : ModuleTree}
    (h : t.Holds entered)
    (hrun : xs.foldlM (fun t (l, file) => t.insert entry l file) t = .ok t') :
    ∃ more, xs.mapM (place entry) = .ok more ∧ t'.Holds (entered ++ more) := by
  induction xs generalizing t entered with
  | nil =>
      cases hrun
      refine ⟨[], rfl, ?_⟩
      rwa [List.append_nil]
  | cons x xs ih =>
      obtain ⟨l, file⟩ := x
      rw [List.foldlM_cons] at hrun
      obtain ⟨next, hinsert, hrun⟩ := bind_eq_ok hrun
      obtain ⟨path, hpath, hnext⟩ := bind_eq_ok hinsert
      cases hnext
      -- the file is held from here on, and the rest of the run starts from the larger tree
      obtain ⟨more, hmore, hholds⟩ := ih (h.enter path file) hrun
      refine ⟨(path, file) :: more, ?_, ?_⟩
      · rw [List.mapM_cons, place, hpath, hmore]
        rfl
      · rwa [List.append_assoc, List.singleton_append] at hholds

end Holds

end ModuleTree

end RouteWorks
