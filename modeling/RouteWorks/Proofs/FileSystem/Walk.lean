import RouteWorks.FileSystem.Basic
import RouteWorks.Proofs.Source.Location

/-!
# Walking along paths

A path is walked part by part, so a name that is appended to a path is looked for in the place that the
path leads to.  As long as the name is that of a directory or a file, it leads to a child of that place
(`locate?_append`); `.` and `..` do not.
-/

namespace RouteWorks.FileSystem

variable {fs : FileSystem} {cwd place p q : Place} {dir name part : String} {rest : List String}

/-- Where a part of a path leads from a directory. -/
inductive Step (p : Place) : String → Place → Prop
  | stay {part : String} (hpart : part = "." ∨ part = "") : Step p part p
  | up : Step p ".." (above p)
  | enter {part : String} (hpart : ¬ (part = "." ∨ part = "")) (hdots : part ≠ "..")
      (hname : isNameAllowed part = true) : Step p part (p ++ [part])

/-- Parts are walked step by step, each from a directory. -/
theorem walk_cons_eq_some_iff : fs.walk p (part :: rest) = some q ↔
    fs.isDirectory p = true ∧ ∃ r, Step p part r ∧ fs.walk r rest = some q := by
  rw [walk]
  constructor
  · intro h
    split at h
    · cases h
    rename_i hp
    refine ⟨by simpa using hp, ?_⟩
    split at h
    · rename_i hpart
      exact ⟨p, .stay hpart, h⟩
    rename_i hpart
    split at h
    · rename_i hdots
      subst hdots
      exact ⟨above p, .up, h⟩
    rename_i hdots
    split at h
    · rename_i hname
      exact ⟨p ++ [part], .enter hpart hdots hname, h⟩
    · cases h
  · rintro ⟨hp, r, hstep, h⟩
    cases hstep with
    | stay hpart => simpa [hp, hpart] using h
    | up => simpa [hp] using h
    | enter hpart hdots hname => simpa [hp, hpart, hdots, hname] using h

theorem walk_append (fs : FileSystem) (p : Place) (parts parts' : List String) :
    fs.walk p (parts ++ parts') = (fs.walk p parts).bind fun q => fs.walk q parts' := by
  induction parts generalizing p with
  | nil => rfl
  | cons part parts ih =>
      rw [List.cons_append, walk, walk]
      split
      · rfl
      split
      · exact ih p
      split
      · exact ih (above p)
      split
      · exact ih (p ++ [part])
      · rfl

/-- An empty part, like a dot, leads nowhere else. -/
theorem walk_dot (fs : FileSystem) (p : Place) {part : String} (hpart : part = "." ∨ part = "") :
    fs.walk p [part] = if fs.isDirectory p then some p else none := by
  cases hp : fs.isDirectory p <;> simp [walk, hp, hpart]

theorem walk_dots (fs : FileSystem) (p : Place) :
    fs.walk p [".."] = if fs.isDirectory p then some (above p) else none := by
  cases hp : fs.isDirectory p <;> simp [walk, hp]

/-- A name is looked for in a directory. -/
theorem walk_name (fs : FileSystem) (p : Place) (hname : Location.IsPart name) :
    fs.walk p [name] =
      if fs.isDirectory p && isNameAllowed name then some (p ++ [name]) else none := by
  have hnames : ¬ (name = "." ∨ name = "") := not_or.mpr ⟨hname.ne_dot, hname.ne_empty⟩
  cases hp : fs.isDirectory p <;> simp [walk, hp, hnames, hname.ne_dots]

/-- Nothing is looked for in a place that is no directory. -/
theorem walk_of_isDirectory_eq_false {p : Place} {part : String} (h : fs.isDirectory p = false) :
    fs.walk p [part] = none := by
  rw [walk, h]
  rfl

/-! ## Places by the text of a path -/

/-- The place that parts name, whatever is there. -/
def follow (p : Place) : List String → Place
  | [] => p
  | part :: parts =>
    if part = "." ∨ part = "" then follow p parts
    else if part = ".." then follow (above p) parts
    else follow (p ++ [part]) parts

/-- The place that a path names. -/
def target (cwd : Place) (path : String) : Place := follow (origin cwd path) (parts path)

theorem Step.follow_cons {r : Place} (h : Step p part r) (rest : List String) :
    follow p (part :: rest) = follow r rest := by
  cases h with
  | stay hpart => rw [follow, if_pos hpart]
  | up => rfl
  | enter hpart hdots _ => rw [follow, if_neg hpart, if_neg hdots]

theorem follow_of_walk (h : fs.walk p rest = some q) : follow p rest = q := by
  induction rest generalizing p with
  | nil => exact Option.some.inj h
  | cons part rest ih =>
      obtain ⟨-, r, hstep, hrest⟩ := walk_cons_eq_some_iff.mp h
      rw [hstep.follow_cons, ih hrest]

/-- A path that leads somewhere leads to the place that it names. -/
theorem target_of_locate? {path : String} (h : fs.locate? cwd path = some place) :
    target cwd path = place :=
  follow_of_walk h

/-! ## Appended names -/

theorem isAbsolute_of_no_slash (hslash : '/' ∉ name.toList) : FilePath.isAbsolute name = false := by
  rw [FilePath.isAbsolute, beq_eq_false_iff_ne]
  exact fun hhead => hslash (List.mem_of_head? hhead)

/-- An appended name is the last part of the path.  In front of it are the parts of the directory, which
may end with an empty one. -/
theorem parts_append (dir : String) (hslash : '/' ∉ name.toList) :
    ∃ front, parts (FilePath.append dir name) = front ++ [name] ∧
      (parts dir = front ∨ parts dir = front ++ [""]) := by
  have hcut : ∀ xs ys : List Char, Text.splitWhen (· == '/') (xs ++ '/' :: ys) =
      Text.splitWhen (· == '/') xs ++ Text.splitWhen (· == '/') ys :=
    Text.splitWhen_append_sep BEq.rfl
  have hself : Text.splitWhen (· == '/') name.toList = [name.toList] :=
    Text.splitWhen_of_forall_not (Text.beq_eq_false_of_not_mem hslash)
  rw [FilePath.append, isAbsolute_of_no_slash hslash, if_neg Bool.false_ne_true]
  split
  · -- nothing is written in front of the name
    rename_i hempty
    subst hempty
    refine ⟨[], ?_, Or.inr rfl⟩
    rw [parts, Text.split, hself, List.map_singleton, String.ofList_toList, List.nil_append]
  split
  · -- the directory ends with a separator, behind which its last part is empty
    rename_i hlast
    obtain ⟨front, hfront⟩ := List.getLast?_eq_some_iff.mp (eq_of_beq hlast)
    refine ⟨(Text.splitWhen (· == '/') front).map String.ofList, ?_, Or.inr ?_⟩
    · rw [parts, Text.split, String.toList_append, hfront, List.append_assoc, List.singleton_append,
        hcut, hself, List.map_append, List.map_singleton,
        String.ofList_toList]
    · rw [parts, Text.split, hfront, hcut, List.map_append]
      rfl
  · refine ⟨parts dir, ?_, Or.inl rfl⟩
    have htext : (dir ++ "/" ++ name).toList = dir.toList ++ '/' :: name.toList := by
      rw [String.toList_append, String.toList_append, List.append_assoc]
      rfl
    rw [parts, Text.split, htext, hcut, hself, List.map_append,
      List.map_singleton, String.ofList_toList]
    rfl

theorem origin_append (cwd : Place) (dir : String) (hslash : '/' ∉ name.toList) :
    origin cwd (FilePath.append dir name) = origin cwd dir := by
  have hrelative := isAbsolute_of_no_slash hslash
  rw [FilePath.append, hrelative, if_neg Bool.false_ne_true]
  split
  · rename_i hempty
    subst hempty
    rw [origin, hrelative]
    rfl
  · rename_i hne
    have hne : dir.toList ≠ [] := mt String.toList_eq_nil_iff.mp hne
    have hhead : ∀ text : String, (dir ++ text).toList.head? = dir.toList.head? := by
      intro text
      rw [String.toList_append, List.head?_append_of_ne_nil _ hne]
    split
    · rw [origin, origin, FilePath.isAbsolute, FilePath.isAbsolute, hhead]
    · rw [origin, origin, FilePath.isAbsolute, FilePath.isAbsolute, String.append_assoc, hhead]

/-- A name behind the path of a directory is looked for in the place that the path leads to. -/
theorem locate?_append_eq_bind (fs : FileSystem) (cwd : Place) (dir : String)
    (hslash : '/' ∉ name.toList) : fs.locate? cwd (FilePath.append dir name) =
      (fs.locate? cwd dir).bind fun place => fs.walk place [name] := by
  obtain ⟨front, hparts, hdir⟩ := parts_append dir hslash
  rw [locate?, locate?, hparts, origin_append cwd dir hslash, walk_append]
  rcases hdir with hdir | hdir
  · rw [hdir]
  · rw [hdir, walk_append]
    cases fs.walk (origin cwd dir) front with
    | none => rfl
    | some p =>
        simp only [Option.bind_some, walk_dot fs p (Or.inr rfl)]
        cases hp : fs.isDirectory p with
        | false => exact walk_of_isDirectory_eq_false hp
        | true => rfl

/-- The path of a name in a directory leads to the child of that name. -/
theorem locate?_append (fs : FileSystem) (cwd : Place) (dir : String)
    (hname : Location.IsPart name) :
    fs.locate? cwd (FilePath.append dir name) = (fs.locate? cwd dir).bind fun place =>
      if fs.isDirectory place && isNameAllowed name then some (place ++ [name]) else none := by
  rw [locate?_append_eq_bind fs cwd dir hname.no_slash]
  simp only [walk_name fs _ hname]

end RouteWorks.FileSystem
