import RouteWorks.Proofs.Source.Location
import RouteWorks.Source.Reference

/-!
# What a reference imports

Items of another module are imported by the path of this module, and the import binds the last module of
the path (`boundName_importPath`).  The path determines the modules (`importPath_inj`), the bound name
does not.
-/

namespace RouteWorks

open Text

/-- The path under which modules are imported. -/
def importPath (modules : List String) : String := join "::" ("crate" :: modules)

/-- The name that an import binds: what follows the last colon of its path. -/
def boundName (path : String) : String :=
  String.ofList (path.toList.reverse.takeWhile (· != ':')).reverse

section Paths

variable {modules modules' : List String}

theorem not_mem_colon {name : String} (h : Name.isModuleName name = true) : ':' ∉ name.toList :=
  fun hmem => absurd (Name.wordChar_of_isModuleName h ':' hmem) (by decide)

/-- A name without colons is bound as it is. -/
theorem boundName_eq_self {name : String} (h : ':' ∉ name.toList) : boundName name = name := by
  have hword : ∀ c ∈ name.toList.reverse, (c != ':') = true :=
    bne_of_not_mem (mt List.mem_reverse.mp h)
  rw [boundName, ← List.append_nil name.toList.reverse, List.takeWhile_append_of_pos hword,
    List.takeWhile_nil, List.append_nil, List.reverse_reverse, String.ofList_toList]

theorem boundName_append {name : String} (h : ':' ∉ name.toList) (front : String) :
    boundName (front ++ "::" ++ name) = name := by
  -- read backwards, the path starts with its last part and a colon
  have hpath : (front ++ "::" ++ name).toList.reverse =
      name.toList.reverse ++ ':' :: (front ++ ":").toList.reverse := by
    simp [String.toList_append]
  have hword : ∀ c ∈ name.toList.reverse, (c != ':') = true :=
    bne_of_not_mem (mt List.mem_reverse.mp h)
  rw [boundName, hpath, List.takeWhile_append_of_pos hword, List.takeWhile_cons_of_neg (by decide),
    List.append_nil, List.reverse_reverse, String.ofList_toList]

/-- An import binds the last module of its path. -/
theorem boundName_importPath (hne : modules ≠ [])
    (hnames : ∀ m ∈ modules, Name.isModuleName m = true) :
    boundName (importPath modules) = modules.getLastD "" := by
  obtain ⟨front, last, hlast⟩ := List.eq_nil_or_concat modules |>.resolve_left hne
  rw [List.concat_eq_append] at hlast
  have hcolon : ':' ∉ last.toList := by
    refine not_mem_colon (hnames last ?_)
    rw [hlast]
    exact List.mem_append_right _ List.mem_cons_self
  rw [importPath, hlast, ← List.cons_append, join_append "::" (List.cons_ne_nil _ _)
    (List.cons_ne_nil _ _), join_singleton, boundName_append hcolon, List.getLastD_concat]

theorem importPath_inj (hnames : ∀ m ∈ modules, Name.isModuleName m = true)
    (hnames' : ∀ m ∈ modules', Name.isModuleName m = true)
    (h : importPath modules = importPath modules') : modules = modules' := by
  have hparts : ∀ {ms : List String}, (∀ m ∈ ms, Name.isModuleName m = true) →
      ∀ part ∈ "crate" :: ms, part ≠ "" ∧ ':' ∉ part.toList := by
    intro ms hms part hpart
    rcases List.mem_cons.mp hpart with rfl | hpart
    · decide
    · exact ⟨(Location.isPart_of_isModuleName (hms part hpart)).ne_empty, not_mem_colon (hms part hpart)⟩
  have hsplit : ∀ {ms : List String}, (∀ m ∈ ms, Name.isModuleName m = true) →
      (split (· == ':') (importPath ms)).filter (· ≠ "") = "crate" :: ms :=
    fun hms => split_join_twice ':' (hparts hms)
  have hcrate : "crate" :: modules = "crate" :: modules' := by
    rw [← hsplit hnames, h, hsplit hnames']
  exact (List.cons.inj hcrate).2

end Paths

namespace ModuleReference

variable {l owner : Location} {entry : Option Location} {r : ModuleReference}

/-- How a module that is neither the entry nor the place itself is named: it is imported, and the last
module qualifies its items. -/
theorem resolve_of_properModules? {modules : List String} (hmodules : l.properModules? = some modules)
    (howner : l ≠ owner) (hentry : entry ≠ some l) :
    resolve l owner entry = .ok { isEntry := false, modules, isLocal := false } := by
  rw [resolve, if_neg hentry, hmodules]
  simp [howner]

theorem qualifier_of_properModules? {modules : List String}
    (hmodules : l.properModules? = some modules) :
    qualifier { isEntry := false, modules, isLocal := false } = l.last ++ "::" := by
  rw [qualifier, boundQualifier, l.last_eq hmodules]
  rfl

/-- Code can name the entry module, once it is known, and the modules below the root of the sources; any other
location is refused. -/
theorem resolve_cases (l owner : Location) (entry : Option Location) :
    ((entry = some l ∨ l.IsModule) ∧ ∃ r, resolve l owner entry = .ok r) ∨
      ¬ (entry = some l ∨ l.IsModule) ∧
        resolve l owner entry = .error (.unresolvableModule l.text) := by
  rw [resolve]
  split
  · rename_i hentry
    exact Or.inl ⟨Or.inl hentry, _, rfl⟩
  · rename_i hentry
    cases hmodules : l.properModules? with
    | some modules => exact Or.inl ⟨Or.inr (Location.isModule_iff.mpr ⟨modules, hmodules⟩), _, rfl⟩
    | none =>
        refine Or.inr ⟨?_, rfl⟩
        exact not_or.mpr ⟨hentry, Location.properModules?_eq_none_iff.mp hmodules⟩

/-- Only the entry module can be named without having modules. -/
theorem exists_modules (h : resolve l owner entry = .ok r) (hentry : entry ≠ some l) :
    ∃ modules, l.properModules? = some modules := by
  rw [resolve, if_neg hentry] at h
  cases hmodules : l.properModules? with
  | none =>
      rw [hmodules] at h
      cases h
  | some modules => exact ⟨modules, rfl⟩

/-- What stands in front of the items of a location. -/
theorem qualifier_eq (h : resolve l owner entry = .ok r) :
    r.qualifier =
      if l = owner then "" else if entry = some l then "crate::" else l.last ++ "::" := by
  by_cases hentry : entry = some l
  · rw [resolve, if_pos hentry] at h
    cases h
    simp [qualifier, hentry]
  · obtain ⟨modules, hmodules⟩ := exists_modules h hentry
    rw [resolve, if_neg hentry, hmodules] at h
    cases h
    simp [qualifier, boundQualifier, hentry, l.last_eq hmodules]

/-- An import is needed for a module that is neither the entry nor the place itself. -/
theorem import?_eq_some_iff (h : resolve l owner entry = .ok r) {path : String} :
    r.import? = some path ↔ l ≠ owner ∧ entry ≠ some l ∧
      ∃ modules, l.properModules? = some modules ∧ importPath modules = path := by
  rw [resolve] at h
  split at h
  · rename_i hentry
    cases h
    simp [import?, hentry]
  · rename_i hentry
    cases hmodules : l.properModules? with
    | none =>
        rw [hmodules] at h
        cases h
    | some modules =>
        rw [hmodules] at h
        cases h
        simp [import?, hentry, importPath]

end ModuleReference

/-- What has a module can be named from anywhere. -/
theorem Location.HasModule.exists_resolve {l entry : Location} (h : l.HasModule entry)
    (owner : Location) : ∃ r, ModuleReference.resolve l owner (some entry) = .ok r := by
  have hnameable : some entry = some l ∨ l.IsModule := h.imp_left fun heq => congrArg some heq.symm
  rcases ModuleReference.resolve_cases l owner (some entry) with ⟨-, hok⟩ | ⟨hbad, -⟩
  · exact hok
  · exact absurd hnameable hbad

end RouteWorks
