import RouteWorks.Proofs.Fallible
import RouteWorks.Proofs.Source.Reference

/-!
# The path of a referenced module

A location that is not the entry is referred to by the modules between the root of its sources and itself.
They are written as one path, and this path keeps them: joined to the root it is the location again, its
last module is the qualifier, and it is what is imported (`ModuleReference.resolve_describes`).  So an import
path determines the location among those with the same root.
-/

namespace RouteWorks.ModuleReference

open Text Location

variable {target target' owner owner' : Location} {entry entry' : Option Location}
  {r r' : ModuleReference}

/-- The modules on the path of a reference. -/
def segments (r : ModuleReference) : List String := split (· == '/') r.path

/-- A reference knows whether it is made from the location itself. -/
theorem isLocal_iff (h : resolve target owner entry = .ok r) : r.isLocal = true ↔ target = owner := by
  rw [resolve] at h
  split at h
  · cases h
    exact decide_eq_true_iff
  · split at h
    · cases h
    · cases h
      exact decide_eq_true_iff

/-- Apart from the entry, a location is referred to by its modules. -/
theorem properModules?_eq (h : resolve target owner entry = .ok r) (hentry : entry ≠ some target) :
    target.properModules? = some r.modules ∧ r.isEntry = false := by
  obtain ⟨modules, hmodules⟩ := exists_modules h hentry
  rw [resolve, if_neg hentry, hmodules] at h
  cases h
  exact ⟨hmodules, rfl⟩

/-- The path of a reference falls apart into its modules. -/
theorem segments_eq (h : resolve target owner entry = .ok r) (hentry : entry ≠ some target) :
    r.segments = r.modules := by
  obtain ⟨-, -, hne, hnames⟩ := properModules?_eq_some_iff.mp (properModules?_eq h hentry).1
  refine split_join '/' rfl hne fun m hm => ?_
  exact beq_eq_false_of_not_mem (isPart_of_isModuleName (hnames m hm)).no_slash

/-- Joined to the root of the sources, the path of a reference leads to the location. -/
theorem root_segments (h : resolve target owner entry = .ok r) (hentry : entry ≠ some target) :
    ∃ root, target.crateRoot? = some root ∧ root.below r.segments = target ∧
      root.text ++ "/" ++ r.path = target.text := by
  obtain ⟨hmodules, -⟩ := properModules?_eq h hentry
  obtain ⟨⟨above, hparts⟩, hmarker, hne, -⟩ := properModules?_eq_some_iff.mp hmodules
  have hbelow : (⟨above ++ [rootMarker]⟩ : Location).below r.modules = target := by
    cases target
    rw [below, List.append_assoc, List.singleton_append, ← hparts]
  refine ⟨⟨above ++ [rootMarker]⟩, (crateRoot?_eq_some_iff hmodules _).mpr hbelow, ?_, ?_⟩
  · rw [segments_eq h hentry, hbelow]
  · rw [← hbelow, below, text, text, path, join_append "/" (List.concat_ne_nil _ _) hne,
      String.append_assoc, String.append_assoc, String.append_assoc]

/-- Nothing is imported for items of the location itself, and only for them. -/
theorem import?_eq_none_iff (h : resolve target owner entry = .ok r) (hentry : entry ≠ some target) :
    r.import? = none ↔ target = owner := by
  obtain ⟨hmodules, -⟩ := properModules?_eq h hentry
  constructor
  · intro hnone
    by_contra howner
    have hsome := (import?_eq_some_iff h).mpr ⟨howner, hentry, _, hmodules, rfl⟩
    rw [hnone] at hsome
    cases hsome
  · intro howner
    refine Option.eq_none_iff_forall_ne_some.mpr fun path hpath => ?_
    exact ((import?_eq_some_iff h).mp hpath).1 howner

/-- An import lists the modules of the path. -/
theorem eq_importPath (h : resolve target owner entry = .ok r) (hentry : entry ≠ some target)
    {path : String} (hpath : r.import? = some path) : path = importPath r.segments := by
  obtain ⟨-, -, modules, hmodules, himport⟩ := (import?_eq_some_iff h).mp hpath
  rw [(properModules?_eq h hentry).1] at hmodules
  cases hmodules
  rw [segments_eq h hentry, himport]

/-- Locations below one root are told apart by their modules. -/
theorem target_eq_of_segments (h : resolve target owner entry = .ok r) (hentry : entry ≠ some target)
    (h' : resolve target' owner' entry' = .ok r') (hentry' : entry' ≠ some target')
    (hroot : target.crateRoot? = target'.crateRoot?) (hsegments : r.segments = r'.segments) :
    target = target' := by
  obtain ⟨root, hcrate, hbelow, -⟩ := root_segments h hentry
  obtain ⟨root', hcrate', hbelow', -⟩ := root_segments h' hentry'
  rw [hcrate, hcrate', Option.some.injEq] at hroot
  rw [← hbelow, ← hbelow', hroot, hsegments]

/-- Locations below one root are told apart by the imports of their references. -/
theorem target_eq_of_import? (h : resolve target owner entry = .ok r) (hentry : entry ≠ some target)
    (h' : resolve target' owner' entry' = .ok r') (hentry' : entry' ≠ some target')
    (hroot : target.crateRoot? = target'.crateRoot?) (hsame : r.import? = r'.import?)
    (hone : r.import? ≠ none ∨ owner = owner') : target = target' := by
  cases himport : r.import? with
  | none =>
      -- both are references from the location itself
      have howner : owner = owner' := hone.resolve_left fun hsome => hsome himport
      rw [(import?_eq_none_iff h hentry).mp himport, howner]
      exact ((import?_eq_none_iff h' hentry').mp (hsame ▸ himport)).symm
  | some path =>
      have hpath := eq_importPath h hentry himport
      have hpath' := eq_importPath h' hentry' (hsame ▸ himport)
      have hnames := isModuleName_of_properModules? (properModules?_eq h hentry).1
      have hnames' := isModuleName_of_properModules? (properModules?_eq h' hentry').1
      rw [← segments_eq h hentry] at hnames
      rw [← segments_eq h' hentry'] at hnames'
      exact target_eq_of_segments h hentry h' hentry' hroot
        (importPath_inj hnames hnames' (hpath.symm.trans hpath'))

/-- Which locations can be referred to, and what a reference to one that is not the entry says.

A reference exists to the entry and to the locations that have a root marker, and behind their last one
at least one directory and only names of modules.  Its path leads from the root of the sources to the
location and has no root marker in it; the qualifier is its last module.  An import is absent exactly for
items of the location itself, and lists the modules of the path in their order otherwise.  Two references
below the same root that import the same path are references to the same location, and so are two with
one owner that import nothing. -/
theorem resolve_describes (target owner : Location) (entry : Option Location) :
    ((∃ r, resolve target owner entry = .ok r) ↔ entry = some target ∨
      ∃ above modules, target.parts = above ++ rootMarker :: modules ∧ rootMarker ∉ modules ∧
        modules ≠ [] ∧ ∀ m ∈ modules, Name.isModuleName m = true) ∧
    ∀ r, resolve target owner entry = .ok r → entry ≠ some target →
      (∃ root, target.crateRoot? = some root ∧ root.below r.segments = target ∧
        root.text ++ "/" ++ r.path = target.text) ∧
      rootMarker ∉ r.segments ∧
      r.boundQualifier = r.segments.getLastD "" ++ "::" ∧
      (r.isLocal = true ↔ target = owner) ∧
      (r.import? = none ↔ r.isLocal = true) ∧
      (∀ path, r.import? = some path → path = join "::" ("crate" :: r.segments)) ∧
      ∀ target' owner' entry' r', resolve target' owner' entry' = .ok r' → entry' ≠ some target' →
        target.crateRoot? = target'.crateRoot? → r.import? = r'.import? →
        (r.import? ≠ none ∨ owner = owner') → target = target' := by
  constructor
  · rcases resolve_cases target owner entry with ⟨hnameable, hok⟩ | ⟨hbad, herror⟩
    · exact iff_of_true hok hnameable
    · rw [herror]
      exact iff_of_false (not_exists_ok _) hbad
  · intro r h hentry
    obtain ⟨hmodules, hisEntry⟩ := properModules?_eq h hentry
    have hmarker : rootMarker ∉ r.segments := by
      rw [segments_eq h hentry]
      exact (properModules?_eq_some_iff.mp hmodules).2.1
    have hqualifier : r.boundQualifier = r.segments.getLastD "" ++ "::" := by
      rw [boundQualifier, hisEntry, segments_eq h hentry]
      rfl
    have himport : r.import? = none ↔ r.isLocal = true :=
      (import?_eq_none_iff h hentry).trans (isLocal_iff h).symm
    refine ⟨root_segments h hentry, hmarker, hqualifier, isLocal_iff h, himport, ?_, ?_⟩
    · exact fun path hpath => eq_importPath h hentry hpath
    · intro target' owner' entry' r' h' hentry' hroot hsame hone
      exact target_eq_of_import? h hentry h' hentry' hroot hsame hone

/-- The handlers of an application whose directory has the name of a root as well. -/
def handlers : Location := ⟨["home", "src", "app", "src", "api", "handler"]⟩

/-- The routers beside them. -/
def routers : Location := ⟨["home", "src", "app", "src", "router"]⟩

theorem resolve_describes_handlers : ∃ r, resolve handlers routers (some ⟨["home"]⟩) = .ok r ∧
    (⟨["home", "src", "app", "src"]⟩ : Location).below r.segments = handlers ∧
      r.import? = some "crate::api::handler" := by
  obtain ⟨r, hr⟩ := (resolve_describes handlers routers (some ⟨["home"]⟩)).1.mpr
    (Or.inr ⟨["home", "src", "app"], ["api", "handler"], rfl, by decide, by decide, by decide⟩)
  obtain ⟨⟨root, hroot, hbelow, -⟩, -, -, hlocal, himport, hpath, -⟩ :=
    (resolve_describes handlers routers (some ⟨["home"]⟩)).2 r hr (by decide)
  have hcrate : handlers.crateRoot? = some ⟨["home", "src", "app", "src"]⟩ := by decide
  rw [hcrate, Option.some.injEq] at hroot
  subst hroot
  have hparts : ["home", "src", "app", "src"] ++ r.segments =
      ["home", "src", "app", "src"] ++ ["api", "handler"] := Location.mk.inj hbelow
  have hsegments : r.segments = ["api", "handler"] := List.append_cancel_left hparts
  have hforeign : handlers ≠ routers := by decide
  obtain ⟨path, hsome⟩ := Option.ne_none_iff_exists'.mp
    (mt himport.mp (mt hlocal.mp hforeign))
  refine ⟨r, hr, hbelow, ?_⟩
  rw [hsome, hpath path hsome, hsegments]
  decide

end RouteWorks.ModuleReference
