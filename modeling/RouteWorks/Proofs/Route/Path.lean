import Mathlib.Data.List.TakeWhile
import RouteWorks.Route.Path

/-!
# Keys and patterns of route paths

The keys of a path are its literal prefix: either the one empty key of the root, or keys that are all
nonempty.  The pattern goes on from the last key, so that walking down the keys and writing the
pattern at the end spells the whole path again (`address_pattern`).
-/

namespace RouteWorks

namespace Route

/-! ## Segments -/

/-- The segments of a path are the root alone, or they all have a text. -/
theorem segments_cases (raw : String) :
    segments raw = [.root] ∨ segments raw ≠ [] ∧ ∀ g ∈ segments raw, g.text ≠ "" := by
  unfold segments
  dsimp only
  split
  · exact Or.inl rfl
  · rename_i h
    right
    refine ⟨?_, ?_⟩
    · rw [ne_eq, List.map_eq_nil_iff]
      simpa using h
    · intro g hg
      obtain ⟨part, hpart, rfl⟩ := List.mem_map.mp hg
      rw [Segment.text_ofText]
      simpa using (List.mem_filter.mp hpart).2

theorem tail_text_ne_empty {raw : String} : ∀ t ∈ (tail (segments raw)).map Segment.text, t ≠ "" := by
  intro t ht
  obtain ⟨g, hg, rfl⟩ := List.mem_map.mp ht
  rw [tail] at hg
  rcases segments_cases raw with h | ⟨-, h⟩
  · rw [h] at hg
    cases hg
  · exact h g ((List.dropWhile_suffix Segment.isLiteral).subset hg)

/-! ## Keys -/

namespace Path

/-- The keys are the texts of the literal segments in front, or the empty key of the root. -/
theorem keys_eq (raw : String) :
    (ofText raw).keys =
      if ((segments raw).takeWhile Segment.isLiteral).isEmpty then [""]
      else ((segments raw).takeWhile Segment.isLiteral).map Segment.text := by
  unfold ofText grouping
  dsimp only
  split <;> rfl

/-- The keys depend on the literal segments in front alone. -/
theorem keys_congr {raw raw' : String}
    (h : (segments raw).takeWhile Segment.isLiteral = (segments raw').takeWhile Segment.isLiteral) :
    (ofText raw).keys = (ofText raw').keys := by
  rw [keys_eq, keys_eq, h]

/-- The root has one empty key; all other keys have a text. -/
theorem keys_cases (raw : String) :
    (ofText raw).keys = [""] ∨
      (ofText raw).keys ≠ [] ∧ ∀ k ∈ (ofText raw).keys, k ≠ "" := by
  rw [keys_eq]
  split
  · exact Or.inl rfl
  · rename_i hfront
    rcases segments_cases raw with h | ⟨-, h⟩
    · left
      rw [h]
      rfl
    · right
      refine ⟨?_, ?_⟩
      · rw [ne_eq, List.map_eq_nil_iff]
        simpa using hfront
      · intro k hk
        obtain ⟨g, hg, rfl⟩ := List.mem_map.mp hk
        exact h g ((List.takeWhile_prefix _).subset hg)

theorem keys_ne_nil (raw : String) : (ofText raw).keys ≠ [] := by
  rcases keys_cases raw with h | ⟨h, -⟩
  · rw [h]
    exact List.cons_ne_nil _ _
  · exact h

/-- The empty key stands alone. -/
theorem keys_eq_root {raw : String} (h : "" ∈ (ofText raw).keys) : (ofText raw).keys = [""] := by
  rcases keys_cases raw with hroot | ⟨-, hne⟩
  · exact hroot
  · exact absurd rfl (hne "" h)

/-- The last key is empty on the root alone. -/
theorem getLastD_keys_eq_empty_iff (raw : String) :
    (ofText raw).keys.getLastD "" = "" ↔ (ofText raw).keys = [""] := by
  constructor
  · intro h
    refine keys_eq_root ?_
    obtain ⟨last, hlast⟩ : ∃ last, (ofText raw).keys.getLast? = some last :=
      ⟨_, List.getLast?_eq_some_getLast (keys_ne_nil raw)⟩
    rw [List.getLastD_eq_getLast?, hlast, Option.getD_some] at h
    rw [h] at hlast
    exact List.mem_of_getLast? hlast
  · intro h
    rw [h]
    rfl

/-! ## Patterns -/

/-- The pattern is the last key and the captures, without the empty key of the root. -/
theorem pattern_eq (raw : String) :
    (ofText raw).pattern =
      Text.join "/" ((ofText raw).keys.getLast?.toList.filter (· ≠ "")
        ++ (tail (segments raw)).map Segment.text) := by
  have htail : ((tail (segments raw)).map Segment.text).filter (· ≠ "") =
      (tail (segments raw)).map Segment.text := by
    rw [List.filter_eq_self]
    intro t ht
    simpa using tail_text_ne_empty t ht
  have hpattern : (ofText raw).pattern =
      Text.join "/" (((ofText raw).keys.getLast?.toList
        ++ (tail (segments raw)).map Segment.text).filter (· ≠ "")) := by
    unfold ofText
    dsimp only
  rw [hpattern, List.filter_append, htail]

end Path

/-- The path of what is written as `leaf` at the end of some keys, where every key but the last one
opens a level of its own. -/
def address : List String → String → String
  | [], leaf => "/" ++ leaf
  | [_], leaf => "/" ++ leaf
  | key :: next :: keys, leaf => "/" ++ key ++ address (next :: keys) leaf

theorem address_join {keys : List String} {last : String} (h : keys.getLast? = some last)
    (ts : List String) :
    address keys (Text.join "/" (last :: ts)) = "/" ++ Text.join "/" (keys ++ ts) := by
  induction keys with
  | nil => cases h
  | cons key rest ih =>
      cases rest with
      | nil =>
          cases h
          rfl
      | cons next rest =>
          rw [List.getLast?_cons_cons] at h
          rw [address, ih h]
          simp only [List.cons_append, Text.join]
          rw [String.intercalate_cons_cons]
          simp only [String.append_assoc]

/-- Walking down the keys and writing the last one spells all keys. -/
theorem address_last {keys : List String} {last : String} (h : keys.getLast? = some last) :
    address keys last = "/" ++ Text.join "/" keys := by
  have := address_join h []
  rwa [Text.join, String.intercalate_singleton, List.append_nil] at this

/-- Walking down the keys and writing the pattern spells the whole path. -/
theorem address_pattern (raw : String) :
    address (Path.ofText raw).keys (Path.ofText raw).pattern =
      "/" ++ Text.join "/" ((segments raw).map Segment.text) := by
  have hroot : ([""] : List String).getLast?.toList.filter (· ≠ "") = [] := by decide
  have hsplit : (segments raw).takeWhile Segment.isLiteral ++ tail (segments raw) =
      segments raw := List.takeWhile_append_dropWhile
  rw [Path.pattern_eq]
  rcases segments_cases raw with hsegs | ⟨-, htext⟩
  · have hkeys : (Path.ofText raw).keys = [""] := by
      rw [Path.keys_eq, hsegs]
      rfl
    rw [hkeys, hroot, hsegs]
    rfl
  · by_cases hfront : ((segments raw).takeWhile Segment.isLiteral).isEmpty
    · -- the path starts with a capture
      have hkeys : (Path.ofText raw).keys = [""] := by rw [Path.keys_eq, if_pos hfront]
      rw [List.isEmpty_iff.mp hfront, List.nil_append] at hsplit
      rw [hkeys, hroot, List.nil_append, hsplit, address]
    · -- the last literal segment opens the pattern, the ones before it are the keys above
      have hkeys : (Path.ofText raw).keys =
          ((segments raw).takeWhile Segment.isLiteral).map Segment.text := by
        rw [Path.keys_eq, if_neg hfront]
      obtain ⟨last, hlast⟩ : ∃ last, (Path.ofText raw).keys.getLast? = some last :=
        ⟨_, List.getLast?_eq_some_getLast (Path.keys_ne_nil raw)⟩
      have hlastText : last ≠ "" := by
        have hmem := List.mem_of_getLast? hlast
        rw [hkeys] at hmem
        obtain ⟨g, hg, rfl⟩ := List.mem_map.mp hmem
        exact htext g ((List.takeWhile_prefix Segment.isLiteral).subset hg)
      have hpattern : (Path.ofText raw).keys.getLast?.toList.filter (· ≠ "") = [last] := by
        rw [hlast]
        simp [hlastText]
      rw [hpattern, List.singleton_append, address_join hlast, hkeys, ← List.map_append, hsplit]

theorem tail_ne_nil_iff (raw : String) :
    tail (segments raw) ≠ [] ↔ ∃ g ∈ segments raw, g.isLiteral = false := by
  rw [tail, ne_eq, List.dropWhile_eq_nil_iff]
  simp

/-- A text is not what it becomes with a separator and more behind it. -/
theorem join_cons_cons_ne (t next : String) (ts : List String) :
    Text.join "/" (t :: next :: ts) ≠ t := by
  intro h
  have hlen := congrArg String.length h
  rw [Text.join, String.intercalate_cons_cons, String.length_append, String.length_append] at hlen
  have hsep : ("/" : String).length = 1 := by decide
  omega

theorem join_cons_ne_empty {t : String} (ht : t ≠ "") (ts : List String) :
    Text.join "/" (t :: ts) ≠ "" := by
  cases ts with
  | nil =>
      rw [Text.join, String.intercalate_singleton]
      exact ht
  | cons next ts =>
      intro h
      have hlen := congrArg String.length h
      rw [Text.join, String.intercalate_cons_cons, String.length_append, String.length_append] at hlen
      have hsep : ("/" : String).length = 1 := by decide
      have hempty : ("" : String).length = 0 := by decide
      omega

/-- The pattern differs from the last key exactly when the path has a capture. -/
theorem pattern_ne_last_iff {raw last : String} (h : (Path.ofText raw).keys.getLast? = some last) :
    (Path.ofText raw).pattern ≠ last ↔ ∃ g ∈ segments raw, g.isLiteral = false := by
  rw [← tail_ne_nil_iff, Path.pattern_eq, h, Option.toList_some, not_iff_not]
  have htext := @tail_text_ne_empty raw
  cases htail : tail (segments raw) with
  | nil =>
      by_cases hlast : last = ""
      · subst hlast
        simp [Text.join]
      · simp [Text.join, hlast]
  | cons g gs =>
      have hg : g.text ≠ "" := htext g.text (by rw [htail]; exact List.mem_cons_self)
      have hne : Text.join "/" ([last].filter (· ≠ "") ++ (g :: gs).map Segment.text) ≠ last := by
        by_cases hlast : last = ""
        · subst hlast
          exact join_cons_ne_empty hg _
        · have hkeep : [last].filter (· ≠ "") = [last] := by simp [hlast]
          rw [hkeep]
          exact join_cons_cons_ne last g.text _
      simp only [hne, reduceCtorEq]

end Route

end RouteWorks
