import RouteWorks.Proofs.Manifest.Build
import RouteWorks.Proofs.Route.Path
import RouteWorks.Proofs.Text.Joined

/-!
# Normal form of route paths

The segments of a path are pieces without separator, each of them nonempty unless the path is the root.
Such pieces are read again from what they are joined to (`segments_join`), so that a path has one normal
form.  Keys and pattern only divide it: joined again they are the segments (`Path.join_pattern`).
-/

namespace RouteWorks

theorem Segment.eq_literal {g : Segment} (h : g.isLiteral = true) : g = .literal g.text := by
  cases g with
  | literal t => rfl
  | parameter n => cases h
  | wildcard n => cases h

namespace Route

open Text (join)

/-! ## Segments -/

theorem eq_root_or_ofText {raw : String} {g : Segment} (hg : g ∈ segments raw) :
    g = .root ∨ ∃ part ∈ Text.split (· == '/') (trimPath raw), g = Segment.ofText part := by
  unfold segments at hg
  dsimp only at hg
  split at hg
  · exact Or.inl (List.mem_singleton.mp hg)
  · obtain ⟨part, hpart, rfl⟩ := List.mem_map.mp hg
    exact Or.inr ⟨part, (List.mem_filter.mp hpart).1, rfl⟩

/-- A segment of a path is read from its own text. -/
theorem ofText_text {raw : String} {g : Segment} (hg : g ∈ segments raw) :
    Segment.ofText g.text = g := by
  rcases eq_root_or_ofText hg with rfl | ⟨part, -, rfl⟩
  · rfl
  · rw [Segment.text_ofText]

theorem map_ofText_texts (raw : String) :
    ((segments raw).map Segment.text).map Segment.ofText = segments raw := by
  rw [List.map_map]
  exact (List.map_congr_left fun g hg => ofText_text hg).trans (List.map_id _)

/-- No separator is left in a segment. -/
theorem slash_not_mem_text {raw : String} {g : Segment} (hg : g ∈ segments raw) :
    '/' ∉ g.text.toList := by
  rcases eq_root_or_ofText hg with rfl | ⟨part, hpart, rfl⟩
  · exact List.not_mem_nil
  · obtain ⟨cs, hcs, rfl⟩ := List.mem_map.mp hpart
    rw [Segment.text_ofText, String.toList_ofList]
    intro hmem
    simpa using Text.not_sep_of_mem_splitWhen hcs hmem

/-- Blank characters around a path are trimmed anyway. -/
theorem segments_trim (raw : String) : segments (Text.trim raw) = segments raw := by
  simp [segments, trimPath, Text.trim]

/-! ## Joined segments -/

section Join

variable {ts : List String}

/-- Joined texts do not begin or end with a separator. -/
theorem stripWhile_join (hne : ts ≠ []) (h : ∀ t ∈ ts, t ≠ "" ∧ '/' ∉ t.toList) :
    Text.stripWhile (· == '/') (join "/" ts).toList = (join "/" ts).toList := by
  have hfree : ∀ t ∈ ts, ∀ c ∈ t.toList, (c == '/') = false := fun t ht =>
    Text.beq_eq_false_of_not_mem (h t ht).2
  apply Text.stripWhile_eq_self
  · intro c hc
    obtain ⟨t, rest, rfl⟩ := List.exists_cons_of_ne_nil hne
    rw [Text.head?_join "/" (h t List.mem_cons_self).1] at hc
    exact hfree t List.mem_cons_self c (List.mem_of_head? hc)
  · intro c hc
    obtain ⟨rest, t, rfl⟩ := (List.eq_nil_or_concat' ts).resolve_left hne
    have ht : t ∈ rest ++ [t] := by simp
    rw [Text.getLast?_join "/" (h t ht).1] at hc
    exact hfree t ht c (List.mem_of_getLast? hc)

theorem trimPath_join (hne : ts ≠ []) (h : ∀ t ∈ ts, t ≠ "" ∧ '/' ∉ t.toList) :
    trimPath ("/" ++ join "/" ts ++ "/") = join "/" ts := by
  have hslash : ∀ c ∈ ['/'], (c == '/') = true := by simp
  have hchars : ("/" ++ join "/" ts ++ "/").toList = ['/'] ++ (join "/" ts).toList ++ ['/'] := by
    simp
  -- the separators at the ends are not blank
  have htrim : Text.trimChars (['/'] ++ (join "/" ts).toList ++ ['/']) =
      ['/'] ++ (join "/" ts).toList ++ ['/'] := by
    apply Text.trimChars_eq_self
    · rintro c ⟨⟩
      rfl
    · intro c hc
      rw [List.getLast?_concat] at hc
      cases hc
      rfl
  rw [trimPath, hchars, htrim, Text.stripWhile_append hslash hslash, stripWhile_join hne h,
    String.ofList_toList]

/-- Texts without separator are read as segments from what they are joined to. -/
theorem segments_join (hne : ts ≠ []) (h : ∀ t ∈ ts, t ≠ "" ∧ '/' ∉ t.toList) :
    segments ("/" ++ join "/" ts ++ "/") = ts.map Segment.ofText := by
  have hsplit : Text.split (· == '/') (join "/" ts) = ts :=
    Text.split_join '/' rfl hne fun t ht => Text.beq_eq_false_of_not_mem (h t ht).2
  have hkeep : ts.filter (· ≠ "") = ts := by
    rw [List.filter_eq_self]
    intro t ht
    simpa using (h t ht).1
  rw [segments, trimPath_join hne h, hsplit, hkeep]
  simp [hne]

end Join

/-- A path and the path that is written with its segments have the same segments. -/
theorem segments_rejoin (raw : String) :
    segments ("/" ++ join "/" ((segments raw).map Segment.text) ++ "/") = segments raw := by
  rcases segments_cases raw with hroot | ⟨hne, htext⟩
  · rw [hroot]
    decide
  · rw [segments_join (by simpa using hne), map_ofText_texts]
    intro t ht
    obtain ⟨g, hg, rfl⟩ := List.mem_map.mp ht
    exact ⟨htext g hg, slash_not_mem_text hg⟩

-- blanks beside a separator belong to a segment
example : segments " / /a //:id/ " = [.literal " ", .literal "a ", .parameter "id"] := by decide

/-! ## Keys and patterns -/

/-- The address of a leaf is written with the keys above the last one. -/
theorem address_eq_join {keys : List String} (hne : keys ≠ []) (leaf : String) :
    address keys leaf = "/" ++ join "/" (keys.dropLast ++ [leaf]) := by
  induction keys with
  | nil => exact absurd rfl hne
  | cons key rest ih =>
      cases rest with
      | nil => rw [address, List.dropLast_singleton, List.nil_append, Text.join_singleton]
      | cons next rest =>
          obtain ⟨first, more, hmore⟩ := List.exists_cons_of_ne_nil
            (List.concat_ne_nil leaf (next :: rest).dropLast)
          rw [address, ih (List.cons_ne_nil next rest), List.dropLast_cons_cons, List.cons_append, hmore,
            Text.join_cons_cons]
          simp only [String.append_assoc]

namespace Path

theorem ofText_trim (raw : String) : ofText (Text.trim raw) = ofText raw := by
  rw [ofText, ofText, segments_trim]

/-- Every key is literal. -/
theorem ofText_key {raw k : String} (hk : k ∈ (ofText raw).keys) : Segment.ofText k = .literal k := by
  rw [keys_eq] at hk
  split at hk
  · rw [List.mem_singleton.mp hk]
    rfl
  · obtain ⟨g, hg, rfl⟩ := List.mem_map.mp hk
    have hmem : g ∈ segments raw := (List.takeWhile_prefix Segment.isLiteral).subset hg
    have hliteral : g.isLiteral = true := List.mem_takeWhile_imp hg
    rw [ofText_text hmem]
    exact Segment.eq_literal hliteral

/-- Only the last key can be empty. -/
theorem filter_dropLast_keys (raw : String) :
    (ofText raw).keys.dropLast.filter (· ≠ "") = (ofText raw).keys.dropLast := by
  rcases keys_cases raw with hroot | ⟨-, hne⟩
  · simp [hroot]
  · rw [List.filter_eq_self]
    intro k hk
    simpa using hne k (List.dropLast_subset _ hk)

/-- The keys above the last one and the pattern spell the segments. -/
theorem join_pattern (raw : String) :
    join "/" ((ofText raw).keys.dropLast.filter (· ≠ "") ++ [(ofText raw).pattern]) =
      join "/" ((segments raw).map Segment.text) := by
  have haddress := address_pattern raw
  rw [address_eq_join (keys_ne_nil raw)] at haddress
  rw [filter_dropLast_keys]
  simpa using haddress

/-- The pattern is the last key alone exactly on paths without captures. -/
theorem getLast?_keys_eq_pattern_iff (raw : String) :
    (ofText raw).keys.getLast? = some (ofText raw).pattern ↔
      ∀ g ∈ segments raw, g.isLiteral = true := by
  obtain ⟨last, hlast⟩ : ∃ last, (ofText raw).keys.getLast? = some last :=
    ⟨_, List.getLast?_eq_some_getLast (keys_ne_nil raw)⟩
  have hpattern := not_congr (pattern_ne_last_iff hlast)
  rw [not_not] at hpattern
  rw [hlast, Option.some.injEq, eq_comm, hpattern]
  simp

end Path

end Route

/-! ## Declared specs -/

/-- The specs that are declared with a path. -/
inductive Spec.DeclaredWith (raw : String) : Spec → Prop
  | function {name : String} {methods : List Method} {location : Location} {h : Handler}
      (hdecl : Handler.function name raw methods location = .ok h) : DeclaredWith raw (.handler h)
  | record {name : String} {methods : List Method} {location : Location} {fields : List Field}
      {h : Handler} (hdecl : Handler.record name raw methods location fields = .ok h) :
      DeclaredWith raw (.handler h)
  | middleware {name : String} {location : Location} {m : Middleware}
      (hdecl : Middleware.declare name raw location = .ok m) : DeclaredWith raw (.middleware m)
  | mount {name root : String} {m : Mount} (hdecl : Mount.declare name raw root = .ok m) :
      DeclaredWith raw (.mount m)

/-- A spec keeps its path trimmed. -/
theorem Spec.DeclaredWith.path_eq {raw : String} {s : Spec} (h : s.DeclaredWith raw) :
    s.path = Text.trim raw := by
  cases h with
  | function hdecl =>
      obtain ⟨i, -, -, rfl⟩ := Handler.function_eq_ok_iff.mp hdecl
      rfl
  | record hdecl =>
      obtain ⟨i, -, -, -, rfl⟩ := Handler.record_eq_ok_iff.mp hdecl
      rfl
  | middleware hdecl =>
      obtain ⟨i, -, -, rfl⟩ := Middleware.declare_eq_ok_iff.mp hdecl
      rfl
  | mount hdecl =>
      obtain ⟨-, rfl⟩ := Mount.declare_eq_ok_iff.mp hdecl
      rfl

/-- How a path falls apart into segments, and its segments into keys and pattern.

No segment has a separator in it, and none is empty but the one of the root; the path that is written with
the segments has the same segments again.  There is at least one key, all keys are literal, and an empty
one stands alone.  The nonempty keys above the last one and the pattern spell the segments, so nothing is
lost, and the pattern is the last key exactly when there is no capture.  All this is the same for the
path that a spec keeps. -/
theorem Route.Path.ofText_decomposes (raw : String) :
    (∀ g ∈ segments raw, '/' ∉ g.text.toList) ∧
    (segments raw = [.root] ∨ segments raw ≠ [] ∧ ∀ g ∈ segments raw, g.text ≠ "") ∧
    segments ("/" ++ Text.join "/" ((segments raw).map Segment.text) ++ "/") = segments raw ∧
    (ofText raw).keys ≠ [] ∧
    (∀ k ∈ (ofText raw).keys, Segment.ofText k = .literal k) ∧
    ("" ∈ (ofText raw).keys → (ofText raw).keys = [""]) ∧
    Text.join "/" ((ofText raw).keys.dropLast.filter (· ≠ "") ++ [(ofText raw).pattern]) =
      Text.join "/" ((segments raw).map Segment.text) ∧
    ((ofText raw).keys.getLast? = some (ofText raw).pattern ↔
      ∀ g ∈ segments raw, g.isLiteral = true) ∧
    ofText (Text.trim raw) = ofText raw ∧
    ∀ s : Spec, s.DeclaredWith raw → ofText s.path = ofText raw := by
  refine ⟨fun g hg => slash_not_mem_text hg, segments_cases raw, segments_rejoin raw, keys_ne_nil raw,
    fun k hk => ofText_key hk, keys_eq_root, join_pattern raw, getLast?_keys_eq_pattern_iff raw,
    ofText_trim raw, ?_⟩
  intro s hs
  rw [hs.path_eq, ofText_trim]

end RouteWorks
