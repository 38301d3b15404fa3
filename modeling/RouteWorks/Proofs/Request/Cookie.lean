import RouteWorks.Proofs.Fallible
import RouteWorks.Proofs.Text.Ascii
import RouteWorks.Proofs.Text.Blank
import RouteWorks.Proofs.Text.Joined
import RouteWorks.Request.Context

/-!
# Cookies as they are sent

A client writes cookies as pairs with semicolons between them.  It can distribute them over several header
fields, put spaces around a pair and quotes around a value.  None of this matters to what is read
(`readCookies_written`): a cookie has the value of the last pair with its name (`Context.cookie_written`).
-/

namespace RouteWorks

open Text (trimChars stripWhile)

/-! ## Octets of header fields -/

namespace HeaderField

/-- The octets of an ASCII text. -/
def octets (s : String) : List UInt8 := s.toList.map fun c => UInt8.ofNat c.toNat

/-- All characters are visible or spaces. -/
def Visible (cs : List Char) : Prop := ∀ c ∈ cs, ' ' ≤ c ∧ c ≤ '~'

-- named, as a search could also go through all characters there are
instance (cs : List Char) : Decidable (Visible cs) := List.decidableBAll (fun c => ' ' ≤ c ∧ c ≤ '~') cs

theorem isVisible_octet {c : Char} (h : ' ' ≤ c ∧ c ≤ '~') :
    isVisible (UInt8.ofNat c.toNat) = true ∧ Char.ofNat (UInt8.ofNat c.toNat).toNat = c := by
  have hascii : Text.isAscii c = true := decide_eq_true (Nat.lt_of_le_of_lt h.2 (by decide))
  exact Text.ascii_forall (P := fun c => ' ' ≤ c ∧ c ≤ '~' →
    isVisible (UInt8.ofNat c.toNat) = true ∧ Char.ofNat (UInt8.ofNat c.toNat).toNat = c)
    (by decide) hascii h

/-- A visible text is read from its octets. -/
theorem textOf?_octets {s : String} (h : Visible s.toList) :
    textOf? (octets s) = some s := by
  have hall : (octets s).all isVisible = true := by
    rw [octets, List.all_map, List.all_eq_true]
    exact fun c hc => (isVisible_octet (h c hc)).1
  have hchars : (octets s).map (fun b => Char.ofNat b.toNat) = s.toList := by
    rw [octets, List.map_map]
    exact (List.map_congr_left fun c hc => (isVisible_octet (h c hc)).2).trans (List.map_id _)
  rw [textOf?, if_pos hall, hchars, String.ofList_toList]

end HeaderField

/-! ## Written cookies -/

/-- A cookie as it is written in a header field: spaces can stand around it, and quotes around its value. -/
structure WrittenCookie where
  name : String
  value : String
  /-- How many spaces are in front. -/
  before : Nat := 0
  /-- How many spaces are behind. -/
  after : Nat := 0
  /-- Whether the value is in quotes. -/
  quoted : Bool := false

namespace WrittenCookie

variable {w : WrittenCookie}

/-- Name and value. -/
def pair (w : WrittenCookie) : String × String := (w.name, w.value)

/-- The value with the quotes around it. -/
def valueText (w : WrittenCookie) : List Char :=
  if w.quoted then ['"'] ++ w.value.toList ++ ['"'] else w.value.toList

/-- The whole cookie. -/
def text (w : WrittenCookie) : List Char :=
  List.replicate w.before ' ' ++ w.name.toList ++ '=' :: (w.valueText ++ List.replicate w.after ' ')

/-- Name and value consist of visible characters and spaces between them, no delimiter stands in them, and
the value has no quotes of its own at its ends. -/
structure IsLegal (w : WrittenCookie) : Prop where
  name_visible : HeaderField.Visible w.name.toList
  value_visible : HeaderField.Visible w.value.toList
  name_trim : Text.trim w.name = w.name
  value_trim : Text.trim w.value = w.value
  no_equals : '=' ∉ w.name.toList
  no_semicolon : ';' ∉ w.name.toList ∧ ';' ∉ w.value.toList
  no_quotes : w.value.toList.head? ≠ some '"' ∧ w.value.toList.getLast? ≠ some '"'

instance (w : WrittenCookie) : Decidable w.IsLegal :=
  decidable_of_iff
    (HeaderField.Visible w.name.toList ∧ HeaderField.Visible w.value.toList ∧
      Text.trim w.name = w.name ∧ Text.trim w.value = w.value ∧ '=' ∉ w.name.toList ∧
      (';' ∉ w.name.toList ∧ ';' ∉ w.value.toList) ∧
      (w.value.toList.head? ≠ some '"' ∧ w.value.toList.getLast? ≠ some '"'))
    ⟨fun ⟨h₁, h₂, h₃, h₄, h₅, h₆, h₇⟩ => ⟨h₁, h₂, h₃, h₄, h₅, h₆, h₇⟩,
      fun ⟨h₁, h₂, h₃, h₄, h₅, h₆, h₇⟩ => ⟨h₁, h₂, h₃, h₄, h₅, h₆, h₇⟩⟩

/-- Spaces around a text are trimmed away. -/
theorem trimChars_spaces (before after : Nat) {cs : List Char} (h : trimChars cs = cs) :
    trimChars (List.replicate before ' ' ++ cs ++ List.replicate after ' ') = cs := by
  have hspaces : ∀ n, ∀ c ∈ List.replicate n ' ', Text.isBlank c = true := by
    intro n c hc
    rw [List.eq_of_mem_replicate hc]
    rfl
  rw [trimChars, Text.stripWhile_append (hspaces before) (hspaces after)]
  exact h

theorem IsLegal.trimChars_valueText (h : w.IsLegal) : trimChars w.valueText = w.valueText := by
  rw [valueText]
  split
  · -- the quotes are not blank
    refine Text.trimChars_eq_self ?_ ?_
    · rintro c ⟨⟩
      rfl
    · intro c hc
      rw [List.getLast?_concat] at hc
      cases hc
      rfl
  · exact Text.trimChars_toList h.value_trim

/-- The quotes around a value are stripped off, and none of its own. -/
theorem IsLegal.stripWhile_valueText (h : w.IsLegal) :
    stripWhile (· == '"') w.valueText = w.value.toList := by
  have hself : stripWhile (· == '"') w.value.toList = w.value.toList := by
    refine Text.stripWhile_eq_self ?_ ?_
    · rintro c hc
      rw [beq_eq_false_iff_ne]
      rintro rfl
      exact h.no_quotes.1 hc
    · rintro c hc
      rw [beq_eq_false_iff_ne]
      rintro rfl
      exact h.no_quotes.2 hc
  have hquote : ∀ c ∈ ['"'], (c == '"') = true := List.forall_mem_singleton.mpr rfl
  rw [valueText]
  split
  · rw [Text.stripWhile_append hquote hquote, hself]
  · exact hself

/-- A written cookie is read as its name and value. -/
theorem IsLegal.readCookie? (h : w.IsLegal) : readCookie? w.text = some w.pair := by
  have hname : ∀ c ∈ List.replicate w.before ' ' ++ w.name.toList, (c == '=') = false := by
    intro c hc
    rcases List.mem_append.mp hc with hc | hc
    · rw [List.eq_of_mem_replicate hc]
      rfl
    · exact Text.beq_eq_false_of_not_mem h.no_equals c hc
  have hfront := trimChars_spaces w.before 0 (Text.trimChars_toList h.name_trim)
  have hback := trimChars_spaces 0 w.after h.trimChars_valueText
  rw [List.replicate_zero, List.append_nil] at hfront
  rw [List.replicate_zero, List.nil_append] at hback
  rw [RouteWorks.readCookie?, text, Text.cutAt?_append hname rfl, Option.map_some]
  dsimp only
  rw [hfront, hback, h.stripWhile_valueText, String.ofList_toList, String.ofList_toList, pair]

theorem mem_text {c : Char} (hc : c ∈ w.text) :
    c = ' ' ∨ c ∈ w.name.toList ∨ c = '=' ∨ c = '"' ∨ c ∈ w.value.toList := by
  have hvalue : c ∈ w.valueText → c = '"' ∨ c ∈ w.value.toList := by
    rw [valueText]
    split
    · simp
      tauto
    · exact Or.inr
  simp only [text, List.mem_append, List.mem_cons, List.mem_replicate] at hc
  tauto

theorem IsLegal.visible_text (h : w.IsLegal) : HeaderField.Visible w.text := by
  intro c hc
  rcases mem_text hc with rfl | hc | rfl | rfl | hc
  · decide
  · exact h.name_visible c hc
  · decide
  · decide
  · exact h.value_visible c hc

theorem IsLegal.semicolon_not_mem_text (h : w.IsLegal) : ';' ∉ w.text := by
  intro hc
  rcases mem_text hc with hc | hc | hc | hc | hc
  · cases hc
  · exact h.no_semicolon.1 hc
  · cases hc
  · cases hc
  · exact h.no_semicolon.2 hc

end WrittenCookie

/-! ## Written header fields -/

/-- The header field of some cookies. -/
def cookieField (cookies : List WrittenCookie) : String :=
  Text.join ";" (cookies.map fun w => String.ofList w.text)

section Fields

variable {cookies : List WrittenCookie}

theorem visible_cookieField (h : ∀ w ∈ cookies, w.IsLegal) :
    HeaderField.Visible (cookieField cookies).toList := by
  intro c hc
  rcases Text.mem_toList_join hc with hc | ⟨part, hpart, hc⟩
  · rw [List.mem_singleton.mp hc]
    decide
  · obtain ⟨w, hw, rfl⟩ := List.mem_map.mp hpart
    rw [String.toList_ofList] at hc
    exact (h w hw).visible_text c hc

/-- A field falls apart into the cookies it was joined from. -/
theorem splitWhen_cookieField (h : ∀ w ∈ cookies, w.IsLegal) (hne : cookies ≠ []) :
    Text.splitWhen (· == ';') (cookieField cookies).toList = cookies.map WrittenCookie.text := by
  have hparts : ∀ part ∈ cookies.map (fun w => String.ofList w.text), ∀ c ∈ part.toList,
      (c == ';') = false := by
    intro part hpart
    obtain ⟨w, hw, rfl⟩ := List.mem_map.mp hpart
    rw [String.toList_ofList]
    exact Text.beq_eq_false_of_not_mem (h w hw).semicolon_not_mem_text
  have hsplit : Text.split (· == ';') (cookieField cookies) =
      cookies.map fun w => String.ofList w.text :=
    Text.split_join ';' rfl (mt List.map_eq_nil_iff.mp hne) hparts
  have hmap := congrArg (List.map String.toList) hsplit
  simpa [Text.split, Function.comp_def] using hmap

/-- The cookies of a field are read in their order. -/
theorem readCookies_field (h : ∀ w ∈ cookies, w.IsLegal) :
    (Text.splitWhen (· == ';') (cookieField cookies).toList).filterMap readCookie? =
      cookies.map WrittenCookie.pair := by
  by_cases hne : cookies = []
  · -- an empty field is one text without an equals sign
    rw [hne]
    rfl
  · rw [splitWhen_cookieField h hne, List.filterMap_map, ← List.filterMap_eq_map]
    exact List.filterMap_congr fun w hw => (h w hw).readCookie?

end Fields

/-- What is read from fields of cookies, however these are distributed and laid out. -/
theorem readCookies_written {fields : List (List WrittenCookie)}
    (h : ∀ field ∈ fields, ∀ w ∈ field, w.IsLegal) :
    readCookies (fields.map cookieField) = fields.flatten.map WrittenCookie.pair := by
  rw [readCookies, List.flatMap_map, List.map_flatten]
  exact congrArg List.flatten (List.map_congr_left fun field hfield => readCookies_field (h field hfield))

/-! ## Requests -/

theorem lastValue?_eq_some_iff {pairs : List (String × String)} {name value : String} :
    lastValue? pairs name = some value ↔
      ∃ before after, pairs = before ++ (name, value) :: after ∧ ∀ p ∈ after, p.1 ≠ name := by
  rw [lastValue?, List.lookup_eq_some_iff]
  -- the pairs are searched backwards
  constructor
  · rintro ⟨after, before, hpairs, hafter⟩
    refine ⟨before.reverse, after.reverse, ?_, fun p hp => ?_⟩
    · rw [← List.reverse_reverse pairs, hpairs]
      simp
    · exact (bne_iff_ne.mp (hafter p (List.mem_reverse.mp hp))).symm
  · rintro ⟨before, after, rfl, hafter⟩
    refine ⟨after.reverse, before.reverse, by simp, fun p hp => ?_⟩
    exact bne_iff_ne.mpr (hafter p (List.mem_reverse.mp hp)).symm

theorem lastValue?_eq_none_iff {pairs : List (String × String)} {name : String} :
    lastValue? pairs name = none ↔ ∀ p ∈ pairs, p.1 ≠ name := by
  rw [lastValue?, List.lookup_eq_none_iff]
  simp only [List.mem_reverse, bne_iff_ne, ne_comm]

namespace Context

theorem cookies_addPart (c : Context) (p : Multipart.Part) : (c.addPart p).cookies = c.cookies := by
  rw [addPart]
  split <;> rfl

theorem cookies_foldl_addPart (c : Context) (parts : List Multipart.Part) :
    (parts.foldl addPart c).cookies = c.cookies := by
  induction parts generalizing c with
  | nil => rfl
  | cons p parts ih => rw [List.foldl_cons, ih, cookies_addPart]

/-- The cookies of a request are those of its header fields, whatever its body is. -/
theorem cookies_ofRequest {limit : Nat} {path : List (String × String)} {r : Request} {c : Context}
    (h : ofRequest limit path r = .ok c) :
    c.cookies = readCookies (HeaderField.texts r.headers "cookie") := by
  unfold ofRequest at h
  dsimp only at h
  split at h
  · cases h
  split at h
  · split at h
    · cases h
      exact cookies_foldl_addPart _ _
    · cases h
  split at h
  · cases h
    rfl
  · cases h
    rfl

/-- A cookie of a request has the value of the last pair with its name, in whatever header fields the
pairs are sent, with whatever spaces around them and whether their values are in quotes or not; it has none
when there is no such pair. -/
theorem cookie_written {fields : List (List WrittenCookie)} {cookies : List (String × String)}
    (hcookies : fields.flatten.map WrittenCookie.pair = cookies)
    (hlegal : ∀ field ∈ fields, ∀ w ∈ field, w.IsLegal) {r : Request}
    (hheaders : HeaderField.values r.headers "cookie" =
      fields.map fun field => HeaderField.octets (cookieField field))
    {limit : Nat} {path : List (String × String)} {c : Context}
    (hread : ofRequest limit path r = .ok c) (name : String) :
    (∀ value, lastValue? c.cookies name = some value ↔
      ∃ before after, cookies = before ++ (name, value) :: after ∧ ∀ p ∈ after, p.1 ≠ name) ∧
    (lastValue? c.cookies name = none ↔ ∀ p ∈ cookies, p.1 ≠ name) := by
  have htexts : HeaderField.texts r.headers "cookie" = fields.map cookieField := by
    rw [HeaderField.texts, hheaders, List.filterMap_map, ← List.filterMap_eq_map]
    exact List.filterMap_congr fun field hfield =>
      HeaderField.textOf?_octets (visible_cookieField (hlegal field hfield))
  have hall : c.cookies = cookies := by
    rw [cookies_ofRequest hread, htexts, readCookies_written hlegal, hcookies]
  rw [hall]
  exact ⟨fun value => lastValue?_eq_some_iff, lastValue?_eq_none_iff⟩

/-- Two fields of cookies, in which the session is sent twice. -/
def sessionFields : List (List WrittenCookie) :=
  [[{ name := "sid", value := "a" }, { name := "theme", value := "k=v", before := 1, quoted := true }],
    [{ name := "sid", value := "", before := 2, after := 1, quoted := true }]]

/-- A request with these fields. -/
def sessionRequest : Request where
  method := "GET"
  target := default
  headers :=
    [⟨"Cookie", HeaderField.octets "sid=a; theme=\"k=v\""⟩, ⟨"Host", HeaderField.octets "localhost"⟩,
      ⟨"cookie", HeaderField.octets "  sid=\"\" "⟩]
  body := .empty

theorem cookie_written_session : ∃ c, ofRequest defaultLimit [] sessionRequest = .ok c ∧
    lastValue? c.cookies "sid" = some "" ∧ lastValue? c.cookies "theme" = some "k=v" ∧
    lastValue? c.cookies "lang" = none := by
  obtain ⟨c, hread⟩ := exists_ok_of_toBool
    (x := ofRequest defaultLimit [] sessionRequest) (by decide +kernel)
  have hlegal : ∀ field ∈ sessionFields, ∀ w ∈ field, w.IsLegal := by decide
  have hwritten := cookie_written rfl hlegal (by decide) hread
  refine ⟨c, hread, ?_, ?_, ?_⟩
  · refine ((hwritten "sid").1 "").mpr ⟨[("sid", "a"), ("theme", "k=v")], [], rfl, ?_⟩
    exact fun p hp => absurd hp List.not_mem_nil
  · refine ((hwritten "theme").1 "k=v").mpr ⟨[("sid", "a")], [("sid", "")], rfl, ?_⟩
    decide
  · refine (hwritten "lang").2.mpr ?_
    decide

end Context

end RouteWorks
