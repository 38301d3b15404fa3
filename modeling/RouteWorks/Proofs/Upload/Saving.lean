import Mathlib.Data.List.Nodup
import Mathlib.Data.List.Perm.Subperm
import RouteWorks.Proofs.Fallible
import RouteWorks.Proofs.FileSystem.Change
import RouteWorks.Proofs.Upload.Name

/-!
# Uploaded files in a directory

A file that is not to replace another is stored under the first of its candidates that leads to nothing.
The candidates with a number are distinct names, so one of them is free whatever is in the directory
(`Ready.not_takenBefore`); the search ends there unless it comes to a name that is too long for a file
(`Ready.save_cases`).  One file after another, all go to paths of their own and nothing else changes
(`saveAll_stores`).
-/

namespace RouteWorks.UploadedFile

open Location (IsPart)

variable {fs fs' made : FileSystem} {cwd place : Place} {dir name : String} {f : UploadedFile}

/-! ## Candidates -/

section Candidates

/-- The candidates before the `n`-th all lead to something. -/
def TakenBefore (fs : FileSystem) (cwd : Place) (dir name : String) (n : Nat) : Prop :=
  ∀ k < n, fs.contains cwd (FilePath.append dir (candidate name k)) = true

/-- All candidates of a file are taken up to one that is too long for the name of a file. -/
def RunsOut (fs : FileSystem) (cwd : Place) (dir : String) (f : UploadedFile) : Prop :=
  ∃ n, 255 < (candidate (storedName f.fileName) n).utf8ByteSize ∧
    TakenBefore fs cwd dir (storedName f.fileName) n

theorem TakenBefore.mono {n : Nat} (h : TakenBefore fs cwd dir name n) (hlater : fs.Retains fs') :
    TakenBefore fs' cwd dir name n :=
  fun k hk => hlater.contains (h k hk)

theorem TakenBefore.succ {n : Nat} (h : TakenBefore fs cwd dir name n)
    (hn : fs.contains cwd (FilePath.append dir (candidate name n)) = true) :
    TakenBefore fs cwd dir name (n + 1) := by
  intro k hk
  rcases Nat.lt_succ_iff_lt_or_eq.mp hk with hk | rfl
  · exact h k hk
  · exact hn

/-- Names with different numbers are different. -/
theorem candidate_succ_inj {m n : Nat} (h : candidate name (m + 1) = candidate name (n + 1)) :
    m = n := by
  have hchars := congrArg String.toList h
  simp only [candidate, String.toList_ofList, List.append_assoc, List.append_cancel_left_eq,
    List.cons_append, List.cons.injEq, true_and, List.append_cancel_right_eq] at hchars
  rw [String.toList_inj, Nat.toString_eq_ofList_toDigits, Nat.toString_eq_ofList_toDigits,
    String.ofList_inj] at hchars
  have hnumber := congrArg (fun ds => Nat.ofDigitChars 10 ds 0) hchars
  simp only [Nat.ofDigitChars_toDigits (by decide : 1 < 10) (le_refl 10)] at hnumber
  omega

/-- A candidate is the name of a child of the directory, but for a stored name of one or two dots. -/
theorem isPart_or_dots (h : IsStorable name) (n : Nat) :
    IsPart (candidate name n) ∨ (n = 0 ∧ (name = "." ∨ name = "..")) := by
  cases n with
  | succ n => exact Or.inl (isPart_candidate_succ h n)
  | zero =>
      by_cases hdots : name = "." ∨ name = ".."
      · exact Or.inr ⟨rfl, hdots⟩
      · obtain ⟨hdot, hdots⟩ := not_or.mp hdots
        exact Or.inl ⟨h.ne_empty, hdot, hdots, fun hslash => (h.no_separator _ hslash).1 rfl,
          fun hback => (h.no_separator _ hback).2 rfl⟩

/-- A candidate has no control characters, so only its length can be wrong. -/
theorem isNameAllowed_candidate (h : IsStorable name) (n : Nat) :
    FileSystem.isNameAllowed (candidate name n) = true ↔ (candidate name n).utf8ByteSize ≤ 255 := by
  have hnul : '\x00' ∉ name.toList := fun hmem => absurd (h.no_control _ hmem) (by decide)
  have hcandidate : '\x00' ∉ (candidate name n).toList := by
    cases n with
    | zero => exact hnul
    | succ n =>
        intro hmem
        rcases mem_candidate_succ hmem with hname | hmark | hdigit
        · exact hnul hname
        · exact absurd hmark (by decide)
        · exact absurd hdigit (by decide)
  simp [FileSystem.isNameAllowed, hcandidate]

/-- The search for a free name: it comes to the first candidate that is free, or to one that is too long
before, or all the candidates that it tries are taken. -/
theorem freeName?_cases (h : IsStorable name) (fuel : Nat) {n : Nat}
    (hbefore : TakenBefore fs cwd dir name n) :
    (∃ m, freeName? fs cwd dir name fuel n = some (candidate name m) ∧
        (candidate name m).utf8ByteSize ≤ 255 ∧
        fs.contains cwd (FilePath.append dir (candidate name m)) = false ∧
        TakenBefore fs cwd dir name m) ∨
      (∃ m, freeName? fs cwd dir name fuel n = none ∧ 255 < (candidate name m).utf8ByteSize ∧
        TakenBefore fs cwd dir name m) ∨
      TakenBefore fs cwd dir name (n + fuel) := by
  induction fuel generalizing n with
  | zero => exact Or.inr (Or.inr hbefore)
  | succ fuel ih =>
      rw [freeName?]
      cases hallowed : FileSystem.isNameAllowed (candidate name n) with
      | false =>
          refine Or.inr (Or.inl ⟨n, rfl, ?_, hbefore⟩)
          by_contra hshort
          rw [(isNameAllowed_candidate h n).mpr (by omega)] at hallowed
          cases hallowed
      | true =>
          cases htaken : fs.contains cwd (FilePath.append dir (candidate name n)) with
          | false =>
              exact Or.inl ⟨n, by simp, (isNameAllowed_candidate h n).mp hallowed, htaken,
                hbefore⟩
          | true =>
              have hnext := ih (hbefore.succ htaken)
              simpa [htaken, Nat.add_assoc, Nat.add_comm 1 fuel] using hnext

end Candidates

/-! ## A directory that is there -/

theorem append_ne_empty (dir : String) (hname : name ≠ "") : FilePath.append dir name ≠ "" := by
  unfold FilePath.append
  split
  · exact hname
  split
  · exact hname
  split <;> simp [String.append_eq_empty_iff, hname]

/-- The last part of the path of a name in a directory is the name. -/
theorem fileName?_append (dir : String) (hname : IsPart name) :
    FilePath.fileName? (FilePath.append dir name) = some name := by
  obtain ⟨front, hparts, -⟩ := FileSystem.parts_append dir hname.no_slash
  have hlast : (FilePath.splitParts (FilePath.append dir name)).getLast? = some name := by
    have hsplit : Text.split (· == '/') (FilePath.append dir name) = front ++ [name] := hparts
    have hkept : ∀ front : List String, (front ++ [name]).filter (fun s => s ≠ "" && s ≠ ".") =
        front.filter (fun s => s ≠ "" && s ≠ ".") ++ [name] := by
      simp [hname.ne_empty, hname.ne_dot]
    rw [FilePath.splitParts, hsplit]
    cases front with
    | nil =>
        split
        · rename_i hdot
          exact absurd (List.cons.inj hdot).1 hname.ne_dot
        · rw [hkept, List.getLast?_concat]
    | cons part front =>
        split
        · rename_i hdot
          obtain ⟨-, rfl⟩ := List.cons.inj hdot
          change ("." :: (front ++ [name]).filter _).getLast? = some name
          rw [hkept, ← List.cons_append, List.getLast?_concat]
        · rw [hkept, List.getLast?_concat]
  rw [FilePath.fileName?, hlast]
  split
  · rename_i hdots
    exact absurd (Option.some.inj hdots) hname.ne_dots
  · rename_i hdot
    exact absurd (Option.some.inj hdot) hname.ne_dot
  · rfl

/-- A path leads to a directory, and what is in the file system is in directories. -/
structure Ready (fs : FileSystem) (cwd : Place) (dir : String) (place : Place) : Prop where
  tree : fs.IsTree
  leads : fs.locate? cwd dir = some place
  directory : fs.isDirectory place = true

namespace Ready

theorem createDirectory (h : Ready fs cwd dir place) : fs.createDirectory cwd dir = (fs, true) :=
  FileSystem.createDirectory_of_leads h.leads h.directory

theorem locate? (h : Ready fs cwd dir place) (hname : IsPart name)
    (hallowed : FileSystem.isNameAllowed name = true) :
    fs.locate? cwd (FilePath.append dir name) = some (place ++ [name]) := by
  rw [FileSystem.locate?_append fs cwd dir hname, h.leads]
  simp [h.directory, hallowed]

theorem contains (h : Ready fs cwd dir place) (hname : IsPart name)
    (hallowed : FileSystem.isNameAllowed name = true) :
    fs.contains cwd (FilePath.append dir name) = (fs.get? (place ++ [name])).isSome := by
  rw [Bool.eq_iff_iff, FileSystem.contains_iff, h.locate? hname hallowed]
  simp [append_ne_empty dir hname.ne_empty]

theorem isSome_of_contains (h : Ready fs cwd dir place) (hname : IsPart name)
    (htaken : fs.contains cwd (FilePath.append dir name) = true) :
    (fs.get? (place ++ [name])).isSome = true := by
  cases hallowed : FileSystem.isNameAllowed name with
  | true => rwa [← h.contains hname hallowed]
  | false =>
      obtain ⟨-, p, hlocate, -⟩ := FileSystem.contains_iff.mp htaken
      rw [FileSystem.locate?_append fs cwd dir hname, h.leads] at hlocate
      simp [hallowed] at hlocate

/-- One or two dots lead to a directory that is there. -/
theorem contains_dots (h : Ready fs cwd dir place) (hdots : name = "." ∨ name = "..") :
    fs.contains cwd (FilePath.append dir name) = true := by
  have hslash : '/' ∉ name.toList := by
    rcases hdots with rfl | rfl <;> decide
  have hne : name ≠ "" := by
    rcases hdots with rfl | rfl <;> decide
  refine FileSystem.contains_iff.mpr ⟨append_ne_empty dir hne, ?_⟩
  rw [FileSystem.locate?_append_eq_bind fs cwd dir hslash, h.leads, Option.bind_some]
  have hplace := FileSystem.isDirectory_iff.mp h.directory
  rcases hdots with rfl | rfl
  · refine ⟨place, by rw [FileSystem.walk_dot fs place (Or.inl rfl), if_pos h.directory], ?_⟩
    rw [hplace]
    rfl
  · refine ⟨FileSystem.above place, by rw [FileSystem.walk_dots, if_pos h.directory], ?_⟩
    have habove := h.tree place (by rw [hplace]; rfl)
    rw [FileSystem.isDirectory_iff.mp habove]
    rfl

/-- There are fewer entries than candidates, even if the first candidate is no name of an entry. -/
theorem not_takenBefore (h : Ready fs cwd dir place) (hname : IsStorable name) :
    ¬ TakenBefore fs cwd dir name (fs.entries.length + 2) := by
  intro htaken
  let child (i : Nat) : Place := place ++ [candidate name (i + 1)]
  have hinj : Function.Injective child := by
    intro i j hij
    have hnames : candidate name (i + 1) = candidate name (j + 1) := by simpa [child] using hij
    exact candidate_succ_inj hnames
  have hsubset : (List.range (fs.entries.length + 1)).map child ⊆ fs.entries.map Prod.fst := by
    intro p hp
    obtain ⟨i, hi, rfl⟩ := List.mem_map.mp hp
    have hi : i + 1 < fs.entries.length + 2 := by
      have := List.mem_range.mp hi
      omega
    have hthere := h.isSome_of_contains (isPart_candidate_succ hname i) (htaken (i + 1) hi)
    obtain ⟨e, he⟩ := Option.isSome_iff_exists.mp hthere
    rw [FileSystem.get?, if_neg (FileSystem.append_ne_root _ _)] at he
    obtain ⟨before, after, hentries, -⟩ := List.lookup_eq_some_iff.mp he
    rw [hentries]
    simp [child]
  have hlength := ((List.nodup_range.map hinj).subperm hsubset).length_le
  rw [List.length_map, List.length_map, List.length_range] at hlength
  omega

/-- How one file is stored in the directory: under the first of its candidates that leads to nothing. -/
structure Saves (fs : FileSystem) (cwd : Place) (dir : String) (place : Place) (f : UploadedFile)
    (name : String) (d : FileData) (fs' : FileSystem) : Prop where
  first : ∃ n, name = candidate (storedName f.fileName) n ∧
    TakenBefore fs cwd dir (storedName f.fileName) n
  part : IsPart name
  new : fs.contains cwd (FilePath.append dir name) = false
  leads : fs.locate? cwd (FilePath.append dir name) = some (place ++ [name])
  octets : d.octets = f.octets
  puts : FileSystem.Puts fs (place ++ [name]) d fs'

/-- What is said about a file that is stored under a name. -/
def savedFile (dir : String) (f : UploadedFile) (name : String) : SavedFile where
  url := "/" ++ (FilePath.fileName? dir).getD "" ++ "/" ++ name
  path := FilePath.append dir name
  size := f.octets.size

theorem save_cases (h : Ready fs cwd dir place) (f : UploadedFile) :
    (∃ name d fs', Saves fs cwd dir place f name d fs' ∧
        save fs cwd dir false f = (some (savedFile dir f name), fs')) ∨
      (RunsOut fs cwd dir f ∧ save fs cwd dir false f = (none, fs)) := by
  have hname := isStorable_storedName f.fileName
  have hstart : TakenBefore fs cwd dir (storedName f.fileName) 0 := fun k hk => absurd hk (by omega)
  rcases freeName?_cases hname (fs.entries.length + 2) hstart with
    ⟨n, hfree, hshort, hnew, htaken⟩ | ⟨n, hnone, hlong, htaken⟩ | hall
  · left
    -- a name of dots is never free, so the free one is that of a child
    have hpart : IsPart (candidate (storedName f.fileName) n) := by
      rcases isPart_or_dots hname n with hpart | ⟨rfl, hdots⟩
      · exact hpart
      · rw [candidate, h.contains_dots hdots] at hnew
        cases hnew
    have hallowed := (isNameAllowed_candidate hname n).mpr hshort
    have hlocate := h.locate? hpart hallowed
    have hnone : fs.get? (place ++ [candidate (storedName f.fileName) n]) = none := by
      simpa [h.contains hpart hallowed] using hnew
    obtain ⟨d, fs', hwrite, hoctets, hputs⟩ := FileSystem.exists_write? f.octets hlocate
      (Or.inl ⟨hnone, by rw [FileSystem.above_append]; exact h.directory⟩)
    refine ⟨_, d, fs', ⟨⟨n, rfl, htaken⟩, hpart, hnew, hlocate, hoctets, hputs⟩, ?_⟩
    simp [save, h.createDirectory, saveInto, chooseName?, hfree, hwrite, savedFile]
  · right
    refine ⟨⟨n, hlong, htaken⟩, ?_⟩
    simp [save, h.createDirectory, saveInto, chooseName?, hnone]
  · rw [Nat.zero_add] at hall
    exact absurd hall (h.not_takenBefore hname)

/-- A file beside the others leaves the directory ready for more. -/
theorem puts {p : Place} {d : FileData} (h : Ready fs cwd dir place)
    (hputs : FileSystem.Puts fs p d fs') : Ready fs' cwd dir place where
  tree := hputs.isTree h.tree
  leads := hputs.retains.locate? h.leads
  directory := hputs.retains.isDirectory h.directory

end Ready

/-! ## One file after another -/

/-- How a file is stored in the directory at a place. -/
structure StoredAs (fs' : FileSystem) (cwd : Place) (dir : String) (place : Place) (f : UploadedFile)
    (s : SavedFile) (name : String) : Prop where
  /-- The name is the first of the candidates that was not taken. -/
  first : ∃ n, name = candidate (storedName f.fileName) n ∧
    TakenBefore fs' cwd dir (storedName f.fileName) n
  path : s.path = FilePath.append dir name
  last : FilePath.fileName? s.path = some name
  url : s.url = "/" ++ (FilePath.fileName? dir).getD "" ++ "/" ++ name
  size : s.size = f.octets.size
  leads : fs'.locate? cwd s.path = some (place ++ [name])
  octets : ∃ d, fs'.get? (place ++ [name]) = some (.file d) ∧ d.octets = f.octets

/-- What is there after files have been stored: what was there before, and the files at new paths. -/
structure Stored (fs fs' : FileSystem) (cwd : Place) (dir : String) (place : Place)
    (files : List UploadedFile) (saved : List SavedFile) : Prop where
  each : List.Forall₂ (fun f s => ∃ name, StoredAs fs' cwd dir place f s name) files saved
  distinct : (saved.map (·.path)).Nodup
  new : ∀ s ∈ saved, fs.contains cwd s.path = false
  others : ∀ p, (∀ s ∈ saved, fs'.locate? cwd s.path ≠ some p) → fs'.get? p = fs.get? p
  retains : fs.Retains fs'

theorem Stored.nil (fs : FileSystem) (cwd : Place) (dir : String) (place : Place) :
    Stored fs fs cwd dir place [] [] where
  each := .nil
  distinct := List.nodup_nil
  new := by simp
  others := fun _ _ => rfl
  retains := .refl fs

/-- The files after the first go to other paths, because the first is there by then. -/
theorem Stored.cons {fs₁ : FileSystem} {d : FileData} {files : List UploadedFile}
    {saved : List SavedFile} (hfirst : Ready.Saves fs cwd dir place f name d fs₁)
    (hrest : Stored fs₁ fs' cwd dir place files saved) :
    Stored fs fs' cwd dir place (f :: files) (Ready.savedFile dir f name :: saved) := by
  obtain ⟨⟨n, hname, htaken⟩, hpart, hnew, hlocate, hoctets, hputs⟩ := hfirst
  have hretains := hputs.retains.trans hrest.retains
  have hthere : fs₁.contains cwd (FilePath.append dir name) = true :=
    FileSystem.contains_iff.mpr ⟨append_ne_empty dir hpart.ne_empty, _,
      hputs.retains.locate? hlocate, by rw [hputs.get?_self]; rfl⟩
  have hother : ∀ t ∈ saved, t.path ≠ FilePath.append dir name := by
    intro t ht hpath
    have hfree := hrest.new t ht
    rw [hpath, hthere] at hfree
    cases hfree
  have hkept : fs'.get? (place ++ [name]) = some (.file d) := by
    rw [hrest.others, hputs.get?_self]
    intro t ht hleads
    -- a later file that is stored in this place has its path
    obtain ⟨g, -, other, hstored⟩ := exists_left_of_forall₂ hrest.each ht
    rw [hstored.leads, Option.some.injEq, List.append_cancel_left_eq, List.cons.injEq] at hleads
    exact hother t ht (by rw [hstored.path, hleads.1])
  refine ⟨.cons ⟨name, ?_⟩ hrest.each, ?_, ?_, ?_, hretains⟩
  · exact ⟨⟨n, hname, htaken.mono hretains⟩, rfl, fileName?_append dir hpart, rfl, rfl,
      hretains.locate? hlocate, d, hkept, hoctets⟩
  · rw [List.map_cons, List.nodup_cons]
    refine ⟨?_, hrest.distinct⟩
    intro hmem
    obtain ⟨t, ht, hpath⟩ := List.mem_map.mp hmem
    exact hother t ht hpath
  · intro t ht
    rcases List.mem_cons.mp ht with rfl | ht
    · exact hnew
    · by_contra htaken
      have hlater := hputs.retains.contains (Bool.not_eq_false _ ▸ htaken)
      rw [hrest.new t ht] at hlater
      cases hlater
  · intro p hp
    obtain ⟨hself, hlater⟩ := List.forall_mem_cons.mp hp
    rw [hrest.others p hlater, hputs.get?_of_ne]
    rintro rfl
    exact hself (hretains.locate? hlocate)

theorem Ready.saveAll_cases (h : Ready fs cwd dir place) (files : List UploadedFile) :
    (∃ saved fs', saveAll fs cwd dir false files = (some saved, fs') ∧
        Stored fs fs' cwd dir place files saved) ∨
      ∃ fs', saveAll fs cwd dir false files = (none, fs') ∧ ∃ f ∈ files, RunsOut fs' cwd dir f := by
  induction files generalizing fs with
  | nil => exact Or.inl ⟨[], fs, rfl, .nil fs cwd dir place⟩
  | cons f files ih =>
      rcases h.save_cases f with
        ⟨name, d, fs₁, hsaves, hsave⟩ | ⟨hout, hsave⟩
      · rcases ih (h.puts hsaves.puts) with ⟨saved, fs', hrest, hstored⟩ | ⟨fs', hrest, g, hg, hout⟩
        · exact Or.inl ⟨_, fs', by simp [saveAll, hsave, hrest],
            .cons hsaves hstored⟩
        · exact Or.inr ⟨fs', by simp [saveAll, hsave, hrest], g, List.mem_cons_of_mem f hg, hout⟩
      · exact Or.inr ⟨fs, by simp [saveAll, hsave], f, List.mem_cons_self, hout⟩

/-- The first file makes the directory. -/
theorem saveAll_of_createDirectory (hmade : fs.createDirectory cwd dir = (made, true))
    {files : List UploadedFile} (hne : files ≠ []) :
    saveAll fs cwd dir false files = saveAll made cwd dir false files := by
  obtain ⟨f, files, rfl⟩ := List.exists_cons_of_ne_nil hne
  have hagain := FileSystem.createDirectory_again hmade (.refl made)
  have hsave : save fs cwd dir false f = save made cwd dir false f := by
    rw [save, save, hmade, hagain]
  rw [saveAll, saveAll, hsave]

/-- Files that are stored one after another without replacing any: the directory is made if it is not
there, and then either each file is stored, in order, at a path of its own that led to nothing before, and
nothing else is changed; or the names of a file run out. -/
theorem saveAll_stores (hfs : fs.IsTree) (hcwd : fs.isDirectory cwd = true)
    (hmade : fs.createDirectory cwd dir = (made, true)) (files : List UploadedFile) :
    fs.AddsDirectories made ∧
    ((∃ p, fs.locate? cwd dir = some p ∧ fs.isDirectory p = true) → made = fs) ∧
    ∃ place, made.locate? cwd dir = some place ∧ made.isDirectory place = true ∧
      ((∃ saved fs', saveAll fs cwd dir false files = (some saved, fs') ∧
          Stored (if files = [] then fs else made) fs' cwd dir place files saved) ∨
        ∃ fs', saveAll fs cwd dir false files = (none, fs') ∧ ∃ f ∈ files, RunsOut fs' cwd dir f) := by
  obtain ⟨place, hleads, hplace⟩ := FileSystem.createDirectory_leads hmade hcwd
  refine ⟨FileSystem.createDirectory_adds hmade, ?_, place, hleads, hplace, ?_⟩
  · rintro ⟨p, hp, hdirectory⟩
    rw [FileSystem.createDirectory_of_leads hp hdirectory, Prod.mk.injEq] at hmade
    exact hmade.1.symm
  · by_cases hfiles : files = []
    · subst hfiles
      exact Or.inl ⟨[], fs, rfl, .nil fs cwd dir place⟩
    · rw [saveAll_of_createDirectory hmade hfiles, if_neg hfiles]
      exact Ready.saveAll_cases ⟨FileSystem.createDirectory_isTree hmade hfs, hleads, hplace⟩ files

/-- Two files of one name, and one whose name is the way up, sent to a directory that has a file of the
name. -/
def sent : List UploadedFile :=
  [{ fileName := "a.txt" }, { fileName := " .." }, { fileName := "a.txt" }]

/-- The upload directory of a server with a file in it. -/
def busyServer : FileSystem :=
  server.insert ["srv", "upload", "a.txt"]
    (.file { octets := .empty, modified := .change 0 })

theorem saveAll_stores_sent :
    busyServer.IsTree ∧ busyServer.isDirectory [] = true ∧
      busyServer.createDirectory [] "/srv/upload" = (busyServer, true) ∧
      ∃ saved fs', saveAll busyServer [] "/srv/upload" false sent = (some saved, fs') ∧
        Stored busyServer fs' [] "/srv/upload" ["srv", "upload"] sent saved ∧
        saved.map (·.path) =
          ["/srv/upload/a_1.txt", "/srv/upload/._1.", "/srv/upload/a_2.txt"] := by
  have htree : busyServer.IsTree := FileSystem.isTree_of_entries (by decide)
  have hleads : busyServer.locate? [] "/srv/upload" = some ["srv", "upload"] := by decide
  have hmade : busyServer.createDirectory [] "/srv/upload" = (busyServer, true) :=
    FileSystem.createDirectory_of_leads hleads (by decide)
  have hpaths : (saveAll busyServer [] "/srv/upload" false sent).1.map (·.map (·.path)) =
      some ["/srv/upload/a_1.txt", "/srv/upload/._1.", "/srv/upload/a_2.txt"] := by decide +kernel
  obtain ⟨-, -, place, hplace, -, hall⟩ := saveAll_stores htree (by decide) hmade sent
  obtain rfl : ["srv", "upload"] = place := Option.some.inj (hleads.symm.trans hplace)
  refine ⟨htree, by decide, hmade, ?_⟩
  rcases hall with ⟨saved, fs', hsaved, hstored⟩ | ⟨fs', hnone, -⟩
  · rw [hsaved] at hpaths
    exact ⟨saved, fs', hsaved, hstored, Option.some.inj hpaths⟩
  · rw [hnone] at hpaths
    cases hpaths

end RouteWorks.UploadedFile
