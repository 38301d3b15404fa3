import Mathlib.Data.List.Forall2
import Mathlib.Data.List.Perm.Basic

/-!
# Runs that can fail

The passes of a generator run over lists and stop at the first fault.  `mapM_cases` and `foldlM_cases` say
where such a run stops, the other lemmas what a run that has not stopped says of its items.  `Agrees`
compares two runs that stop at the same faults.
-/

namespace RouteWorks

variable {ε α β γ : Type}

/-! ## Single runs -/

theorem bind_eq_ok {x : Except ε α} {f : α → Except ε β} {b : β} (h : x >>= f = .ok b) :
    ∃ a, x = .ok a ∧ f a = .ok b := by
  cases x with
  | error e => cases h
  | ok a => exact ⟨a, rfl, h⟩

theorem bind_eq_ok_iff {x : Except ε α} {f : α → Except ε β} {b : β} :
    x >>= f = .ok b ↔ ∃ a, x = .ok a ∧ f a = .ok b := by
  constructor
  · exact bind_eq_ok
  · rintro ⟨a, rfl, h⟩
    exact h

theorem pure_eq_ok_iff {a b : α} : (pure a : Except ε α) = .ok b ↔ a = b := by
  constructor
  · exact Except.ok.inj
  · rintro rfl
    rfl

theorem check_eq_ok_iff {check : Except ε Unit} {x : Except ε β} {b : β} :
    (check >>= fun _ => x) = .ok b ↔ check = .ok () ∧ x = .ok b := by
  rw [bind_eq_ok_iff]
  constructor
  · rintro ⟨u, hcheck, hx⟩
    exact ⟨hcheck, hx⟩
  · rintro ⟨hcheck, hx⟩
    exact ⟨(), hcheck, hx⟩

theorem mapError_eq_ok_iff {δ : Type} {f : ε → δ} {x : Except ε α} {a : α} :
    x.mapError f = .ok a ↔ x = .ok a := by
  cases x with
  | error e => simp [Except.mapError]
  | ok b => simp [Except.mapError]

theorem map_eq_ok_iff {f : α → β} {x : Except ε α} {b : β} :
    x.map f = .ok b ↔ ∃ a, x = .ok a ∧ f a = b := by
  cases x with
  | error e => simp [Except.map]
  | ok a => simp [Except.map]

theorem bind_eq_error {x : Except ε α} {f : α → Except ε β} {e : ε} (h : x >>= f = .error e) :
    x = .error e ∨ ∃ a, x = .ok a ∧ f a = .error e := by
  cases x with
  | error e' =>
      cases h
      exact Or.inl rfl
  | ok a => exact Or.inr ⟨a, rfl, h⟩

theorem mapError_eq_error {δ : Type} {f : ε → δ} {x : Except ε α} {d : δ}
    (h : x.mapError f = .error d) : ∃ e, x = .error e ∧ f e = d := by
  cases x with
  | error e => exact ⟨e, rfl, Except.error.inj h⟩
  | ok a => cases h

theorem mapError_bind {δ : Type} (g : ε → δ) (x : Except ε α) (f : α → Except ε β) :
    (x >>= f).mapError g = x.mapError g >>= fun a => (f a).mapError g := by
  cases x <;> rfl

theorem map_eq_error_iff {f : α → β} {x : Except ε α} {e : ε} :
    x.map f = .error e ↔ x = .error e := by
  cases x with
  | error e' => simp [Except.map]
  | ok a => simp [Except.map]

theorem not_exists_ok (e : ε) : ¬ ∃ y : β, Except.error e = .ok y := by
  rintro ⟨y, h⟩
  cases h

theorem exists_ok_of_toBool {x : Except ε α} (h : x.toBool = true) : ∃ a, x = .ok a := by
  cases x with
  | error e => cases h
  | ok a => exact ⟨a, rfl⟩

theorem exists_ok_of_toOption {x : Except ε α} {f : α → β} {b : β}
    (h : x.toOption.map f = some b) : ∃ a, x = .ok a ∧ f a = b := by
  cases x with
  | error e => cases h
  | ok a => exact ⟨a, rfl, Option.some.inj h⟩

/-! ## Where a run over a list stops -/

/-- Mapping a list fails with the fault of the first item that fails. -/
theorem mapM_cases (f : α → Except ε β) (xs : List α) :
    ((∀ x ∈ xs, ∃ y, f x = .ok y) ∧ ∃ ys, xs.mapM f = .ok ys) ∨
      ∃ before x after e, xs = before ++ x :: after ∧ (∀ y ∈ before, ∃ z, f y = .ok z) ∧
        f x = .error e ∧ xs.mapM f = .error e := by
  induction xs with
  | nil => exact Or.inl ⟨fun _ hx => absurd hx List.not_mem_nil, [], rfl⟩
  | cons x xs ih =>
      rw [List.mapM_cons]
      cases hx : f x with
      | error e => exact Or.inr ⟨[], x, xs, e, rfl, fun _ hy => absurd hy List.not_mem_nil, hx, rfl⟩
      | ok y =>
          rcases ih with ⟨hall, ys, hys⟩ | ⟨before, z, after, e, rfl, hbefore, hz, hrun⟩
          · refine Or.inl ⟨List.forall_mem_cons.mpr ⟨⟨y, hx⟩, hall⟩, y :: ys, ?_⟩
            rw [hys]
            rfl
          · refine Or.inr ⟨x :: before, z, after, e, rfl, ?_, hz, ?_⟩
            · exact List.forall_mem_cons.mpr ⟨⟨y, hx⟩, hbefore⟩
            · rw [hrun]
              rfl

/-- A run over a list whose steps fail at bad items, and only there: it fails at the first one. -/
theorem foldlM_cases (good : α → Prop) {step : β → α → Except ε β} {fault : α → ε}
    (hgood : ∀ b x, good x → ∃ b', step b x = .ok b')
    (hbad : ∀ b x, ¬ good x → step b x = .error (fault x)) (xs : List α) (b : β) :
    ((∀ x ∈ xs, good x) ∧ ∃ b', xs.foldlM step b = .ok b') ∨
      ∃ before x after, xs = before ++ x :: after ∧ (∀ y ∈ before, good y) ∧ ¬ good x ∧
        xs.foldlM step b = .error (fault x) := by
  induction xs generalizing b with
  | nil => exact Or.inl ⟨fun _ hx => absurd hx List.not_mem_nil, b, rfl⟩
  | cons x xs ih =>
      by_cases hx : good x
      · obtain ⟨b', hb'⟩ := hgood b x hx
        rw [List.foldlM_cons, hb']
        rcases ih b' with ⟨hall, hrun⟩ | ⟨before, y, after, rfl, hbefore, hy, hrun⟩
        · exact Or.inl ⟨List.forall_mem_cons.mpr ⟨hx, hall⟩, hrun⟩
        · exact Or.inr ⟨x :: before, y, after, rfl, List.forall_mem_cons.mpr ⟨hx, hbefore⟩, hy, hrun⟩
      · refine Or.inr ⟨[], x, xs, rfl, fun _ hy => absurd hy List.not_mem_nil, hx, ?_⟩
        rw [List.foldlM_cons, hbad b x hx]
        rfl

/-- A check of a list passes when every item passes. -/
theorem forM_eq_ok_iff {check : α → Except ε Unit} {xs : List α} :
    xs.forM check = .ok () ↔ ∀ x ∈ xs, check x = .ok () := by
  induction xs with
  | nil => exact ⟨fun _ _ hx => absurd hx List.not_mem_nil, fun _ => rfl⟩
  | cons x xs ih =>
      rw [List.forall_mem_cons, ← ih]
      change (check x >>= fun _ => xs.forM check) = .ok () ↔ _
      cases check x with
      | error e =>
          constructor
          · intro h
            cases h
          · rintro ⟨h, -⟩
            cases h
      | ok u => exact ⟨fun h => ⟨rfl, h⟩, fun h => h.2⟩

/-- A check of a list fails with the fault of the first item that does not pass. -/
theorem forM_cases (check : α → Except ε Unit) (xs : List α) :
    ((∀ x ∈ xs, check x = .ok ()) ∧ xs.forM check = .ok ()) ∨
      ∃ before x after e, xs = before ++ x :: after ∧ (∀ y ∈ before, check y = .ok ()) ∧
        check x = .error e ∧ xs.forM check = .error e := by
  induction xs with
  | nil => exact Or.inl ⟨fun _ hx => absurd hx List.not_mem_nil, rfl⟩
  | cons x xs ih =>
      change ((∀ y ∈ x :: xs, _) ∧ (check x >>= fun _ => xs.forM check) = .ok ()) ∨
        ∃ before y after e, _ ∧ _ ∧ _ ∧ (check x >>= fun _ => xs.forM check) = .error e
      cases hx : check x with
      | error e => exact Or.inr ⟨[], x, xs, e, rfl, fun _ hy => absurd hy List.not_mem_nil, hx, rfl⟩
      | ok u =>
          rcases ih with ⟨hall, hrun⟩ | ⟨before, y, after, e, rfl, hbefore, hy, hrun⟩
          · exact Or.inl ⟨List.forall_mem_cons.mpr ⟨hx, hall⟩, hrun⟩
          · exact Or.inr ⟨x :: before, y, after, e, rfl, List.forall_mem_cons.mpr ⟨hx, hbefore⟩, hy, hrun⟩

/-- A check of a list fails with the fault of one of its items. -/
theorem forM_eq_error {check : α → Except ε Unit} {xs : List α} {e : ε}
    (h : xs.forM check = .error e) : ∃ x ∈ xs, check x = .error e := by
  rcases forM_cases check xs with ⟨-, hrun⟩ | ⟨before, x, after, e', rfl, -, hx, hrun⟩
  · rw [hrun] at h
    cases h
  · rw [hrun] at h
    cases h
    exact ⟨x, List.mem_append_right before List.mem_cons_self, hx⟩

/-! ## Runs that collect results -/

/-- A run that puts the result of each item at the end of a list, as long as the list keeps a property. -/
theorem foldlM_collect_iff {R : α → γ → Prop} {P : List γ → Prop} {g : List γ → β}
    {step : β → α → Except ε β} (hfront : ∀ ys zs, P (ys ++ zs) → P ys)
    (hstep : ∀ ys x b, P ys →
      (step (g ys) x = .ok b ↔ ∃ y, R x y ∧ P (ys ++ [y]) ∧ g (ys ++ [y]) = b))
    (xs : List α) (ys : List γ) (hys : P ys) (b : β) :
    xs.foldlM step (g ys) = .ok b ↔
      ∃ zs, List.Forall₂ R xs zs ∧ P (ys ++ zs) ∧ g (ys ++ zs) = b := by
  induction xs generalizing ys with
  | nil =>
      constructor
      · intro h
        exact ⟨[], .nil, by rwa [List.append_nil], by rw [List.append_nil]; exact Except.ok.inj h⟩
      · rintro ⟨zs, hzs, -, rfl⟩
        rw [List.forall₂_nil_left_iff.mp hzs, List.append_nil]
        rfl
  | cons x xs ih =>
      rw [List.foldlM_cons, bind_eq_ok_iff]
      constructor
      · rintro ⟨b', hb', hrun⟩
        obtain ⟨y, hy, hP, rfl⟩ := (hstep ys x b' hys).mp hb'
        obtain ⟨zs, hzs, hPzs, hb⟩ := (ih _ hP).mp hrun
        rw [List.append_assoc, List.singleton_append] at hPzs hb
        exact ⟨y :: zs, .cons hy hzs, hPzs, hb⟩
      · rintro ⟨_, hall, hP, hb⟩
        obtain ⟨y, zs, hy, hzs, rfl⟩ := List.forall₂_cons_left_iff.mp hall
        have hPy : P (ys ++ [y]) := hfront _ zs (by simpa using hP)
        refine ⟨g (ys ++ [y]), (hstep ys x _ hys).mpr ⟨y, hy, hPy, rfl⟩, (ih _ hPy).mpr ?_⟩
        exact ⟨zs, hzs, by simpa using hP, by simpa using hb⟩

/-- What each item has, the whole list has. -/
theorem exists_forall₂ {R : α → γ → Prop} {xs : List α} (h : ∀ x ∈ xs, ∃ y, R x y) :
    ∃ ys, List.Forall₂ R xs ys := by
  induction xs with
  | nil => exact ⟨[], .nil⟩
  | cons x xs ih =>
      obtain ⟨y, hy⟩ := h x List.mem_cons_self
      obtain ⟨ys, hys⟩ := ih fun z hz => h z (List.mem_cons_of_mem x hz)
      exact ⟨y :: ys, .cons hy hys⟩

theorem exists_right_of_forall₂ {R : α → γ → Prop} {xs : List α} {ys : List γ}
    (h : List.Forall₂ R xs ys) {x : α} (hx : x ∈ xs) : ∃ y ∈ ys, R x y := by
  induction h with
  | nil => cases hx
  | cons hxy _ ih =>
      rcases List.mem_cons.mp hx with rfl | hx
      · exact ⟨_, List.mem_cons_self, hxy⟩
      · obtain ⟨y, hy, hR⟩ := ih hx
        exact ⟨y, List.mem_cons_of_mem _ hy, hR⟩

theorem exists_left_of_forall₂ {R : α → γ → Prop} {xs : List α} {ys : List γ}
    (h : List.Forall₂ R xs ys) {y : γ} (hy : y ∈ ys) : ∃ x ∈ xs, R x y :=
  exists_right_of_forall₂ h.flip hy

/-! ## Runs that have not stopped -/

section Mapped

variable {f : α → Except ε β} {xs : List α} {ys : List β}

theorem exists_mapM_ok (h : ∀ x ∈ xs, ∃ y, f x = .ok y) : ∃ ys, xs.mapM f = .ok ys := by
  rcases mapM_cases f xs with ⟨-, hys⟩ | ⟨before, x, after, e, rfl, -, hx, -⟩
  · exact hys
  · obtain ⟨y, hy⟩ := h x (List.mem_append_right before List.mem_cons_self)
    rw [hx] at hy
    cases hy

/-- A list is mapped without failure when each of its items is. -/
theorem mapM_eq_ok_iff : xs.mapM f = .ok ys ↔ xs.map f = ys.map .ok := by
  induction xs generalizing ys with
  | nil =>
      constructor
      · intro h
        cases h
        rfl
      · intro h
        rw [List.map_eq_nil_iff.mp h.symm]
        rfl
  | cons x xs ih =>
      rw [List.mapM_cons]
      constructor
      · intro h
        obtain ⟨y, hy, h⟩ := bind_eq_ok h
        obtain ⟨rest, hrest, h⟩ := bind_eq_ok h
        cases h
        rw [List.map_cons, List.map_cons, hy, ih.mp hrest]
      · intro h
        cases ys with
        | nil => cases h
        | cons y ys =>
            rw [List.map_cons, List.map_cons, List.cons.injEq] at h
            rw [h.1, ih.mpr h.2]
            rfl

theorem mapM_eq_ok_iff_forall₂ : xs.mapM f = .ok ys ↔ List.Forall₂ (fun x y => f x = .ok y) xs ys := by
  rw [mapM_eq_ok_iff, ← List.forall₂_eq_eq_eq, List.forall₂_map_left_iff, List.forall₂_map_right_iff]

theorem mapM_eq_error {before after : List α} {x : α} {e : ε} (hbefore : ∀ y ∈ before, ∃ z, f y = .ok z)
    (hx : f x = .error e) : (before ++ x :: after).mapM f = .error e := by
  obtain ⟨zs, hzs⟩ := exists_mapM_ok hbefore
  rw [List.mapM_append, List.mapM_cons, hzs, hx]
  rfl

theorem mapM_singleton_ok {x : α} (h : [x].mapM f = .ok ys) : ∃ y, f x = .ok y ∧ ys = [y] := by
  rw [List.mapM_cons] at h
  obtain ⟨y, hy, h⟩ := bind_eq_ok h
  cases h
  exact ⟨y, hy, rfl⟩

/-- The results of a list are the successes of its items. -/
theorem mem_mapM_ok (h : xs.mapM f = .ok ys) {y : β} : y ∈ ys ↔ ∃ x ∈ xs, f x = .ok y := by
  have hinj : Function.Injective (Except.ok : β → Except ε β) := fun _ _ => Except.ok.inj
  rw [← List.mem_map_of_injective hinj, ← mapM_eq_ok_iff.mp h, List.mem_map]

theorem exists_ok_of_mapM_ok (h : xs.mapM f = .ok ys) {x : α} (hx : x ∈ xs) :
    ∃ y ∈ ys, f x = .ok y := by
  have hmem : f x ∈ ys.map Except.ok := by
    rw [← mapM_eq_ok_iff.mp h]
    exact List.mem_map_of_mem hx
  obtain ⟨y, hy, heq⟩ := List.mem_map.mp hmem
  exact ⟨y, hy, heq.symm⟩

/-- What follows from each success follows along the list. -/
theorem mapM_ok_map {g : α → Except ε γ} {k : β → γ}
    (h : ∀ x ∈ xs, ∀ y, f x = .ok y → g x = .ok (k y)) (hf : xs.mapM f = .ok ys) :
    xs.mapM g = .ok (ys.map k) := by
  induction xs generalizing ys with
  | nil =>
      cases hf
      rfl
  | cons x xs ih =>
      rw [List.mapM_cons] at hf
      obtain ⟨y, hy, hf⟩ := bind_eq_ok hf
      obtain ⟨rest, hrest, hf⟩ := bind_eq_ok hf
      cases hf
      rw [List.mapM_cons, h x List.mem_cons_self y hy,
        ih (fun z hz => h z (List.mem_cons_of_mem x hz)) hrest]
      rfl

/-- When the results in some order are all successes, the whole list succeeds. -/
theorem mapM_ok_of_perm (h : (ys.map Except.ok).Perm (xs.map f)) :
    ∃ zs, xs.mapM f = .ok zs ∧ ys.Perm zs := by
  have hok : ∀ x ∈ xs, ∃ z, f x = .ok z := by
    intro x hx
    obtain ⟨z, -, hz⟩ := List.mem_map.mp (h.mem_iff.mpr (List.mem_map_of_mem hx))
    exact ⟨z, hz.symm⟩
  obtain ⟨zs, hzs⟩ := exists_mapM_ok hok
  refine ⟨zs, hzs, ?_⟩
  rw [mapM_eq_ok_iff.mp hzs] at h
  exact (List.map_perm_map_iff fun _ _ he => Except.ok.inj he).mp h

end Mapped

/-! ## Runs that fail alike -/

/-- Two runs fail with the same fault, or they succeed with related results. -/
inductive Agrees (R : α → β → Prop) : Except ε α → Except ε β → Prop
  | error (e : ε) : Agrees R (.error e) (.error e)
  | ok {a : α} {b : β} (h : R a b) : Agrees R (.ok a) (.ok b)

namespace Agrees

variable {δ : Type} {R : α → β → Prop} {x : Except ε α} {y : Except ε β}

theorem refl (x : Except ε α) : Agrees Eq x x := by
  cases x with
  | error e => exact .error e
  | ok a => exact .ok rfl

theorem bind {S : γ → δ → Prop} {f : α → Except ε γ} {g : β → Except ε δ} (h : Agrees R x y)
    (hnext : ∀ a b, R a b → Agrees S (f a) (g b)) : Agrees S (x >>= f) (y >>= g) := by
  cases h with
  | error e => exact .error e
  | ok hab => exact hnext _ _ hab

theorem exists_ok (h : Agrees R x y) {b : β} (hy : y = .ok b) : ∃ a, x = .ok a ∧ R a b := by
  cases h with
  | error e => cases hy
  | ok hab =>
      cases hy
      exact ⟨_, rfl, hab⟩

theorem eq_error (h : Agrees R x y) {e : ε} (hy : y = .error e) : x = .error e := by
  cases h with
  | error e' => exact congrArg Except.error (Except.error.inj hy)
  | ok hab => cases hy

theorem exists_ok_right (h : Agrees R x y) {a : α} (hx : x = .ok a) : ∃ b, y = .ok b ∧ R a b := by
  cases h with
  | error e => cases hx
  | ok hab =>
      cases hx
      exact ⟨_, rfl, hab⟩

end Agrees

end RouteWorks
