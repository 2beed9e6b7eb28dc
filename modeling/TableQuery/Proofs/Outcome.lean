import Mathlib.Data.List.Forall2

/-!
# Outcomes — how computations of several steps end

A computation of several steps ends well if each of its steps does, which
is how such a computation is taken apart (`bind_eq_ok_iff`). Otherwise it
ends in the error of the first step that fails. `FailsBy` says this of a
computation and the kinds of errors that its steps have, in their order,
and the kinds of two computations one after the other are those of the
first and behind them those of the second (`FailsBy.bind`).
-/

namespace TableQuery

variable {ε α β γ : Type}

theorem bind_eq_ok_iff {x : Except ε α} {f : α → Except ε β} {b : β} :
    x >>= f = .ok b ↔ ∃ a, x = .ok a ∧ f a = .ok b := by
  cases x with
  | error e => simp [bind, Except.bind]
  | ok a => simp [bind, Except.bind]

theorem map_eq_ok_iff {x : Except ε α} {f : α → β} {b : β} :
    x.map f = .ok b ↔ ∃ a, x = .ok a ∧ f a = b := by
  cases x with
  | error e => simp [Except.map]
  | ok a => simp [Except.map]

theorem mapError_eq_ok_iff {δ : Type} {x : Except ε α} {f : ε → δ} {a : α} :
    x.mapError f = .ok a ↔ x = .ok a := by
  cases x <;> simp [Except.mapError]

theorem mapError_eq_error_iff {δ : Type} {x : Except ε α} {f : ε → δ} {e' : δ} :
    x.mapError f = .error e' ↔ ∃ e, x = .error e ∧ f e = e' := by
  cases x <;> simp [Except.mapError]

/-- A list is gone through well if each member is. -/
theorem mapM_eq_ok_iff {f : α → Except ε β} {xs : List α} {ys : List β} :
    xs.mapM f = .ok ys ↔ List.Forall₂ (f · = .ok ·) xs ys := by
  induction xs generalizing ys with
  | nil => simp [pure, Except.pure, eq_comm]
  | cons x xs ih =>
    rw [List.mapM_cons, bind_eq_ok_iff, List.forall₂_cons_left_iff]
    constructor
    · rintro ⟨y, hy, h⟩
      obtain ⟨ys, hys, h⟩ := bind_eq_ok_iff.1 h
      cases h
      exact ⟨y, ys, hy, ih.1 hys, rfl⟩
    · rintro ⟨y, ys, hy, hys, rfl⟩
      exact ⟨y, hy, bind_eq_ok_iff.2 ⟨ys, ih.2 hys, rfl⟩⟩

theorem exists_mem_of_mapM_eq_ok {f : α → Except ε β} {xs : List α} {ys : List β}
    (h : xs.mapM f = .ok ys) : ∀ y ∈ ys, ∃ x ∈ xs, f x = .ok y := by
  rw [mapM_eq_ok_iff] at h
  induction h with
  | nil => simp
  | cons hx _ ih =>
    refine List.forall_mem_cons.2 ⟨⟨_, List.mem_cons_self, hx⟩, fun y hy => ?_⟩
    obtain ⟨x, hmem, hxy⟩ := ih y hy
    exact ⟨x, List.mem_cons_of_mem _ hmem, hxy⟩

/-- What can be seen of a computation of two steps depends on what the
second step can see of the first. -/
theorem map_bind_congr {α' β' : Type} {x : Except ε α} {x' : Except ε α'} {view : α → γ}
    {view' : α' → γ} {f : α → Except ε β} {f' : α' → Except ε β'} {δ : Type} {seen : β → δ}
    {seen' : β' → δ} (hx : x.map view = x'.map view')
    (hf : ∀ a a', view a = view' a' → (f a).map seen = (f' a').map seen') :
    (x >>= f).map seen = (x' >>= f').map seen' := by
  cases x with
  | error e =>
    cases x' with
    | error e' =>
      cases hx
      rfl
    | ok a' => cases hx
  | ok a =>
    cases x' with
    | error e' => cases hx
    | ok a' => exact hf a a' (Except.ok.inj hx)

/-- Behind the same first step only the second steps count. -/
theorem map_bind_congr_right {x : Except ε α} {f f' : α → Except ε β} {seen : β → γ}
    (hf : ∀ a, (f a).map seen = (f' a).map seen) :
    (x >>= f).map seen = (x >>= f').map seen := by
  cases x with
  | error e => rfl
  | ok a => exact hf a

/-- Other words for the errors do not change what can be seen. -/
theorem map_mapError_congr {δ : Type} {x x' : Except ε α} {view : α → γ}
    (h : x.map view = x'.map view) (f : ε → δ) :
    (x.mapError f).map view = (x'.mapError f).map view := by
  cases x with
  | error e =>
    cases x' with
    | error e' =>
      cases h
      rfl
    | ok a' => cases h
  | ok a =>
    cases x' with
    | error e' => cases h
    | ok a' => exact congrArg Except.ok (Except.ok.inj h)

/-! ## Errors -/

/-- The error is of the first of some kinds that there is an error of. -/
inductive FirstOf : List (ε → Prop) → ε → Prop
  | here {P : ε → Prop} {Ps : List (ε → Prop)} {e : ε} : P e → FirstOf (P :: Ps) e
  | later {P : ε → Prop} {Ps : List (ε → Prop)} {e : ε} :
      (∀ e', ¬ P e') → FirstOf Ps e → FirstOf (P :: Ps) e

variable {P : ε → Prop} {Ps Qs : List (ε → Prop)} {e : ε} {x : Except ε α}

theorem not_firstOf_nil : ¬ FirstOf [] e := nofun

theorem firstOf_cons_iff : FirstOf (P :: Ps) e ↔ P e ∨ (∀ e', ¬ P e') ∧ FirstOf Ps e := by
  constructor
  · rintro (h | ⟨hnone, h⟩)
    · exact .inl h
    · exact .inr ⟨hnone, h⟩
  · rintro (h | ⟨hnone, h⟩)
    · exact .here h
    · exact .later hnone h

theorem firstOf_append_iff :
    FirstOf (Ps ++ Qs) e ↔ FirstOf Ps e ∨ (∀ e', ¬ FirstOf Ps e') ∧ FirstOf Qs e := by
  induction Ps with
  | nil => simp [not_firstOf_nil]
  | cons P Ps ih =>
    simp only [List.cons_append, firstOf_cons_iff, ih]
    by_cases hP : ∃ e', P e'
    · -- an error of the first kind hides all others
      have hsome : ¬ ∀ e', ¬ P e' := fun h => hP.elim h
      simp [hsome]
    · have hnone : ∀ e', ¬ P e' := fun e' he' => hP ⟨e', he'⟩
      simp [hnone]

theorem FirstOf.exists_mem (h : FirstOf Ps e) : ∃ P ∈ Ps, P e := by
  induction h with
  | here hP => exact ⟨_, List.mem_cons_self, hP⟩
  | later _ _ ih =>
    obtain ⟨P, hmem, hP⟩ := ih
    exact ⟨P, List.mem_cons_of_mem _ hmem, hP⟩

/-- There is an error of some kind if there is a first one. -/
theorem exists_firstOf_iff : (∃ e, FirstOf Ps e) ↔ ∃ P ∈ Ps, ∃ e, P e := by
  constructor
  · rintro ⟨e, h⟩
    obtain ⟨P, hmem, hP⟩ := h.exists_mem
    exact ⟨P, hmem, e, hP⟩
  · rintro ⟨P, hmem, e, hP⟩
    induction Ps with
    | nil => cases hmem
    | cons Q Qs ih =>
      by_cases hQ : ∃ e', Q e'
      · obtain ⟨e', hQ⟩ := hQ
        exact ⟨e', .here hQ⟩
      · rw [not_exists] at hQ
        rcases List.mem_cons.1 hmem with rfl | hmem
        · exact absurd hP (hQ e)
        · obtain ⟨e', hfirst⟩ := ih hmem
          exact ⟨e', .later hQ hfirst⟩

/-- The computation fails exactly where there is an error of one of the
kinds, and with an error of the first such kind. -/
def FailsBy (x : Except ε α) (Ps : List (ε → Prop)) : Prop :=
  ∀ e, x = .error e ↔ FirstOf Ps e

theorem failsBy_singleton_iff : FailsBy x [P] ↔ ∀ e, x = .error e ↔ P e := by
  simp [FailsBy, firstOf_cons_iff, not_firstOf_nil]

/-- All kinds together are one kind. -/
theorem FailsBy.single (h : FailsBy x Ps) : FailsBy x [FirstOf Ps] :=
  failsBy_singleton_iff.2 h

/-- A computation ends well where there is no error of any kind. -/
theorem FailsBy.exists_ok_iff (h : FailsBy x Ps) : (∃ a, x = .ok a) ↔ ¬ ∃ e, FirstOf Ps e := by
  constructor
  · rintro ⟨a, ha⟩ ⟨e, he⟩
    have hx := (h e).2 he
    rw [ha] at hx
    cases hx
  · intro hnone
    cases hx : x with
    | error e => exact absurd ⟨e, (h e).1 hx⟩ hnone
    | ok a => exact ⟨a, rfl⟩

theorem failsBy_ok (a : α) : FailsBy (.ok a : Except ε α) [] :=
  fun _ => ⟨nofun, nofun⟩

/-- Where the first kind has an error, the other kinds do not matter. -/
theorem failsBy_of_error (hx : x = .error e) (hP : ∀ e', P e' ↔ e' = e) :
    FailsBy x (P :: Ps) := by
  intro e'
  rw [hx, firstOf_cons_iff, hP]
  have hsome : ¬ ∀ e', ¬ P e' := fun h => h e ((hP e).2 rfl)
  simp [hsome, eq_comm]

/-- A kind without an error does not count. -/
theorem FailsBy.skip (hP : ∀ e, ¬ P e) (h : FailsBy x Ps) : FailsBy x (P :: Ps) := by
  intro e
  rw [firstOf_cons_iff, h e]
  simp [hP]

theorem FailsBy.map (f : α → β) (h : FailsBy x Ps) : FailsBy (x.map f) Ps := by
  intro e
  rw [← h e]
  cases x <;> simp [Except.map]

theorem FailsBy.bind_pure (f : α → β) (h : FailsBy x Ps) :
    FailsBy (x >>= fun a => pure (f a)) Ps :=
  h.map f

/-- **Two computations, one after the other**, fail by the kinds of the
first and then by those of the second. -/
theorem FailsBy.bind {f : α → Except ε β} (hx : FailsBy x Ps)
    (hf : ∀ a, x = .ok a → FailsBy (f a) Qs) : FailsBy (x >>= f) (Ps ++ Qs) := by
  intro e
  rw [firstOf_append_iff, ← hx e]
  simp only [← hx _]
  cases x with
  | error e' => simp [Bind.bind, Except.bind]
  | ok a => simpa [Bind.bind, Except.bind] using hf a rfl e

theorem failsBy_foldlM {f : β → α → Except ε β} {P : α → ε → Prop}
    (h : ∀ b a, FailsBy (f b a) [P a]) (b : β) (xs : List α) :
    FailsBy (xs.foldlM f b) (xs.map P) := by
  induction xs generalizing b with
  | nil => exact failsBy_ok b
  | cons a xs ih =>
    rw [List.foldlM_cons]
    exact (h b a).bind fun b' _ => ih b'

theorem failsBy_mapM {f : α → Except ε β} {P : α → ε → Prop} (h : ∀ a, FailsBy (f a) [P a])
    (xs : List α) : FailsBy (xs.mapM f) (xs.map P) := by
  induction xs with
  | nil => exact failsBy_ok []
  | cons a xs ih =>
    rw [List.mapM_cons]
    exact (h a).bind fun b _ => ih.bind_pure (b :: ·)

end TableQuery
