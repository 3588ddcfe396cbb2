import Mathlib.Logic.Basic

/-! Computations that read and change a state and may raise: what they can return, and what they
can raise. -/

namespace Effects
set_option autoImplicit true

/-- An exception keeps the state reached when it was raised. -/
abbrev Eff (ε σ : Type) := ExceptT ε (StateM σ)

variable {ε σ α β : Type}

/-- From `s` the computation returns `a` and leaves `s'`. -/
def Returns (x : Eff ε σ α) (s : σ) (a : α) (s' : σ) : Prop := x.run.run s = (.ok a, s')

/-- From `s` the computation raises `e` and leaves `s'`. -/
def Fails (x : Eff ε σ α) (s : σ) (e : ε) (s' : σ) : Prop := x.run.run s = (.error e, s')

/-- Whatever the computation raises, from any state, satisfies `P`. -/
def Raises (x : Eff ε σ α) (P : ε → Prop) : Prop :=
  ∀ s e s', x.run.run s = (.error e, s') → P e

section Rules

theorem run_tryCatch (x : Eff ε σ α) (handler : ε → Eff ε σ α) (s : σ) :
    (tryCatch x handler).run.run s =
      match x.run.run s with
      | (.ok a, s') => (.ok a, s')
      | (.error e, s') => (handler e).run.run s' := by
  rw [ExceptT.run_tryCatch, StateT.run_bind]
  rcases x.run.run s with ⟨r, s'⟩
  cases r <;> rfl

theorem run_bind (x : Eff ε σ α) (f : α → Eff ε σ β) (s : σ) :
    (x >>= f).run.run s =
      match x.run.run s with
      | (.ok a, s') => (f a).run.run s'
      | (.error e, s') => (.error e, s') := by
  rw [ExceptT.run_bind, StateT.run_bind]
  rcases x.run.run s with ⟨r, s'⟩
  cases r <;> rfl

theorem returns_pure : Returns (pure a : Eff ε σ α) s b s' ↔ a = b ∧ s = s' := by
  unfold Returns
  constructor
  · intro h
    cases h
    exact ⟨rfl, rfl⟩
  · rintro ⟨rfl, rfl⟩
    rfl

theorem not_returns_throw : ¬ Returns (throw e : Eff ε σ α) s b s' := by
  intro h
  cases h

theorem returns_bind {x : Eff ε σ α} {f : α → Eff ε σ β} :
    Returns (x >>= f) s b s' ↔ ∃ a s₁, Returns x s a s₁ ∧ Returns (f a) s₁ b s' := by
  unfold Returns
  rw [ExceptT.run_bind, StateT.run_bind]
  rcases x.run.run s with ⟨r, s₁⟩
  cases r with
  | error e =>
    constructor
    · intro h
      cases h
    · rintro ⟨a, s₂, h, -⟩
      cases h
  | ok a =>
    constructor
    · intro h
      exact ⟨a, s₁, rfl, h⟩
    · rintro ⟨a', s₂, h, hf⟩
      cases h
      exact hf

/-- A handler that never returns passes on what the body returned. -/
theorem returns_tryCatch {x : Eff ε σ α} {handler : ε → Eff ε σ α}
    (hh : ∀ e s a s', ¬ Returns (handler e) s a s') :
    Returns (tryCatch x handler) s a s' ↔ Returns x s a s' := by
  unfold Returns
  rw [run_tryCatch]
  rcases x.run.run s with ⟨r, s₁⟩
  cases r with
  | ok a => exact Iff.rfl
  | error e =>
    constructor
    · intro h
      exact absurd h (hh e s₁ _ _)
    · intro h
      cases h

theorem not_fails_pure : ¬ Fails (pure a : Eff ε σ α) s e s' := by
  intro h
  cases h

theorem fails_throw : Fails (throw e : Eff ε σ α) s e' s' ↔ e = e' ∧ s = s' := by
  unfold Fails
  constructor
  · intro h
    cases h
    exact ⟨rfl, rfl⟩
  · rintro ⟨rfl, rfl⟩
    rfl

theorem fails_bind {x : Eff ε σ α} {f : α → Eff ε σ β} :
    Fails (x >>= f) s e s' ↔
      Fails x s e s' ∨ ∃ a s₁, Returns x s a s₁ ∧ Fails (f a) s₁ e s' := by
  unfold Fails Returns
  rw [run_bind]
  rcases x.run.run s with ⟨r, s₁⟩
  cases r with
  | error e' =>
    constructor
    · intro h
      cases h
      exact .inl rfl
    · rintro (h | ⟨a, s₂, h, -⟩)
      · cases h
        rfl
      · cases h
  | ok a =>
    constructor
    · intro h
      exact .inr ⟨a, s₁, rfl, h⟩
    · rintro (h | ⟨a', s₂, h, hf⟩)
      · cases h
      · cases h
        exact hf

/-- A handler that raises another exception in place of each. -/
theorem fails_tryCatch_throw {x : Eff ε σ α} {handler : ε → ε} :
    Fails (tryCatch x fun raised => throw (handler raised)) s e s' ↔
      ∃ raised, Fails x s raised s' ∧ handler raised = e := by
  unfold Fails
  rw [run_tryCatch]
  rcases x.run.run s with ⟨r, s₁⟩
  cases r with
  | ok a =>
    constructor
    · intro h
      cases h
    · rintro ⟨raised, h, -⟩
      cases h
  | error raised =>
    constructor
    · intro h
      cases h
      exact ⟨raised, rfl, rfl⟩
    · rintro ⟨raised', h, rfl⟩
      cases h
      rfl

theorem Raises.pure (a : α) (P : ε → Prop) : Raises (pure a : Eff ε σ α) P := by
  intro s e s' h
  cases h

theorem Raises.throw {P : ε → Prop} (h : P e) : Raises (throw e : Eff ε σ α) P := by
  intro s e' s' he
  cases he
  exact h

theorem Raises.bind {x : Eff ε σ α} {f : α → Eff ε σ β} {P : ε → Prop} (hx : Raises x P)
    (hf : ∀ a, Raises (f a) P) : Raises (x >>= f) P := by
  intro s e s' h
  rw [ExceptT.run_bind, StateT.run_bind] at h
  rcases hr : x.run.run s with ⟨r, s₁⟩
  rw [hr] at h
  cases r with
  | error e' =>
    cases h
    exact hx s _ _ hr
  | ok a => exact hf a s₁ e s' h

theorem Raises.tryCatch {x : Eff ε σ α} {handler : ε → Eff ε σ α} {P Q : ε → Prop}
    (hx : Raises x Q) (hh : ∀ e, Q e → Raises (handler e) P) :
    Raises (tryCatch x handler) P := by
  intro s e s' h
  rw [run_tryCatch] at h
  rcases hr : x.run.run s with ⟨r, s₁⟩
  rw [hr] at h
  cases r with
  | error e' => exact hh e' (hx s e' s₁ hr) s₁ e s' h
  | ok a => cases h

theorem Raises.trivial (x : Eff ε σ α) : Raises x (fun _ => True) := fun _ _ _ _ => True.intro

end Rules

end Effects
