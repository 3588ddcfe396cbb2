import LotusRisk.Lib.Effects

/-! Computations whose state is a log that only grows: what they append, against what they return
or raise. -/

namespace Emission
open Effects
set_option autoImplicit true

variable {ε τ α β : Type}

/-- From any log, the events that the computation appends are related to its result. -/
def Emits (x : Eff ε (List τ) α) (P : List τ → Except ε α → Prop) : Prop :=
  ∀ log, ∃ new, (x.run.run log).2 = log ++ new ∧ P new (x.run.run log).1

/-- The answer to a request, which may depend on what was answered before; the exchange is
logged. -/
def ask (answer : List (ρ × ω) → ρ → ω) (request : ρ) : Eff ε (List (ρ × ω)) ω := do
  let log ← get
  set (log ++ [(request, answer log request)])
  pure (answer log request)

section Rules

variable {P Q : List τ → Except ε α → Prop} {R : List τ → Except ε β → Prop}

theorem emits_pure (h : P [] (.ok a)) : Emits (pure a : Eff ε (List τ) α) P := by
  intro log
  exact ⟨[], (List.append_nil log).symm, h⟩

theorem emits_ofExcept {x : Except ε α} (h : P [] x) :
    Emits (MonadExcept.ofExcept x : Eff ε (List τ) α) P := by
  intro log
  cases x with
  | ok a => exact ⟨[], (List.append_nil log).symm, h⟩
  | error e => exact ⟨[], (List.append_nil log).symm, h⟩

theorem Emits.weaken {x : Eff ε (List τ) α} (hx : Emits x P) (h : ∀ new r, P new r → Q new r) :
    Emits x Q := by
  intro log
  obtain ⟨new, hnew, hp⟩ := hx log
  exact ⟨new, hnew, h new _ hp⟩

/-- What is raised is passed on; after a result the rest appends to what was appended. -/
theorem Emits.bind {x : Eff ε (List τ) α} {f : α → Eff ε (List τ) β} (hx : Emits x P)
    (herror : ∀ new e, P new (.error e) → R new (.error e))
    (hok : ∀ new a, P new (.ok a) → Emits (f a) (fun later r => R (new ++ later) r)) :
    Emits (x >>= f) R := by
  intro log
  obtain ⟨new, hnew, hp⟩ := hx log
  rw [ExceptT.run_bind, StateT.run_bind]
  rcases hr : x.run.run log with ⟨r, log'⟩
  rw [hr] at hnew hp
  dsimp only at hnew hp
  rw [hnew]
  cases r with
  | error e => exact ⟨new, rfl, herror new e hp⟩
  | ok a =>
    obtain ⟨later, hlater, hr⟩ := hok new a hp (log ++ new)
    refine ⟨new ++ later, ?_, hr⟩
    rw [← List.append_assoc]
    exact hlater

/-- One exchange is logged, and its answer is returned. -/
theorem emits_ask (answer : List (ρ × ω) → ρ → ω) (request : ρ) :
    Emits (ask answer request : Eff ε (List (ρ × ω)) ω)
      (fun new r => ∃ outcome, new = [(request, outcome)] ∧ r = .ok outcome) := by
  intro log
  exact ⟨[(request, answer log request)], rfl, answer log request, rfl, rfl⟩

end Rules

end Emission
