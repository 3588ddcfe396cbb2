import Mathlib.Data.List.Basic

/-! Noninterference of a deterministic machine: what one party observes of a run is what it would
observe had only its own actions been taken. -/

namespace Noninterference
set_option autoImplicit true

variable {σ : Type u} {α : Type v} {ω : Type w} (step : σ → α → ω × σ) (own : α → Bool)

/-- The state after a run. -/
def final (s : σ) (actions : List α) : σ := actions.foldl (fun s a => (step s a).2) s

/-- The outputs of the party's own actions. -/
def observed (s : σ) : List α → List ω
  | [] => []
  | a :: as =>
    if own a then (step s a).1 :: observed (step s a).2 as else observed (step s a).2 as

theorem observed_append (s : σ) (as bs : List α) :
    observed step own s (as ++ bs) =
      observed step own s as ++ observed step own (final step s as) bs := by
  induction as generalizing s with
  | nil => rfl
  | cons a as ih =>
    rw [List.cons_append, observed, observed, ih]
    cases own a with
    | true => rfl
    | false => rfl

/-- A relation of two states, given the actions to come, that the actions of others do not leave and
that fixes the outputs of the party's own. -/
structure Unwinding (R : List α → σ → σ → Prop) : Prop where
  other : R (a :: as) s t → own a = false → R as (step s a).2 t
  same : R (a :: as) s t → own a = true →
    (step s a).1 = (step t a).1 ∧ R as (step s a).2 (step t a).2

variable {step own} {R : List α → σ → σ → Prop}

/-- Purging the actions of others changes no output and leaves a related state. -/
theorem Unwinding.purge (h : Unwinding step own R) {as : List α} (hr : R as s t) :
    observed step own s as = observed step own t (as.filter own) ∧
      R [] (final step s as) (final step t (as.filter own)) := by
  induction as generalizing s t with
  | nil => exact ⟨rfl, hr⟩
  | cons a as ih =>
    cases ha : own a with
    | false =>
      obtain ⟨ho, hf⟩ := ih (h.other hr ha)
      rw [List.filter_cons_of_neg (by simp [ha]), observed, if_neg (by simp [ha])]
      exact ⟨ho, hf⟩
    | true =>
      obtain ⟨he, hr'⟩ := h.same hr ha
      obtain ⟨ho, hf⟩ := ih hr'
      rw [List.filter_cons_of_pos ha, observed, observed, if_pos ha, if_pos ha, he, ho]
      exact ⟨rfl, hf⟩

end Noninterference
