import Mathlib.Data.List.Basic

/-! Loops that may raise: what holds of the state they leave, and which errors they raise. -/

namespace Raising
set_option autoImplicit true

theorem foldlM_cons_eq_ok {f : σ → α → Except ε σ} :
    (a :: as).foldlM f s = .ok t ↔ ∃ u, f s a = .ok u ∧ as.foldlM f u = .ok t := by
  rw [List.foldlM_cons]
  cases f s a with
  | error e => simp [bind, Except.bind]
  | ok u => simp [bind, Except.bind]

/-- What relates the state to the elements read so far, and every step keeps, holds at the
end. -/
theorem foldlM_trace {f : σ → α → Except ε σ} {as : List α} (I : List α → σ → Prop)
    (hstep : ∀ read s a t, I read s → f s a = .ok t → I (read ++ [a]) t) (read : List α)
    (hs : I read s) (h : as.foldlM f s = .ok t) : I (read ++ as) t := by
  induction as generalizing read s with
  | nil =>
    cases h
    rw [List.append_nil]
    exact hs
  | cons a as ih =>
    obtain ⟨u, hu, h⟩ := foldlM_cons_eq_ok.1 h
    rw [← List.singleton_append, ← List.append_assoc]
    exact ih (read ++ [a]) (hstep read s a u hs hu) h

/-- What every step keeps holds of the state that the loop leaves. -/
theorem foldlM_invariant {f : σ → α → Except ε σ} {as : List α} (I : σ → Prop)
    (hstep : ∀ s a t, I s → f s a = .ok t → I t) (hs : I s) (h : as.foldlM f s = .ok t) : I t :=
  foldlM_trace (fun _ => I) (fun _ s a t => hstep s a t) [] hs h

/-- A loop whose steps succeed from every state succeeds. -/
theorem exists_foldlM_ok {f : σ → α → Except ε σ} (as : List α)
    (h : ∀ s, ∀ a ∈ as, ∃ t, f s a = .ok t) (s : σ) : ∃ t, as.foldlM f s = .ok t := by
  induction as generalizing s with
  | nil => exact ⟨s, rfl⟩
  | cons a as ih =>
    obtain ⟨u, hu⟩ := h s a List.mem_cons_self
    obtain ⟨t, ht⟩ := ih (fun s a ha => h s a (List.mem_cons_of_mem _ ha)) u
    exact ⟨t, foldlM_cons_eq_ok.2 ⟨u, hu, ht⟩⟩

theorem forM_eq_ok {f : α → Except ε PUnit} {as : List α} :
    as.forM f = .ok u ↔ ∀ a ∈ as, f a = .ok ⟨⟩ := by
  induction as with
  | nil => exact iff_of_true rfl nofun
  | cons a as ih =>
    rw [show (a :: as).forM f = (f a >>= fun _ => as.forM f) from rfl, List.forall_mem_cons, ← ih]
    cases f a with
    | error e => simp [bind, Except.bind]
    | ok v => simp [bind, Except.bind]

/-- Every error of the computation is one of `P`. -/
def ErrorsIn (P : ε → Prop) (x : Except ε α) : Prop := ∀ e, x = .error e → P e

theorem errorsIn_ok {P : ε → Prop} (a : α) : ErrorsIn P (.ok a : Except ε α) := by
  intro e h
  cases h

theorem errorsIn_error {P : ε → Prop} : ErrorsIn P (.error e : Except ε α) ↔ P e := by
  constructor
  · intro h
    exact h e rfl
  · intro hp e' h
    cases h
    exact hp

theorem errorsIn_bind {P : ε → Prop} {x : Except ε α} {f : α → Except ε β} :
    ErrorsIn P (x >>= f) ↔ ErrorsIn P x ∧ ∀ a, x = .ok a → ErrorsIn P (f a) := by
  cases x with
  | error e =>
    constructor
    · intro h
      exact ⟨errorsIn_error.2 (errorsIn_error.1 h), nofun⟩
    · intro h
      exact errorsIn_error.2 (errorsIn_error.1 h.1)
  | ok a =>
    constructor
    · intro h
      refine ⟨errorsIn_ok a, ?_⟩
      intro a' ha
      cases ha
      exact h
    · intro h
      exact h.2 a rfl

/-- A loop raises what one of its steps raises, after the steps before have succeeded. -/
theorem errorsIn_foldlM {P : ε → Prop} {f : σ → α → Except ε σ} (as : List α) (s : σ) :
    ErrorsIn P (as.foldlM f s) ↔ ∀ before a after t, as = before ++ a :: after →
      before.foldlM f s = .ok t → ErrorsIn P (f t a) := by
  induction as generalizing s with
  | nil =>
    constructor
    · intro _ before a after t h
      exact absurd h.symm (List.append_ne_nil_of_right_ne_nil _ (List.cons_ne_nil a after))
    · intro _
      exact errorsIn_ok s
  | cons a as ih =>
    rw [List.foldlM_cons, errorsIn_bind]
    constructor
    · rintro ⟨ha, hrest⟩ before b after t hsplit hbefore
      cases before with
      | nil =>
        cases hsplit
        cases hbefore
        exact ha
      | cons c before =>
        cases hsplit
        obtain ⟨u, hu, hbefore⟩ := foldlM_cons_eq_ok.1 hbefore
        exact (ih u).1 (hrest u hu) before b after t rfl hbefore
    · intro h
      refine ⟨h [] a as s rfl rfl, ?_⟩
      intro u hu
      apply (ih u).2
      intro before b after t hsplit hbefore
      exact h (a :: before) b after t (by rw [hsplit, List.cons_append])
        (foldlM_cons_eq_ok.2 ⟨u, hu, hbefore⟩)

end Raising
