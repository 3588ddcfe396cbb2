import Mathlib.Algebra.BigOperators.Group.List.Basic
import Mathlib.Algebra.Order.Field.Basic
import Mathlib.Algebra.Order.SuccPred.PartialSups
import Mathlib.Data.Nat.SuccPred
import Mathlib.Tactic.Linarith

/-! Running combinations of a list, and the decline of a path below its running peak. -/

namespace RunningPeak
set_option autoImplicit true

section Accumulate

/-- Every further element combined with all before it. -/
def accumulateFrom (f : α → α → α) (a : α) : List α → List α
  | [] => []
  | x :: xs => f a x :: accumulateFrom f (f a x) xs

/-- The running combination of a list. -/
def accumulate (f : α → α → α) : List α → List α
  | [] => []
  | x :: xs => x :: accumulateFrom f x xs

@[simp] theorem length_accumulateFrom (f : α → α → α) :
    (accumulateFrom f a l).length = l.length := by
  induction l generalizing a with
  | nil => rfl
  | cons x xs ih => simp [accumulateFrom, ih]

@[simp] theorem length_accumulate (f : α → α → α) : (accumulate f l).length = l.length := by
  cases l with
  | nil => rfl
  | cons x xs => simp [accumulate]

/-- A map that commutes with the combination commutes with the running one. -/
theorem map_accumulate {f : α → α → α} {h : β → β → β} (g : α → β)
    (hcomm : ∀ a b, g (f a b) = h (g a) (g b)) (l : List α) :
    (accumulate f l).map g = accumulate h (l.map g) := by
  have hfrom : ∀ a (l : List α),
      (accumulateFrom f a l).map g = accumulateFrom h (g a) (l.map g) := by
    intro a l
    induction l generalizing a with
    | nil => rfl
    | cons x xs ih => simp [accumulateFrom, ih, hcomm]
  cases l with
  | nil => rfl
  | cons x xs => simp [accumulate, hfrom]

theorem accumulateFrom_range {f : α → α → α} {step total : Nat → α} {n k : Nat}
    (h : ∀ i, total (i + 1) = f (total i) (step (i + 1))) :
    accumulateFrom f (total k) ((List.range' (k + 1) n).map step) =
      (List.range' (k + 1) n).map total := by
  induction n generalizing k with
  | zero => rfl
  | succ n ih =>
    rw [List.range'_succ, List.map_cons, List.map_cons, accumulateFrom, ← h k, ih]

/-- A tabulated list has a tabulated running combination. -/
theorem accumulate_range {f : α → α → α} (step total : Nat → α) (h₀ : total 0 = step 0)
    (h : ∀ i, total (i + 1) = f (total i) (step (i + 1))) (n : Nat) :
    accumulate f ((List.range n).map step) = (List.range n).map total := by
  rw [List.range_eq_range']
  cases n with
  | zero => rfl
  | succ n =>
    rw [List.range'_succ, List.map_cons, List.map_cons, accumulate, ← h₀,
      accumulateFrom_range h]

end Accumulate

section Peak

variable {R : Type u} [LinearOrder R] {W : Nat → R}

theorem partialSups_eq_of_below (h : ∀ t, a < t → t ≤ b → W t < partialSups W t) (hab : a ≤ b) :
    partialSups W b = partialSups W a := by
  induction b, hab using Nat.le_induction with
  | base => rfl
  | succ b hab ih =>
    have hb := h (b + 1) (by omega) le_rfl
    have hpeak := ih (fun t ht htb => h t ht (by omega))
    rw [partialSups_add_one] at hb ⊢
    rcases max_cases (partialSups W b) (W (b + 1)) with ⟨hm, _⟩ | ⟨hm, _⟩
    · exact hm.trans hpeak
    · exact absurd (hm ▸ hb) (lt_irrefl _)

end Peak

section Decline

variable {R : Type u} [Field R] [LinearOrder R] [IsStrictOrderedRing R] {W : Nat → R}

/-- How far a path lies below its running peak, as a fraction of it. -/
noncomputable def decline (W : Nat → R) (t : Nat) : R := W t / partialSups W t - 1

omit [IsStrictOrderedRing R] in
theorem partialSups_pos (h₀ : 0 < W 0) (t : Nat) : 0 < partialSups W t :=
  h₀.trans_le (le_partialSups_of_le W (Nat.zero_le t))

theorem decline_nonpos (h₀ : 0 < W 0) (t : Nat) : decline W t ≤ 0 := by
  have h := div_le_one_of_le₀ (le_partialSups W t) (partialSups_pos h₀ t).le
  unfold decline
  linarith

theorem decline_lt_zero (h₀ : 0 < W 0) : decline W t < 0 ↔ W t < partialSups W t := by
  rw [decline, sub_neg, div_lt_one (partialSups_pos h₀ t)]

theorem neg_one_lt_decline (h₀ : 0 < W 0) (ht : 0 < W t) : -1 < decline W t := by
  have h := div_pos ht (partialSups_pos h₀ t)
  unfold decline
  linarith

/-- Measured from any earlier point, a positive path falls by no more than from the peak. -/
theorem decline_le (hs : 0 < W s) (ht : 0 < W t) (hst : s ≤ t) : decline W t ≤ W t / W s - 1 := by
  have h : W t / partialSups W t ≤ W t / W s :=
    div_le_div_of_nonneg_left ht.le hs (le_partialSups_of_le W hst)
  unfold decline
  linarith

/-- The deepest decline is the deepest fall between any two times, in order. -/
theorem isLeast_decline (hW : ∀ t ≤ n, 0 < W t) (hn : 0 < n)
    (hm : IsLeast {x | ∃ t < n, x = decline W (t + 1)} m) :
    IsLeast {x | ∃ s t, s ≤ t ∧ t ≤ n ∧ x = W t / W s - 1} m := by
  obtain ⟨⟨t, ht, hmt⟩, hle⟩ := hm
  refine ⟨?_, ?_⟩
  · obtain ⟨s, hs, hpeak⟩ := exists_partialSups_eq W (t + 1)
    refine ⟨s, t + 1, hs, ht, ?_⟩
    rw [hmt, decline, hpeak]
  · intro x hx
    obtain ⟨s, t, hst, htn, hx⟩ := hx
    rw [hx]
    cases t with
    | zero =>
      have hs : s = 0 := by omega
      rw [hs, div_self (hW 0 (Nat.zero_le n)).ne', sub_self]
      exact (hle ⟨0, hn, rfl⟩).trans (decline_nonpos (hW 0 (Nat.zero_le n)) _)
    | succ t =>
      have hfall := decline_le (hW s (hst.trans htn)) (hW _ htn) hst
      exact (hle ⟨t, htn, rfl⟩).trans hfall

end Decline

end RunningPeak
