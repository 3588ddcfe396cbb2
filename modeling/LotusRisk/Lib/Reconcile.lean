import Mathlib.Algebra.BigOperators.Field
import Mathlib.Algebra.Order.BigOperators.Group.Finset
import Mathlib.Algebra.Order.Ring.Abs
import Mathlib.Tactic.Linarith
import Mathlib.Tactic.Ring

/-! Two allocations of one unit over keyed shares, the second over some of the keys only. -/

namespace Reconcile
set_option autoImplicit true

variable {κ : Type u} {R : Type v} [DecidableEq κ] [Field R] [LinearOrder R] [IsStrictOrderedRing R]

/-- The shares `w` of all keys and the parts `t` of some keys agree up to `ε`, key by key and in
total. -/
structure Allocation (keys part : Finset κ) (w t : κ → R) (ε : R) : Prop where
  subset : part ⊆ keys
  nonneg : ∀ b ∈ keys, 0 ≤ w b
  total : |∑ b ∈ keys, w b - 1| ≤ ε
  partTotal : |∑ b ∈ part, t b - 1| ≤ ε
  close : ∀ b ∈ part, |t b - w b| ≤ ε

variable {keys part : Finset κ} {w t g : κ → R} {ε S : R}

omit [DecidableEq κ] in
theorem Allocation.eps_nonneg (h : Allocation keys part w t ε) : 0 ≤ ε :=
  (abs_nonneg _).trans h.total

/-- The keys without a part carry little weight. -/
theorem Allocation.uncovered_le (h : Allocation keys part w t ε) :
    ∑ b ∈ keys \ part, w b ≤ (part.card + 2) * ε := by
  have hsplit := Finset.sum_sdiff h.subset (f := w)
  have hparts : ∑ b ∈ part, (t b - w b) ≤ part.card * ε := by
    rw [← nsmul_eq_mul]
    exact Finset.sum_le_card_nsmul _ _ _ (fun b hb => (abs_le.1 (h.close b hb)).2)
  rw [Finset.sum_sub_distrib] at hparts
  have htotal := (abs_le.1 h.total).2
  have hpart := (abs_le.1 h.partTotal).1
  linarith

/-- Weighing both allocations by bounded values gives nearly the same sum. -/
theorem Allocation.abs_sub_le (h : Allocation keys part w t ε) (hg : ∀ b ∈ keys, 0 ≤ g b)
    (hS : ∀ b ∈ keys, g b ≤ S) (hS₀ : 0 ≤ S) :
    |∑ b ∈ part, t b * g b - ∑ b ∈ keys, w b * g b| ≤ (2 * part.card + 2) * ε * S := by
  have hε := h.eps_nonneg
  have hsplit := Finset.sum_sdiff h.subset (f := fun b => w b * g b)
  have hcovered : |∑ b ∈ part, (t b - w b) * g b| ≤ part.card * (ε * S) := by
    rw [← nsmul_eq_mul]
    refine (Finset.abs_sum_le_sum_abs _ _).trans (Finset.sum_le_card_nsmul _ _ _ ?_)
    intro b hb
    rw [abs_mul, abs_of_nonneg (hg b (h.subset hb))]
    exact mul_le_mul (h.close b hb) (hS b (h.subset hb)) (hg b (h.subset hb)) hε
  have huncovered : ∑ b ∈ keys \ part, w b * g b ≤ (part.card + 2) * ε * S := by
    calc ∑ b ∈ keys \ part, w b * g b
        ≤ ∑ b ∈ keys \ part, w b * S := by
          apply Finset.sum_le_sum
          intro b hb
          have hk := (Finset.mem_sdiff.1 hb).1
          exact mul_le_mul_of_nonneg_left (hS b hk) (h.nonneg b hk)
      _ = (∑ b ∈ keys \ part, w b) * S := (Finset.sum_mul _ _ _).symm
      _ ≤ (part.card + 2) * ε * S := mul_le_mul_of_nonneg_right h.uncovered_le hS₀
  have hpos : 0 ≤ ∑ b ∈ keys \ part, w b * g b := by
    apply Finset.sum_nonneg
    intro b hb
    have hk := (Finset.mem_sdiff.1 hb).1
    exact mul_nonneg (h.nonneg b hk) (hg b hk)
  have hdiff : ∑ b ∈ part, (t b - w b) * g b =
      ∑ b ∈ part, t b * g b - ∑ b ∈ part, w b * g b := by
    rw [← Finset.sum_sub_distrib]
    exact Finset.sum_congr rfl (fun b _ => sub_mul _ _ _)
  rw [hdiff] at hcovered
  obtain ⟨hlow, hhigh⟩ := abs_le.1 hcovered
  rw [abs_le]
  constructor
  · linarith
  · linarith

/-- Rounding every term moves a sum by at most the sum of the rounding errors. -/
theorem abs_sum_map_sub_le {r : R → R} {δ : R} (h : ∀ x, |r x - x| ≤ δ) (l : List R) :
    |(l.map r).sum - l.sum| ≤ l.length * δ := by
  induction l with
  | nil => simp
  | cons x l ih =>
    have hx := abs_le.1 (h x)
    have hl := abs_le.1 ih
    rw [List.map_cons, List.sum_cons, List.sum_cons, List.length_cons, abs_le]
    push_cast
    constructor
    · linarith [hx.1, hl.1]
    · linarith [hx.2, hl.2]

end Reconcile
