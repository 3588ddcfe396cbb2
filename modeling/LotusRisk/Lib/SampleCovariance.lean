import Mathlib.Algebra.BigOperators.Fin
import Mathlib.Algebra.BigOperators.Ring.List
import Mathlib.Algebra.Order.BigOperators.Ring.Finset
import Mathlib.Tactic.FieldSimp
import Mathlib.Tactic.Positivity
import Mathlib.Tactic.Ring

/-! The sample covariance of functions on a list of indices: bilinear, positive, and bounded by the
sample variances. -/

namespace Sampling
set_option autoImplicit true

variable {ι : Type u} {K : Type v} [Field K]

def average (l : List ι) (f : ι → K) : K := (l.map f).sum / l.length

/-- With the divisor of an unbiased estimate. -/
def covariance (l : List ι) (f g : ι → K) : K :=
  (l.map (fun i => (f i - average l f) * (g i - average l g))).sum / ((l.length : K) - 1)

section Linearity

theorem average_congr {l : List ι} {f g : ι → K} (h : ∀ i ∈ l, f i = g i) :
    average l f = average l g := by
  rw [average, average, List.map_congr_left h]

theorem covariance_congr {l : List ι} {f f' g g' : ι → K} (hf : ∀ i ∈ l, f i = f' i)
    (hg : ∀ i ∈ l, g i = g' i) : covariance l f g = covariance l f' g' := by
  rw [covariance, covariance, average_congr hf, average_congr hg]
  congr 2
  apply List.map_congr_left
  intro i hi
  rw [hf i hi, hg i hi]

theorem average_add (l : List ι) (f g : ι → K) :
    average l (fun i => f i + g i) = average l f + average l g := by
  rw [average, average, average, List.sum_map_add, add_div]

theorem average_mul_left (l : List ι) (c : K) (f : ι → K) :
    average l (fun i => c * f i) = c * average l f := by
  rw [average, average, List.sum_map_mul_left, mul_div_assoc]

theorem covariance_add_left (l : List ι) (f f' g : ι → K) :
    covariance l (fun i => f i + f' i) g = covariance l f g + covariance l f' g := by
  rw [covariance, covariance, covariance, average_add, ← add_div, ← List.sum_map_add]
  congr 2
  apply List.map_congr_left
  intro i _
  ring

theorem covariance_mul_left (l : List ι) (c : K) (f g : ι → K) :
    covariance l (fun i => c * f i) g = c * covariance l f g := by
  rw [covariance, covariance, average_mul_left, ← mul_div_assoc, ← List.sum_map_mul_left]
  congr 2
  apply List.map_congr_left
  intro i _
  ring

theorem covariance_sub_left (l : List ι) (f f' g : ι → K) :
    covariance l (fun i => f i - f' i) g = covariance l f g - covariance l f' g := by
  have hneg := covariance_mul_left l (-1) f' g
  have hadd := covariance_add_left l f (fun i => -1 * f' i) g
  rw [hneg, neg_one_mul, ← sub_eq_add_neg] at hadd
  rw [← hadd]
  apply covariance_congr
  · intro i _
    ring
  · intro i _
    rfl

theorem covariance_comm (l : List ι) (f g : ι → K) : covariance l f g = covariance l g f := by
  rw [covariance, covariance]
  congr 2
  apply List.map_congr_left
  intro i _
  exact mul_comm _ _

theorem covariance_sub_self (l : List ι) (f g : ι → K) :
    covariance l (fun i => f i - g i) (fun i => f i - g i) =
      covariance l f f - 2 * covariance l f g + covariance l g g := by
  rw [covariance_sub_left, covariance_comm l f, covariance_comm l g, covariance_sub_left,
    covariance_sub_left, covariance_comm l g f]
  ring

theorem covariance_zero_left (l : List ι) (g : ι → K) : covariance l (fun _ => 0) g = 0 := by
  have h := covariance_mul_left l 0 (fun _ => (0 : K)) g
  rw [zero_mul, zero_mul] at h
  exact h

/-- The parts of a sum share out its covariance. -/
theorem covariance_sum_left (l : List ι) (parts : List γ) (f : γ → ι → K) (g : ι → K) :
    covariance l (fun i => (parts.map (fun part => f part i)).sum) g =
      (parts.map (fun part => covariance l (f part) g)).sum := by
  induction parts with
  | nil => exact covariance_zero_left l g
  | cons part parts ih =>
    rw [List.map_cons, List.sum_cons, ← ih, ← covariance_add_left]
    rfl

end Linearity

section Bounds

variable [LinearOrder K] [IsStrictOrderedRing K]

theorem covariance_self_nonneg (l : List ι) (f : ι → K) (hl : l ≠ []) : 0 ≤ covariance l f f := by
  apply div_nonneg
  · apply List.sum_nonneg
    intro x hx
    obtain ⟨i, -, rfl⟩ := List.mem_map.1 hx
    exact mul_self_nonneg _
  · have hlength : 1 ≤ l.length := List.length_pos_of_ne_nil hl
    have hcast : (1 : K) ≤ l.length := by exact_mod_cast hlength
    exact sub_nonneg.2 hcast

theorem sum_mul_sq_le (l : List ι) (f g : ι → K) :
    (l.map (fun i => f i * g i)).sum ^ 2 ≤
      (l.map (fun i => f i * f i)).sum * (l.map (fun i => g i * g i)).sum := by
  rw [← Fin.sum_univ_fun_getElem, ← Fin.sum_univ_fun_getElem, ← Fin.sum_univ_fun_getElem]
  have hcauchy := Finset.sum_mul_sq_le_sq_mul_sq Finset.univ (fun k : Fin l.length => f l[k])
    (fun k : Fin l.length => g l[k])
  simp only [pow_two] at hcauchy ⊢
  exact hcauchy

/-- The square of a covariance is at most the product of the variances. -/
theorem covariance_sq_le (l : List ι) (f g : ι → K) :
    covariance l f g ^ 2 ≤ covariance l f f * covariance l g g := by
  rw [covariance, covariance, covariance, div_pow, div_mul_div_comm, ← pow_two]
  exact div_le_div_of_nonneg_right (sum_mul_sq_le l (fun i => f i - average l f)
    (fun i => g i - average l g)) (sq_nonneg _)

/-- A share of a deviation is at most the deviation of what it is the share of. -/
theorem covariance_div_sq_le (l : List ι) (f g : ι → K) (hσ : σ * σ = covariance l g g)
    (hne : σ ≠ 0) : (covariance l f g / σ) ^ 2 ≤ covariance l f f := by
  have hsquare : 0 < σ ^ 2 := by
    rw [pow_two]
    exact mul_self_pos.2 hne
  rw [div_pow, div_le_iff₀ hsquare, pow_two σ, hσ]
  exact covariance_sq_le l f g

omit [LinearOrder K] [IsStrictOrderedRing K] in
theorem sum_sq_sub (l : List ι) (f : ι → K) (c : K) :
    (l.map (fun i => (f i - c) * (f i - c))).sum =
      (l.map (fun i => f i * f i)).sum - (2 * c * (l.map f).sum - l.length * c ^ 2) := by
  induction l with
  | nil => simp
  | cons i l ih =>
    simp only [List.map_cons, List.sum_cons, List.length_cons, ih, Nat.cast_add, Nat.cast_one]
    ring

/-- Deviations from the average square to less than the values. -/
theorem sum_deviations_le (l : List ι) (f : ι → K) (hl : l ≠ []) :
    (l.map (fun i => (f i - average l f) * (f i - average l f))).sum ≤
      (l.map (fun i => f i * f i)).sum := by
  have hlength : (l.length : K) ≠ 0 := by
    rw [Nat.cast_ne_zero]
    exact fun h => hl (List.length_eq_zero_iff.1 h)
  have htotal : (l.map f).sum = l.length * average l f := (mul_div_cancel₀ _ hlength).symm
  have hsquare : 0 ≤ (l.length : K) * average l f ^ 2 :=
    mul_nonneg (Nat.cast_nonneg _) (sq_nonneg _)
  have hfactor : 2 * average l f * (l.length * average l f) - l.length * average l f ^ 2 =
      l.length * average l f ^ 2 := by ring
  rw [sum_sq_sub, htotal, hfactor]
  exact sub_le_self _ hsquare

/-- What stays within a bound has a variance within its square, but for the divisor. -/
theorem covariance_self_le (l : List ι) (f : ι → K) (hl : 2 ≤ l.length) (b : K)
    (h : ∀ i ∈ l, |f i| ≤ b) :
    covariance l f f ≤ b ^ 2 * (l.length / ((l.length : K) - 1)) := by
  have hne : l ≠ [] := List.ne_nil_of_length_pos (by omega)
  have hone : (1 : K) ≤ l.length := by exact_mod_cast (by omega : 1 ≤ l.length)
  have hsquares : (l.map (fun i => f i * f i)).sum ≤ l.length * b ^ 2 := by
    have hbound : ∀ x ∈ l.map (fun i => f i * f i), x ≤ b ^ 2 := by
      intro x hx
      obtain ⟨i, hi, rfl⟩ := List.mem_map.1 hx
      rw [← abs_mul_abs_self, ← pow_two]
      exact pow_le_pow_left₀ (abs_nonneg _) (h i hi) 2
    have hsum := List.sum_le_card_nsmul _ _ hbound
    rw [List.length_map, nsmul_eq_mul] at hsum
    exact hsum
  calc covariance l f f ≤ (l.map (fun i => f i * f i)).sum / ((l.length : K) - 1) :=
        div_le_div_of_nonneg_right (sum_deviations_le l f hne) (sub_nonneg.2 hone)
    _ ≤ l.length * b ^ 2 / ((l.length : K) - 1) :=
        div_le_div_of_nonneg_right hsquares (sub_nonneg.2 hone)
    _ = b ^ 2 * (l.length / ((l.length : K) - 1)) := by rw [mul_comm, mul_div_assoc]

end Bounds

end Sampling
