import LotusRisk.Lib.OrderStatistics
import LotusRisk.Statistics

/-! The linear quantile is an interpolated order statistic of the sorted values. -/

namespace LotusRisk
set_option autoImplicit true

open OrderStatistics

variable {K : Type} [Field K] [LinearOrder K] [FloorRing K]

/-- The position of a quantile among the sorted values. -/
def quantilePosition (values : List K) (q : K) : K :=
  (((values.insertionSort (· ≤ ·)).length : K) - 1) * q

theorem quantile_eq_interpolate (values : List K) (h₀ : 0 ≤ q) (h₁ : q ≤ 1) :
    quantile values q =
      some (interpolate (values.insertionSort (· ≤ ·)) (quantilePosition values q)) := by
  have hlength : (values.insertionSort (· ≤ ·)).length = values.length :=
    List.length_insertionSort _ _
  rw [quantile, if_neg (not_or.2 ⟨not_lt.2 h₀, not_lt.2 h₁⟩), interpolate, quantilePosition,
    hlength]

variable [IsStrictOrderedRing K]

omit [FloorRing K] in
theorem quantilePosition_bounds {values : List K} (hne : values ≠ []) (h₀ : 0 ≤ q)
    (h₁ : q ≤ 1) : 0 ≤ quantilePosition values q ∧
      quantilePosition values q ≤ ((values.insertionSort (· ≤ ·)).length : K) - 1 := by
  have hlength : (1 : K) ≤ (values.insertionSort (· ≤ ·)).length := by
    rw [List.length_insertionSort, Nat.one_le_cast]
    exact List.length_pos_of_ne_nil hne
  have hwidth : 0 ≤ ((values.insertionSort (· ≤ ·)).length : K) - 1 := sub_nonneg.2 hlength
  exact ⟨mul_nonneg hwidth h₀, mul_le_of_le_one_right hwidth h₁⟩

/-- A higher level gives a quantile that is not lower. -/
theorem quantile_mono {values : List K} (hne : values ≠ []) (h₀ : 0 ≤ p) (hpq : p ≤ q)
    (h₁ : q ≤ 1) (hv : quantile values p = some v) (hw : quantile values q = some w) : v ≤ w := by
  rw [quantile_eq_interpolate values h₀ (hpq.trans h₁), Option.some.injEq] at hv
  rw [quantile_eq_interpolate values (h₀.trans hpq) h₁, Option.some.injEq] at hw
  have hlow := quantilePosition_bounds hne h₀ (hpq.trans h₁)
  have hhigh := quantilePosition_bounds hne (h₀.trans hpq) h₁
  rw [← hv, ← hw]
  apply interpolate_mono (List.pairwise_insertionSort (· ≤ ·) values) hlow.1 _ hhigh.2
  exact mul_le_mul_of_nonneg_left hpq (hhigh.1.trans hhigh.2)

/-- A quantile lies between two of the values. -/
theorem quantile_between {values : List K} (hne : values ≠ []) (h₀ : 0 ≤ q) (h₁ : q ≤ 1)
    (hv : quantile values q = some v) : (∃ x ∈ values, x ≤ v) ∧ ∃ y ∈ values, v ≤ y := by
  rw [quantile_eq_interpolate values h₀ h₁, Option.some.injEq] at hv
  obtain ⟨hlow, hhigh⟩ := quantilePosition_bounds hne h₀ h₁
  obtain ⟨⟨x, hx, hxv⟩, y, hy, hvy⟩ :=
    interpolate_between (List.pairwise_insertionSort (· ≤ ·) values) hlow hhigh
  have hmem {x : K} : x ∈ values.insertionSort (· ≤ ·) ↔ x ∈ values :=
    (List.perm_insertionSort (· ≤ ·) values).mem_iff
  rw [hv] at hxv hvy
  exact ⟨⟨x, hmem.1 hx, hxv⟩, y, hmem.1 hy, hvy⟩

end LotusRisk
