import Mathlib.Algebra.Field.Defs
import Mathlib.Algebra.Order.Floor.Ring
import Mathlib.Data.List.Sort
import Mathlib.Algebra.Field.Basic
import Mathlib.Algebra.BigOperators.Group.List.Basic

namespace LotusRisk
set_option autoImplicit true

variable {K : Type} [Field K]

/-- `np.mean` of a non-empty list. -/
def mean (values : List K) : K := values.sum / values.length

theorem mean_of_constant [CharZero K] {values : List K} (hne : values ≠ [])
    (h : ∀ x ∈ values, x = c) : mean values = c := by
  have hlength : (values.length : K) ≠ 0 := by
    exact_mod_cast fun h => hne (List.length_eq_zero_iff.1 h)
  rw [mean, List.eq_replicate_of_mem h, List.sum_replicate, List.length_replicate, nsmul_eq_mul,
    mul_div_cancel_left₀ c hlength]

variable [LinearOrder K] [FloorRing K]

/-- `np.quantile(values, q, method="linear")` of a non-empty list. `none` stands for the
`ValueError` of a level outside the unit interval. -/
def quantile (values : List K) (q : K) : Option K :=
  if q < 0 ∨ 1 < q then none
  else
    let ordered := values.insertionSort (· ≤ ·)
    let virtualIndex := ((values.length : K) - 1) * q
    let previousIndex := ⌊virtualIndex⌋.toNat
    let nextIndex := min (previousIndex + 1) (values.length - 1)
    let previous := ordered.getD previousIndex 0
    let next := ordered.getD nextIndex 0
    some (previous + (next - previous) * (virtualIndex - previousIndex))

theorem exists_quantile (values : List K) (h₀ : 0 ≤ q) (h₁ : q ≤ 1) :
    ∃ value, quantile values q = some value := by
  unfold quantile
  rw [if_neg (not_or.2 ⟨not_lt.2 h₀, not_lt.2 h₁⟩)]
  exact ⟨_, rfl⟩

end LotusRisk
