import Mathlib.Data.List.Sort
import LotusRisk.Python

/-! The measures of concentration over the exposures of a portfolio, which are floats. -/

namespace LotusRisk
set_option autoImplicit true

/-- The further operations on exposures. A metric that is not finite has no difference to itself. -/
class ExposureFloat (F : Type) extends PyFloat F where
  /-- `float(value)` of a Decimal or an integer. -/
  ofRat : ℚ → F
  div : F → F → F
  isFinite : F → Bool
  /-- `sorted(values, reverse=True)`. -/
  sortedDescending : List F → List F
  sum_nil : PyFloat.sum ([] : List F) = zero
  eq_zero_zero : eq zero zero = true
  round6_zero : round6 zero = zero
  round6_sub_self : ∀ x, isFinite x = true → round6 (sub x x) = zero
  isFinite_of_round6 : ∀ x, isFinite (round6 x) = true → isFinite x = true

section ExactArithmetic

theorem roundSix_sub_self (x : ℚ) : roundSix (x - x) = 0 := by
  rw [sub_self]
  decide +kernel

instance : ExposureFloat ℚ where
  ofRat x := x
  div := (· / ·)
  isFinite _ := true
  sortedDescending values := values.insertionSort (· ≥ ·)
  sum_nil := rfl
  eq_zero_zero := by decide
  round6_zero := by decide +kernel
  round6_sub_self x _ := roundSix_sub_self x
  isFinite_of_round6 _ _ := rfl

@[simp] theorem rat_ofRat (x : ℚ) : (ExposureFloat.ofRat x : ℚ) = x := rfl
@[simp] theorem rat_div (x y : ℚ) : ExposureFloat.div x y = x / y := rfl
@[simp] theorem rat_sortedDescending (values : List ℚ) :
    ExposureFloat.sortedDescending values = values.insertionSort (· ≥ ·) := rfl

end ExactArithmetic

section Measures

variable {F : Type} [ExposureFloat F]

/-- `_to_exposure_value`. -/
def toExposureValue (value : ℚ) : F := ExposureFloat.ofRat value

def exposureTotal (values : List F) : F := PyFloat.sum (values.map PyFloat.abs)

/-- The weight of an exposure in a total. -/
def shareOf (total value : F) : F := ExposureFloat.div (PyFloat.abs value) total

theorem exposureTotal_nil_le : PyFloat.le (exposureTotal ([] : List F)) PyFloat.zero = true := by
  rw [exposureTotal, List.map_nil, ExposureFloat.sum_nil, PyFloat.le, ExposureFloat.eq_zero_zero,
    Bool.or_true]

/-- `_compute_hhi`. -/
def computeHhi (values : List F) : F :=
  let total := exposureTotal values
  if PyFloat.le total PyFloat.zero then PyFloat.zero
  else
    let weights := values.map (shareOf total)
    PyFloat.mul (PyFloat.sum (weights.map fun w => PyFloat.mul w w)) (ExposureFloat.ofRat 10000)

/-- `_single_position_metrics`: the greatest weight, and the sum of the `top_n` greatest. -/
def singlePositionMetrics (values : List F) (topN : Nat) : F × F :=
  let total := exposureTotal values
  if PyFloat.le total PyFloat.zero then (PyFloat.zero, PyFloat.zero)
  else
    let weights := ExposureFloat.sortedDescending (values.map (shareOf total))
    (weights.headD PyFloat.zero, PyFloat.sum (weights.take topN))

/-- The order of two keys of an exposure and a text: a greater text decides between equal
exposures. -/
def leads (key other : F × String) : Bool :=
  if PyFloat.eq key.1 other.1 then decide (other.2 < key.2) else PyFloat.lt other.1 key.1

/-- `max(entries, key=key)`: the first entry that none leads. -/
def topEntry (key : α → F × String) : List α → Option α
  | [] => none
  | entry :: entries =>
    some (entries.foldl (fun top other => if leads (key other) (key top) then other else top) entry)

/-- `_coverage_ratio`. -/
def coverageRatio (covered total : Nat) : F :=
  if total = 0 then PyFloat.zero
  else PyFloat.round6 (ExposureFloat.div (ExposureFloat.ofRat covered) (ExposureFloat.ofRat total))

end Measures

end LotusRisk
