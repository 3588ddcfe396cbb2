import Mathlib.Algebra.Group.Subgroup.ZPowers.Basic
import Mathlib.Algebra.Group.Submonoid.BigOperators
import Mathlib.Algebra.Order.BigOperators.Group.Multiset
import Mathlib.Algebra.Order.Field.Power
import Mathlib.Data.Int.Log
import LotusRisk.Python

/-! The arithmetic of `decimal`: exact results, rounded to the digits of a context. -/

namespace LotusRisk
set_option autoImplicit true

/-- What a context makes of an exact result; none is the signal `Overflow`. -/
structure DecimalContext (K : Type) where
  round : K → Option K

section Exactness

variable {K : Type} [Field K] [LinearOrder K] {context : DecimalContext K} {unit bound : K}

/-- The context rounds no multiple of the unit that is below the bound. -/
def DecimalContext.ExactBelow (context : DecimalContext K) (unit bound : K) : Prop :=
  ∀ x ∈ AddSubgroup.zmultiples unit, |x| < bound → context.round x = some x

omit [LinearOrder K] in
/-- A sum from the left, rounded at every term. -/
def DecimalContext.sum (context : DecimalContext K) (xs : List K) : Option K :=
  xs.foldlM (fun total x => context.round (total + x)) 0

omit [LinearOrder K] in
theorem DecimalContext.sum_concat (xs : List K) (x : K) :
    context.sum (xs ++ [x]) =
      (context.sum xs).bind (fun total => context.round (total + x)) := by
  rw [DecimalContext.sum, List.foldlM_append]
  simp only [List.foldlM_cons, List.foldlM_nil, bind_pure]
  rfl

/-- A sum whose terms stay below the bound together is not rounded. -/
theorem DecimalContext.ExactBelow.sum [IsStrictOrderedRing K]
    (h : context.ExactBelow unit bound) {xs : List K}
    (hxs : ∀ x ∈ xs, x ∈ AddSubgroup.zmultiples unit) (hbound : (xs.map abs).sum < bound) :
    context.sum xs = some xs.sum := by
  induction xs using List.reverseRecOn with
  | nil => rfl
  | append_singleton xs x ih =>
    have hterms : ∀ x ∈ xs, x ∈ AddSubgroup.zmultiples unit :=
      fun x hx => hxs x (List.mem_append_left _ hx)
    have hsplit : (xs.map abs).sum + |x| < bound := by
      rw [List.map_append, List.sum_append, List.map_singleton, List.sum_singleton] at hbound
      exact hbound
    have hlast := abs_nonneg x
    have hsum : |xs.sum| ≤ (xs.map abs).sum := Multiset.abs_sum_le_sum_abs (s := (xs : Multiset K))
    rw [DecimalContext.sum_concat, ih hterms (by linarith), Option.bind_some, List.sum_append,
      List.sum_singleton]
    apply h
    · exact add_mem (list_sum_mem hterms) (hxs x (by simp))
    · calc |xs.sum + x| ≤ |xs.sum| + |x| := abs_add_le _ _
        _ ≤ (xs.map abs).sum + |x| := add_le_add_left hsum _
        _ < bound := hsplit

end Exactness

section DefaultContext

/-- The unit of the last of 28 digits, or of the least exponent. -/
def lastDigit (x : ℚ) : ℤ := max (Int.log 10 |x| - 27) (-1000026)

/-- The default context: 28 digits, half to even, and exponents up to 999999. -/
def defaultContext : DecimalContext ℚ where
  round x :=
    let rounded := (roundHalfEven (x / 10 ^ lastDigit x) : ℚ) * 10 ^ lastDigit x
    if Int.log 10 |rounded| ≤ 999999 then some rounded else none

example : defaultContext.round (2 / 3) = some 0.6666666666666666666666666667 ∧
    defaultContext.round (10 ^ 28 + 5) = some (10 ^ 28) ∧
    defaultContext.round (10 ^ 1000000) = none := by decide +kernel

theorem roundHalfEven_intCast (m : ℤ) : roundHalfEven m = m := by
  unfold roundHalfEven
  rw [Int.floor_intCast, sub_self, if_pos (by norm_num)]

/-- Multiples of a power of ten that have at most 28 digits are kept. -/
theorem defaultContext_exactBelow {q : ℤ} (hlow : -1000026 ≤ q) (hhigh : q ≤ 999972) :
    defaultContext.ExactBelow (10 ^ q) (10 ^ (q + 28)) := by
  intro x hx hbound
  obtain ⟨m, rfl⟩ := AddSubgroup.mem_zmultiples_iff.1 hx
  rw [zsmul_eq_mul] at hbound ⊢
  have hunit : (0 : ℚ) < 10 ^ q := by positivity
  have hlog : Int.log 10 |(m : ℚ) * 10 ^ q| ≤ q + 27 ∨ m = 0 := by
    by_cases hzero : m = 0
    · exact .inr hzero
    · left
      have hpos : 0 < |(m : ℚ) * 10 ^ q| :=
        abs_pos.2 (mul_ne_zero (Int.cast_ne_zero.2 hzero) hunit.ne')
      have hlt := (Int.lt_zpow_iff_log_lt (b := 10) (by norm_num) hpos).1 hbound
      omega
  have hkept : (roundHalfEven ((m : ℚ) * 10 ^ q / 10 ^ lastDigit (m * 10 ^ q)) : ℚ) *
      10 ^ lastDigit (m * 10 ^ q) = m * 10 ^ q := by
    rcases hlog with hlog | rfl
    · have hdigit : lastDigit (m * 10 ^ q) ≤ q := by
        unfold lastDigit
        omega
      obtain ⟨n, hn⟩ := Int.le.dest hdigit
      have hwhole : (m : ℚ) * 10 ^ q / 10 ^ lastDigit (m * 10 ^ q) = (m * 10 ^ n : ℤ) := by
        rw [div_eq_iff (by positivity)]
        nth_rewrite 1 [← hn]
        rw [zpow_add₀ (by norm_num), zpow_natCast]
        push_cast
        ring
      rw [hwhole, roundHalfEven_intCast, ← hwhole, div_mul_cancel₀ _ (by positivity)]
    · rw [Int.cast_zero, zero_mul, zero_div]
      have hround := roundHalfEven_intCast 0
      rw [Int.cast_zero] at hround
      rw [hround, Int.cast_zero, zero_mul]
  have hsize : Int.log 10 |(m : ℚ) * 10 ^ q| ≤ 999999 := by
    rcases hlog with hlog | rfl
    · omega
    · rw [Int.cast_zero, zero_mul, abs_zero, Int.log_zero_right]
      norm_num
  change (if Int.log 10 |_| ≤ 999999 then some _ else none) = _
  rw [hkept, if_pos hsize]

end DefaultContext

end LotusRisk
