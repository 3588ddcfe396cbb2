import Mathlib.Analysis.SpecialFunctions.Pow.Real

/-! Rates per period and per year, over the reals. -/

namespace Compounding
set_option autoImplicit true

/-- The rate of a year of `n` periods at `rate` each. -/
noncomputable def annualOf (rate : ℝ) (n : ℕ) : ℝ := (1 + rate) ^ n - 1

/-- The rate of each of `n` periods that compound to `rate`. -/
noncomputable def periodicOf (rate : ℝ) (n : ℕ) : ℝ := (1 + rate) ^ (1 / (n : ℝ)) - 1

theorem annualOf_periodicOf (h : -1 ≤ rate) (hn : n ≠ 0) :
    annualOf (periodicOf rate n) n = rate := by
  have hbase : 0 ≤ 1 + rate := by linarith
  unfold annualOf periodicOf
  rw [add_sub_cancel, one_div, Real.rpow_inv_natCast_pow hbase hn, add_sub_cancel_left]

theorem neg_one_lt_periodicOf (h : -1 < rate) (n : ℕ) : -1 < periodicOf rate n := by
  have hbase : 0 < 1 + rate := by linarith
  have hpos := Real.rpow_pos_of_pos hbase (1 / (n : ℝ))
  unfold periodicOf
  linarith

theorem neg_one_lt_annualOf (h : -1 < rate) (n : ℕ) : -1 < annualOf rate n := by
  have hbase : 0 < 1 + rate := by linarith
  have hpos := pow_pos hbase n
  unfold annualOf
  linarith

/-- Compounding over different numbers of periods gives one annual rate for the zero rate only. -/
theorem annualOf_eq_annualOf (h : -1 < rate) :
    annualOf rate m = annualOf rate n ↔ rate = 0 ∨ m = n := by
  have hbase : 0 < 1 + rate := by linarith
  unfold annualOf
  rw [sub_left_inj]
  constructor
  · intro heq
    by_cases hone : 1 + rate = 1
    · exact .inl (by linarith)
    · exact .inr ((pow_right_inj₀ hbase hone).1 heq)
  · rintro (hzero | rfl)
    · rw [hzero, add_zero, one_pow, one_pow]
    · rfl

end Compounding
