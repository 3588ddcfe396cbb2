import LotusRisk.Drawdown.Details

namespace LotusRisk
open RunningPeak
set_option autoImplicit true

theorem IsTrough.min?_eq {K : Type} [Field K] [LinearOrder K] {returns : Series Date K}
    (h : IsTrough returns t) : (drawdownFromReturns returns).values.min? =
      some (decline (wealthAt returns.values) (t + 1)) := by
  rw [List.min?_eq_some_iff, drawdownFromReturns_values]
  have hlen := returns.length_values
  refine ⟨List.mem_map.2 ⟨t, List.mem_range.2 (hlen ▸ h.inBounds), rfl⟩, ?_⟩
  intro x hx
  obtain ⟨i, hi, hxi⟩ := List.mem_map.1 hx
  rw [← hxi]
  exact h.deepest i (hlen ▸ List.mem_range.1 hi)

theorem IsTrough.isLeast_decline {K : Type} [Field K] [LinearOrder K] {returns : Series Date K}
    (h : IsTrough returns t) :
    IsLeast {x | ∃ i < returns.values.length, x = decline (wealthAt returns.values) (i + 1)}
      (decline (wealthAt returns.values) (t + 1)) := by
  have hlen := returns.length_values
  refine ⟨⟨t, hlen ▸ h.inBounds, rfl⟩, ?_⟩
  intro x hx
  obtain ⟨i, hi, hxi⟩ := hx
  rw [hxi]
  exact h.deepest i (hlen ▸ hi)

/-- The three maximum drawdowns are one number, and it is the deepest fall of the wealth path
between any two times while no return loses everything. -/
theorem maximum_drawdowns_agree (returns : Series Date ℚ) (h : returns.index ≠ []) :
    ∃ m details, (drawdownFromReturns returns).values.min? = some m ∧
      rollingMaxDrawdown (returns.values.map (fun r => r / 100)) = some m ∧
      drawdownDetails returns = some details ∧ details.maxDrawdown / 100 = m ∧
      ((∀ r ∈ returns.values, -100 < r) →
        IsLeast {x | ∃ s t, s ≤ t ∧ t ≤ returns.values.length ∧
          x = wealthAt returns.values t / wealthAt returns.values s - 1} m ∧ -1 < m ∧ m ≤ 0) := by
  have htrough := isTrough_argmin h
  obtain ⟨details, hdetails, hmax⟩ := exists_drawdownDetails htrough
  refine ⟨_, details, htrough.min?_eq, ?_, hdetails, ?_, ?_⟩
  · rw [rollingMaxDrawdown_eq, htrough.min?_eq]
  · rw [hmax, inPercent, mul_div_cancel_right₀ _ (by norm_num)]
  · intro hreturns
    have hpos := wealthAt_pos hreturns
    have hn : 0 < returns.values.length :=
      returns.length_values ▸ List.length_pos_of_ne_nil h
    refine ⟨?_, ?_, ?_⟩
    · exact RunningPeak.isLeast_decline (fun t _ => hpos t) hn htrough.isLeast_decline
    · exact neg_one_lt_decline (hpos 0) (hpos _)
    · exact decline_nonpos (hpos 0) _

/-- Two observations, the second a loss. -/
def gainThenLoss : Series Date ℚ where
  index := firstWeek.take 2
  values := [10, -5]
  length_values := rfl
  ascending := firstTwo_ascending

theorem maximum_drawdowns_agree_gainThenLoss :
    ∃ m details, (drawdownFromReturns gainThenLoss).values.min? = some m ∧
      rollingMaxDrawdown (gainThenLoss.values.map (fun r => r / 100)) = some m ∧
      drawdownDetails gainThenLoss = some details ∧ details.maxDrawdown / 100 = m ∧
      IsLeast {x | ∃ s t, s ≤ t ∧ t ≤ gainThenLoss.values.length ∧
        x = wealthAt gainThenLoss.values t / wealthAt gainThenLoss.values s - 1} m := by
  have hreturns : ∀ r ∈ gainThenLoss.values, -100 < r := by decide +kernel
  obtain ⟨m, details, hmin, hrolling, hdetails, hmax, hleast⟩ :=
    maximum_drawdowns_agree gainThenLoss (by decide)
  exact ⟨m, details, hmin, hrolling, hdetails, hmax, (hleast hreturns).1⟩

end LotusRisk
