import LotusRisk.Drawdown.Summary
import LotusRisk.Quantile

/-! Drawdown at risk and conditional drawdown at risk are ordered, and monotone in the level. -/

namespace LotusRisk
set_option autoImplicit true

open OrderStatistics

variable {K : Type} [Field K] [LinearOrder K] [IsStrictOrderedRing K] [FloorRing K]

/-- The tail measures at one level: what is returned, and its order. -/
structure TailMeasures (depths : List K) (alpha dar cdar : K) : Prop where
  returned : tailDrawdownRisk depths alpha = some (some dar, some cdar)
  lowest_le : ∃ low, depths.min? = some low ∧ low ≤ cdar
  conditional_le : cdar ≤ dar
  le_highest : ∃ high, depths.max? = some high ∧ dar ≤ high

omit [IsStrictOrderedRing K] in
/-- Where the tail has a depth, its mean is returned. -/
theorem tailDrawdownRisk_eq {depths : List K} (hne : depths ≠ [])
    (hdar : quantile depths (1 - alpha) = some dar) (htail : tail depths dar ≠ []) :
    tailDrawdownRisk depths alpha = some (some dar, some (average (tail depths dar))) := by
  have hworst : ¬(depths.filter (fun depth => depth ≤ dar)).isEmpty = true := by
    rw [List.isEmpty_iff]
    exact htail
  rw [tailDrawdownRisk, if_neg (by rwa [List.isEmpty_iff]), hdar, Option.bind_eq_bind,
    Option.bind_some]
  change some (some dar, if (depths.filter (fun depth => depth ≤ dar)).isEmpty then none else _) = _
  rw [if_neg hworst]
  rfl

theorem tail_quantile_ne_nil {depths : List K} (hne : depths ≠ []) (h₀ : 0 ≤ q) (h₁ : q ≤ 1)
    (hdar : quantile depths q = some dar) : tail depths dar ≠ [] := by
  obtain ⟨x, hx, hle⟩ := (quantile_between hne h₀ h₁ hdar).1
  exact List.ne_nil_of_mem (mem_tail.2 ⟨hx, hle⟩)

theorem tailMeasures_of_quantile {depths : List K} (hne : depths ≠ []) (h₀ : 0 < alpha)
    (h₁ : alpha < 1) (hdar : quantile depths (1 - alpha) = some dar) :
    TailMeasures depths alpha dar (average (tail depths dar)) := by
  have hlow : 0 ≤ 1 - alpha := sub_nonneg.2 h₁.le
  have hhigh : 1 - alpha ≤ 1 := sub_le_self 1 h₀.le
  have htail := tail_quantile_ne_nil hne hlow hhigh hdar
  obtain ⟨y, hy, hle⟩ := (quantile_between hne hlow hhigh hdar).2
  obtain ⟨low, hmin⟩ : ∃ low, depths.min? = some low := by
    rw [← Option.isSome_iff_exists, List.isSome_min?_iff]
    exact hne
  obtain ⟨high, hmax⟩ : ∃ high, depths.max? = some high := by
    rw [← Option.isSome_iff_exists, List.isSome_max?_iff]
    exact hne
  have hlowest : low ≤ average (tail depths dar) := by
    apply le_average htail
    intro x hx
    exact (List.min?_eq_some_iff.1 hmin).2 x (mem_tail.1 hx).1
  have hconditional : average (tail depths dar) ≤ dar := by
    apply average_le htail
    intro x hx
    exact (mem_tail.1 hx).2
  exact ⟨tailDrawdownRisk_eq hne hdar htail, ⟨low, hmin, hlowest⟩, hconditional, high, hmax,
    hle.trans ((List.max?_eq_some_iff.1 hmax).2 y hy)⟩

/-- The tail measures are ordered, and a more extreme level gives no shallower one. -/
theorem tail_drawdown_ordered (depths : List K) (a₁ a₂ : K) (hne : depths ≠ []) (h₀ : 0 < a₁)
    (ha : a₁ ≤ a₂) (h₁ : a₂ < 1) :
    ∃ dar₁ cdar₁ dar₂ cdar₂, TailMeasures depths a₁ dar₁ cdar₁ ∧
      TailMeasures depths a₂ dar₂ cdar₂ ∧ dar₂ ≤ dar₁ ∧ cdar₂ ≤ cdar₁ := by
  have hlow : 0 ≤ 1 - a₂ := sub_nonneg.2 h₁.le
  have hle : 1 - a₂ ≤ 1 - a₁ := sub_le_sub_left ha 1
  have hhigh : 1 - a₁ ≤ 1 := sub_le_self 1 h₀.le
  obtain ⟨dar₁, hdar₁⟩ := exists_quantile depths (hlow.trans hle) hhigh
  obtain ⟨dar₂, hdar₂⟩ := exists_quantile depths hlow (hle.trans hhigh)
  have hdar := quantile_mono hne hlow hle hhigh hdar₂ hdar₁
  have htail := tail_quantile_ne_nil hne hlow (hle.trans hhigh) hdar₂
  exact ⟨dar₁, _, dar₂, _, tailMeasures_of_quantile hne h₀ (ha.trans_lt h₁) hdar₁,
    tailMeasures_of_quantile hne (h₀.trans_le ha) h₁ hdar₂, hdar, average_tail_mono hdar htail⟩

theorem tail_drawdown_ordered_three : ∃ dar₁ cdar₁ dar₂ cdar₂,
    TailMeasures ([-3, 0, -1] : List ℚ) (1 / 2) dar₁ cdar₁ ∧
      TailMeasures [-3, 0, -1] (19 / 20) dar₂ cdar₂ ∧ dar₂ ≤ dar₁ ∧ cdar₂ ≤ cdar₁ :=
  tail_drawdown_ordered [-3, 0, -1] (1 / 2) (19 / 20) (by decide) (by norm_num) (by norm_num)
    (by norm_num)

end LotusRisk
