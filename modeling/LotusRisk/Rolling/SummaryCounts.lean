import LotusRisk.Risk.ValueAtRisk
import LotusRisk.Rolling.MetricOutputs

/-! The counts of a rolling summary partition the points of the series. -/

namespace LotusRisk
set_option autoImplicit true

open TrailingWindows

variable {K : Type} [Field K] [LinearOrder K] [FloorRing K]

/-- What the counts of a summary say of the series: its points are those computed and those not,
and the latter are the warm-up and the gaps after it. -/
structure CountsPartition (values : RollingValues K) (minObs : Int)
    (summary : RollingMetricSummary K) : Prop where
  total : summary.totalPointCount = values.values.length
  computed : summary.computedPointCount = values.values.countP Option.isSome
  non_computed : summary.nonComputedPointCount = values.values.countP Option.isNone
  partition : summary.totalPointCount = summary.computedPointCount + summary.nonComputedPointCount
  warmup : summary.warmupPointCount = min summary.totalPointCount (minObs - 1)
  warmup_non_computed : WarmsUp summary.warmupPointCount.toNat values.values
  gaps : summary.postWarmupGapPointCount =
    (values.values.drop summary.warmupPointCount.toNat).countP Option.isNone
  warmup_and_gaps :
    summary.warmupPointCount + summary.postWarmupGapPointCount = summary.nonComputedPointCount

/-- Whether or not a point is computed, a summary holds the counts. -/
theorem rollingMetricSummary_counts (values : RollingValues K) (minObs : Int) :
    let counts := rollingMetricSummaryCounts values values.dropna minObs
    let summary := rollingMetricSummary values minObs
    summary.totalPointCount = counts.totalPointCount ∧
      summary.computedPointCount = counts.computedPointCount ∧
      summary.warmupPointCount = counts.warmupPointCount ∧
      summary.nonComputedPointCount = counts.nonComputedPointCount ∧
      summary.postWarmupGapPointCount = counts.postWarmupGapPointCount := by
  intro counts summary
  by_cases hempty : values.dropna.isEmpty = true
  · have hsummary : summary = emptyRollingMetricSummary counts minObs := by
      simp only [summary, rollingMetricSummary, if_pos hempty, counts]
    have hnone : counts.computedPointCount = 0 := by
      have hlength := values.dropna.length_values
      rw [List.isEmpty_iff.1 hempty, List.length_nil] at hlength
      exact congrArg Nat.cast hlength
    rw [hsummary]
    exact ⟨rfl, hnone.symm, rfl, rfl, rfl⟩
  · simp only [summary, rollingMetricSummary, if_neg hempty, counts, and_self]

omit [Field K] [LinearOrder K] [FloorRing K] in
theorem countP_isSome_add_isNone (l : List (Option K)) :
    l.countP Option.isSome + l.countP Option.isNone = l.length := by
  rw [List.length_eq_countP_add_countP Option.isSome]
  congr 1
  apply List.countP_congr
  intro x _
  cases x <;> simp

theorem countsPartition_of_warmsUp {values : RollingValues K}
    (h : WarmsUp (minObs.toNat - 1) values.values) (hminimum : 1 ≤ minObs) :
    CountsPartition values minObs (rollingMetricSummary values minObs) := by
  obtain ⟨htotal, hcomputed, hwarmup, hnone, hgap⟩ := rollingMetricSummary_counts values minObs
  have hall := countP_isSome_add_isNone values.values
  have hclean := values.length_dropna
  simp only [rollingMetricSummaryCounts, hclean] at htotal hcomputed hwarmup hnone hgap
  have hleading : WarmsUp (rollingMetricSummary values minObs).warmupPointCount.toNat
      values.values := by
    apply h.mono
    omega
  have hsplit := hleading.countP_none
  constructor
  · exact htotal
  · exact hcomputed
  · omega
  · omega
  · omega
  · exact hleading
  · omega
  · omega

/-- The warm-up and the gaps are the points that are not computed, for every metric. -/
theorem rolling_summary_counts_partition (math : PyMath K) (metric : RollingMetric)
    (policy : MinObservationsPolicy) (portfolio benchmark riskFree : Series Date K)
    (windowLength : Int) (annualizationBasis : Nat) (hwindow : 1 < windowLength) :
    ∃ calculation,
      calculateRollingMetricValues math
        { portfolioDecimal := portfolio
          benchmarkDecimal := benchmark
          riskFreeDecimal := riskFree
          windowLength := windowLength
          annualizationBasis := annualizationBasis
          minObs := minObservations windowLength policy } metric = .ok calculation ∧
      CountsPartition calculation.values (minObservations windowLength policy)
        (rollingMetricSummary calculation.values (minObservations windowLength policy)) := by
  have hvalid : validateRolling (⟨portfolio, benchmark, riskFree, windowLength, annualizationBasis,
      minObservations windowLength policy⟩ : RollingMetricCalculationContext K) = .ok () :=
    validateRolling_minObservations hwindow rfl
  obtain ⟨calculation, hcalculation, hrolls⟩ := calculateRollingMetricValues_returns hvalid metric
  have hminimum : 1 ≤ minObservations windowLength policy := by
    cases policy with
    | strict => exact hwindow.le
    | allowPartial => exact (by decide : (1 : Int) ≤ 2)
  exact ⟨calculation, hcalculation, countsPartition_of_warmsUp hrolls.warmsUp hminimum⟩

/-- A decimal series of three days. -/
def threeDayReturns : Series Date ℚ :=
  Series.ofPoints [(⟨2026, 2, 2, by decide⟩, 1 / 100), (⟨2026, 2, 3, by decide⟩, -1 / 100),
    (⟨2026, 2, 4, by decide⟩, 1 / 50)] (by decide)

theorem rolling_summary_counts_partition_three : 1 < (2 : Int) ∧ ∃ calculation,
    calculateRollingMetricValues rationalMath
      { portfolioDecimal := threeDayReturns
        benchmarkDecimal := threeDayReturns
        riskFreeDecimal := threeDayReturns
        windowLength := 2
        annualizationBasis := 1
        minObs := minObservations 2 .strict } .rollingMaxDrawdown = .ok calculation ∧
    CountsPartition calculation.values (minObservations 2 .strict)
      (rollingMetricSummary calculation.values (minObservations 2 .strict)) :=
  ⟨by decide, rolling_summary_counts_partition rationalMath .rollingMaxDrawdown .strict
    threeDayReturns threeDayReturns threeDayReturns 2 1 (by decide)⟩

end LotusRisk
