import LotusRisk.Lib.SampleCovariance
import LotusRisk.Attribution.Decomposition
import LotusRisk.Attribution.GroupEvidenceSoundness
import LotusRisk.Risk.Engine
import Mathlib.Analysis.SpecialFunctions.Pow.Real

/-! The components of total risk add up to it, within what the evidence leaves unexplained. -/

namespace LotusRisk
set_option autoImplicit true

open Relational
open Raising
open Latest

variable {K : Type} [Field K] [LinearOrder K]

section Covariance

omit [LinearOrder K] in
theorem sampleCovariance_map (index : List Date) (f g : Date → K) :
    sampleCovariance (index.map f) (index.map g) = Sampling.covariance index f g := by
  rw [sampleCovariance, Sampling.covariance, List.zipWith_map, List.zipWith_self,
    List.length_map]
  have hmean : ∀ h : Date → K, mean (index.map h) = Sampling.average index h := by
    intro h
    rw [mean, List.length_map]
    rfl
  rw [hmean, hmean]

omit [LinearOrder K] in
/-- The value of a series on a date of its index. -/
def seriesAt (series : Series Date K) (date : Date) : K := (series.loc date).getD 0

omit [LinearOrder K] in
theorem values_eq_map (series : Series Date K) :
    series.values = series.index.map (seriesAt series) := by
  apply List.ext_getElem
  · rw [List.length_map, series.length_values]
  · intro i hi hj
    have hindex : i < series.index.length := by rw [← series.length_values]; exact hi
    rw [List.getElem_map, seriesAt, Series.loc_index hindex, List.getElem?_eq_getElem hi]
    rfl

/-- The square root of what is not negative. -/
def PyMath.IsSquareRoot (math : PyMath K) : Prop := ∀ x, 0 ≤ x → math.sqrt x * math.sqrt x = x

variable [IsStrictOrderedRing K] {math : PyMath K}

theorem sampleStd_mul_self (hsqrt : math.IsSquareRoot) (series : Series Date K)
    (hne : series.index ≠ []) :
    sampleStd math series.values * sampleStd math series.values =
      Sampling.covariance series.index (seriesAt series) (seriesAt series) := by
  rw [sampleStd, values_eq_map, sampleCovariance_map]
  exact hsqrt _ (Sampling.covariance_self_nonneg _ _ hne)

end Covariance

section Residual

variable {math : PyMath K} {inputs : AttributionCalculationInputs K}

omit [LinearOrder K] in
/-- What the groups of a matrix contribute on a date. -/
def Frame.total (frame : Frame K) (date : Date) : K :=
  (frame.columns.map fun column => column.2 date).sum

/-- The inputs relate one matrix of contributions to the series of their index. -/
structure AttributionCalculationInputs.Coherent (inputs : AttributionCalculationInputs K)
    (math : PyMath K) (basis : Nat) : Prop where
  index_eq : inputs.groupMatrix.index = inputs.metricSeries.index
  total_eq : inputs.riskTotal = sampleStd math inputs.metricSeries.values * math.sqrt basis

theorem componentDecomposition_eq (hcoherent : inputs.Coherent math basis)
    (hmetric : inputs.metricSeries.isEmpty = false)
    (hstd : isCloseToZero (sampleStd math inputs.metricSeries.values) = false) :
    componentDecomposition math inputs.groupMatrix inputs.weightMatrix inputs.metricSeries
      inputs.riskTotal basis = inputs.groupMatrix.columns.map fun column =>
        componentDecompositionRow math column.1 (inputs.groupMatrix.valuesOf column.2)
          ((observedMeans inputs.weightMatrix).getD column.1 none) inputs.metricSeries.values
          inputs.riskTotal basis (sampleStd math inputs.metricSeries.values) := by
  have hindex : inputs.groupMatrix.index.isEmpty = false := by
    rw [hcoherent.index_eq]
    exact hmetric
  rw [componentDecomposition, Frame.isEmpty, hindex, hmetric]
  -- Without a column there is nothing to decompose, and no row either way.
  cases hcolumns : inputs.groupMatrix.columns with
  | nil => rfl
  | cons column columns =>
    simp only [hstd, List.isEmpty_cons, Bool.or_self, Bool.false_eq_true, if_false]

theorem componentDecomposition_flat
    (hstd : isCloseToZero (sampleStd math inputs.metricSeries.values) = true) :
    componentDecomposition math inputs.groupMatrix inputs.weightMatrix inputs.metricSeries
      inputs.riskTotal basis = [] := by
  rw [componentDecomposition]
  simp only [hstd, if_true, ite_self]

theorem component_eq (hcoherent : inputs.Coherent math basis) (column : Date → K) :
    sampleCovariance (inputs.groupMatrix.valuesOf column) inputs.metricSeries.values =
      Sampling.covariance inputs.metricSeries.index column (seriesAt inputs.metricSeries) := by
  rw [values_eq_map inputs.metricSeries, Frame.valuesOf, hcoherent.index_eq, sampleCovariance_map]

/-- The sum that a set is reconciled to. -/
def AttributionCalculationInputs.reconciledSum (inputs : AttributionCalculationInputs K)
    (math : PyMath K) (basis : Nat) : K :=
  ((componentDecomposition math inputs.groupMatrix inputs.weightMatrix inputs.metricSeries
    inputs.riskTotal basis).map fun row => row.componentContribution.getD 0).sum

theorem reconciledSum_flat
    (hstd : isCloseToZero (sampleStd math inputs.metricSeries.values) = true) :
    inputs.reconciledSum math basis = 0 := by
  rw [AttributionCalculationInputs.reconciledSum, componentDecomposition_flat hstd]
  rfl

/-- The components add up to the covariance of what the groups contribute. -/
theorem reconciledSum_eq (hcoherent : inputs.Coherent math basis)
    (hmetric : inputs.metricSeries.isEmpty = false)
    (hstd : isCloseToZero (sampleStd math inputs.metricSeries.values) = false) :
    inputs.reconciledSum math basis =
      Sampling.covariance inputs.metricSeries.index inputs.groupMatrix.total
        (seriesAt inputs.metricSeries) / sampleStd math inputs.metricSeries.values *
          math.sqrt basis := by
  have hsum := Sampling.covariance_sum_left inputs.metricSeries.index inputs.groupMatrix.columns
    (fun column => column.2) (seriesAt inputs.metricSeries)
  rw [AttributionCalculationInputs.reconciledSum, componentDecomposition_eq hcoherent hmetric hstd,
    List.map_map, show inputs.groupMatrix.total = fun date =>
      (inputs.groupMatrix.columns.map fun column => column.2 date).sum from rfl, hsum,
    div_eq_mul_inv, ← List.sum_map_mul_right, ← List.sum_map_mul_right]
  apply congrArg
  apply List.map_congr_left
  intro column _
  simp only [Function.comp_apply, componentDecompositionRow, Option.getD_some,
    component_eq hcoherent, div_eq_mul_inv]

variable [IsStrictOrderedRing K]

/-- The residual is what the returns that no group explains share with the portfolio. -/
theorem residual_eq (hsqrt : math.IsSquareRoot) (hcoherent : inputs.Coherent math basis)
    (hmetric : inputs.metricSeries.isEmpty = false)
    (hstd : isCloseToZero (sampleStd math inputs.metricSeries.values) = false) :
    inputs.riskTotal - inputs.reconciledSum math basis =
      Sampling.covariance inputs.metricSeries.index
        (fun date => seriesAt inputs.metricSeries date - inputs.groupMatrix.total date)
        (seriesAt inputs.metricSeries) / sampleStd math inputs.metricSeries.values *
          math.sqrt basis := by
  have hne : inputs.metricSeries.index ≠ [] := by
    intro h
    rw [Series.isEmpty, h] at hmetric
    cases hmetric
  rw [reconciledSum_eq hcoherent hmetric hstd, hcoherent.total_eq, Sampling.covariance_sub_left,
    sub_div, sub_mul, ← sampleStd_mul_self hsqrt _ hne, mul_self_div_self]

theorem sqrt_le_sqrt (hsqrt : math.IsSquareRoot) (hx : 0 ≤ x) (hxy : x ≤ y) :
    math.sqrt x ≤ math.sqrt y := by
  rw [mul_self_le_mul_self_iff (math.sqrt_nonneg x) (math.sqrt_nonneg y), hsqrt x hx,
    hsqrt y (hx.trans hxy)]
  exact hxy

theorem ne_zero_of_not_close {x : K} (h : isCloseToZero x = false) : x ≠ 0 := by
  intro hzero
  have hclose := of_decide_eq_false h
  rw [hzero, abs_zero] at hclose
  apply hclose
  positivity

/-- Returns that the groups explain up to `b` leave a residual of that size. -/
theorem abs_residual_le (hsqrt : math.IsSquareRoot) (hcoherent : inputs.Coherent math basis)
    (hlength : 2 ≤ inputs.metricSeries.index.length) (hb : 1 / ((100000000 : Nat) : K) ≤ b)
    (h : ∀ date ∈ inputs.metricSeries.index,
      |seriesAt inputs.metricSeries date - inputs.groupMatrix.total date| ≤ b) :
    |inputs.riskTotal - inputs.reconciledSum math basis| ≤
      b * math.sqrt (basis * (inputs.metricSeries.index.length /
        ((inputs.metricSeries.index.length : K) - 1))) := by
  have hb0 : 0 ≤ b := le_trans (by positivity) hb
  have hlong : (2 : K) ≤ inputs.metricSeries.index.length := by exact_mod_cast hlength
  have hdivisor : (0 : K) < (inputs.metricSeries.index.length : K) - 1 := by linarith
  have hratio : (1 : K) ≤ inputs.metricSeries.index.length /
      ((inputs.metricSeries.index.length : K) - 1) := by
    rw [le_div_iff₀ hdivisor]
    linarith
  have hbasis : (0 : K) ≤ basis := Nat.cast_nonneg basis
  have hscaled : (0 : K) ≤ basis * (inputs.metricSeries.index.length /
      ((inputs.metricSeries.index.length : K) - 1)) :=
    mul_nonneg hbasis (zero_le_one.trans hratio)
  cases hstd : isCloseToZero (sampleStd math inputs.metricSeries.values) with
  | true =>
    have hflat : |sampleStd math inputs.metricSeries.values| ≤ b :=
      (of_decide_eq_true hstd).trans hb
    rw [reconciledSum_flat hstd, sub_zero, hcoherent.total_eq, abs_mul,
      abs_of_nonneg (math.sqrt_nonneg _)]
    apply mul_le_mul hflat (sqrt_le_sqrt hsqrt hbasis _) (math.sqrt_nonneg _) hb0
    exact le_mul_of_one_le_right hbasis hratio
  | false =>
    have hne : inputs.metricSeries.index ≠ [] := List.ne_nil_of_length_pos (by omega)
    have hmetric : inputs.metricSeries.isEmpty = false := List.isEmpty_eq_false_iff.2 hne
    have hshare := Sampling.covariance_div_sq_le inputs.metricSeries.index
      (fun date => seriesAt inputs.metricSeries date - inputs.groupMatrix.total date)
      (seriesAt inputs.metricSeries) (sampleStd_mul_self hsqrt inputs.metricSeries hne)
      (ne_zero_of_not_close hstd)
    have hunexplained := Sampling.covariance_self_le inputs.metricSeries.index _ hlength b h
    rw [residual_eq hsqrt hcoherent hmetric hstd]
    apply abs_le_of_sq_le_sq _ (mul_nonneg hb0 (math.sqrt_nonneg _))
    rw [mul_pow, mul_pow, pow_two (math.sqrt _), pow_two (math.sqrt _), hsqrt _ hbasis,
      hsqrt _ hscaled]
    calc _ ≤ b ^ 2 * (inputs.metricSeries.index.length /
            ((inputs.metricSeries.index.length : K) - 1)) * basis :=
          mul_le_mul_of_nonneg_right (hshare.trans hunexplained) hbasis
      _ = _ := by ring

end Residual

section Returns

omit [LinearOrder K] in
/-- The returns of a period are those of its window, as ratios. -/
theorem returnsSeries_perm (inputs : TotalRiskSetInputs K) :
    List.Perm inputs.returnsSeries.points
      ((windowReturnPoints inputs.returns inputs.start inputs.stop).map fun point =>
        (point.date, fromPercent point.value)) := by
  rw [TotalRiskSetInputs.returnsSeries, Series.points_map, Series.between, Series.points_ofPoints,
    returnsFrame, Series.sorted, Series.points_ofPoints]
  have hsorted := List.perm_insertionSort (fun p q : Date × K => p.1 ≤ q.1)
    (inputs.returns.map datedValue)
  have hwindow := (hsorted.filter (fun p => decide (inputs.start ≤ p.1) &&
    decide (p.1 ≤ inputs.stop))).map (fun p => (p.1, fromPercent p.2))
  rw [List.filter_map, List.map_map] at hwindow
  exact hwindow

omit [LinearOrder K] in
theorem index_perm (inputs : TotalRiskSetInputs K) :
    List.Perm inputs.returnsSeries.index
      ((windowReturnPoints inputs.returns inputs.start inputs.stop).map ReturnPoint.date) := by
  have hperm := (returnsSeries_perm inputs).map Prod.fst
  rw [Series.map_fst_points, List.map_map] at hperm
  exact hperm

omit [LinearOrder K] in
theorem exists_windowPoint {inputs : TotalRiskSetInputs K}
    (h : date ∈ inputs.returnsSeries.index) :
    ∃ point ∈ windowReturnPoints inputs.returns inputs.start inputs.stop, point.date = date ∧
      seriesAt inputs.returnsSeries date = fromPercent point.value := by
  obtain ⟨point, hpoint, rfl⟩ := List.mem_map.1 ((index_perm inputs).mem_iff.1 h)
  have hmem : (point.date, fromPercent point.value) ∈ inputs.returnsSeries.points :=
    (returnsSeries_perm inputs).mem_iff.2 (List.mem_map_of_mem hpoint)
  refine ⟨point, hpoint, rfl, ?_⟩
  rw [seriesAt, Series.loc_of_mem hmem]
  rfl

end Returns

section Empirical

variable {math : PyMath K} {texts : PyTexts K} {seriesByGroup : Dict String (GroupReturnSeries K)}

theorem exists_observation (hcovered : Covered seriesByGroup dates)
    (hgroup : group ∈ seriesByGroup.items) (hdate : date ∈ dates) :
    ∃ point, (perDate group.2).get? date = some point ∧
      group.2.weighedReturnOn date = point.weightRatio * point.returnPp := by
  obtain ⟨hnodup, hdates⟩ := hcovered group.1 group.2 hgroup
  obtain ⟨point, hpoint, rfl⟩ := List.mem_map.1 ((hdates date).2 hdate)
  exact ⟨point, perDate_get? hnodup hpoint, weighedReturnOn_eq hnodup hpoint⟩

/-- The columns of the evidence add up to what the groups return together. -/
theorem sum_weighedReturnOf (hcovered : Covered seriesByGroup dates)
    (hdate : date ∈ dates) :
    ((sortedObservationsByGroup seriesByGroup).map fun group =>
      weighedReturnOf (group.2.get? date)).sum = fromPercent (decomposedReturn seriesByGroup date)
      := by
  have hperm := List.perm_insertionSort
    (fun g h : String × Dict Date (GroupReturnObservation K) => g.1 ≤ h.1)
    (seriesByGroup.items.map fun group => (group.1, perDate group.2))
  rw [sortedObservationsByGroup, (hperm.map _).sum_eq, List.map_map, fromPercent, decomposedReturn,
    div_eq_mul_inv, ← List.sum_map_mul_right]
  apply congrArg
  apply List.map_congr_left
  intro group hgroup
  obtain ⟨point, hget, hweighed⟩ := exists_observation hcovered hgroup hdate
  rw [Function.comp_apply, hget, hweighed, weighedReturnOf, fromPercent, ← mul_div_assoc,
    div_eq_mul_inv]

/-- Covered evidence raises nothing. -/
theorem empiricalTotalRiskInputs_covered (math : PyMath K) (texts : PyTexts K) (basis : Nat)
    (hcovered : Covered pack.seriesByGroup dates)
    {returnsSeries : Series Date K} (hindex : ∀ date ∈ returnsSeries.index, date ∈ dates) :
    ∃ inputs, empiricalTotalRiskInputs math texts returnsSeries pack basis = .ok inputs ∧
      inputs.metricSeries = returnsSeries ∧ inputs.Coherent math basis ∧
      ∀ date ∈ returnsSeries.index,
        inputs.groupMatrix.total date = fromPercent (decomposedReturn pack.seriesByGroup date) := by
  have hperm := List.perm_insertionSort
    (fun g h : String × Dict Date (GroupReturnObservation K) => g.1 ≤ h.1)
    (pack.seriesByGroup.items.map fun group => (group.1, perDate group.2))
  have hobserved : (sortedObservationsByGroup pack.seriesByGroup).forM (fun group =>
      returnsSeries.index.forM (requireObservation texts group.2)) = .ok ⟨⟩ := by
    rw [forM_eq_ok]
    intro group hgroup
    obtain ⟨source, hsource, rfl⟩ := List.mem_map.1 (hperm.mem_iff.1 hgroup)
    rw [forM_eq_ok]
    intro date hdate
    obtain ⟨point, hget, -⟩ := exists_observation hcovered hsource (hindex date hdate)
    rw [requireObservation, hget]
  rw [empiricalTotalRiskInputs, hobserved]
  refine ⟨_, rfl, rfl, ⟨rfl, rfl⟩, ?_⟩
  intro date hdate
  rw [Frame.total, List.map_map]
  exact sum_weighedReturnOf hcovered (hindex date hdate)

end Empirical

section AddsUp

variable {math : PyMath K} {texts : PyTexts K}

/-- What the groups are said to contribute. -/
def AttributionSetResult.componentSum (set : AttributionSetResult K) : K :=
  (set.contributors.map fun c => c.componentContribution.getD 0).sum

/-- A set of two observations is reconciled to the sum of its components. -/
theorem setOfInputs_reconciled (math : PyMath K) (request : AttributionSetBuildRequest K)
    (inputs : AttributionCalculationInputs K) (flags : List String)
    (riskBasis : RiskAttributionBasis) (h : 2 ≤ inputs.metricSeries.index.length) :
    ∃ set, setOfInputs math request inputs flags riskBasis = set ∧ set.riskBasis = riskBasis ∧
      set.contributors = attributionContributors (componentDecomposition math inputs.groupMatrix
        inputs.weightMatrix inputs.metricSeries inputs.riskTotal request.annualizationBasis)
          request.groupLabels ∧
      set.totalValue = some inputs.riskTotal ∧
      set.componentSum = inputs.reconciledSum math request.annualizationBasis ∧
      set.residual = some (inputs.riskTotal - set.componentSum) := by
  have hlength : ¬inputs.metricSeries.values.length < 2 := by
    rw [inputs.metricSeries.length_values]
    exact not_lt.2 h
  rw [setOfInputs, if_neg hlength]
  refine ⟨_, rfl, rfl, rfl, rfl, ?_, rfl⟩
  rw [AttributionSetResult.componentSum, AttributionCalculationInputs.reconciledSum]
  apply congrArg
  exact List.map_map

theorem buildAttributionSet_empirical {request : AttributionSetBuildRequest K}
    (hmetric : request.metric = .volatility) (hpack : request.groupEvidence = some pack)
    (hempirical : pack.empirical = true)
    (hinputs : empiricalTotalRiskInputs math texts request.returnsSeries pack
      request.annualizationBasis = .ok inputs) :
    buildAttributionSet math texts request =
      .ok (setOfInputs math request inputs request.qualityFlags .empiricalGroupReturns) := by
  rw [buildAttributionSet, if_neg (not_not.2 hmetric), hpack]
  simp only [hempirical, if_true]
  rw [hinputs]
  rfl

/-- Without empirical evidence the weights stand in for the returns of the groups. -/
theorem buildAttributionSet_proxy (math : PyMath K) (texts : PyTexts K)
    (request : AttributionSetBuildRequest K) (hmetric : request.metric = .volatility)
    (hproxy : ∀ pack ∈ request.groupEvidence, pack.empirical = false) :
    ∃ flags, buildAttributionSet math texts request =
      .ok (setOfInputs math request (proxyInputs math request) flags .weightProxy) := by
  rw [buildAttributionSet, if_neg (not_not.2 hmetric)]
  cases hpack : request.groupEvidence with
  | none => exact ⟨_, rfl⟩
  | some pack =>
    have hempirical := hproxy pack hpack
    simp only [hempirical, Bool.false_eq_true, if_false]
    exact ⟨_, rfl⟩

theorem totalRiskSet_eq (inputs : TotalRiskSetInputs K)
    (hexposure : pivotExposure inputs.exposureHistory inputs.start inputs.stop
      inputs.groupingDimension = .ok exposure) :
    totalRiskSet math texts inputs =
      buildAttributionSet math texts (inputs.buildRequest exposure) := by
  rw [totalRiskSet, hexposure]
  rfl

variable [IsStrictOrderedRing K]

/-- The components of total risk add up to it, within the tolerance of the reconciliation. -/
theorem total_risk_adds_up (hsqrt : math.IsSquareRoot) (inputs : TotalRiskSetInputs K)
    (hexposure : pivotExposure inputs.exposureHistory inputs.start inputs.stop
      inputs.groupingDimension = .ok exposure)
    (hmetric : inputs.metric = .volatility) (hpack : inputs.groupEvidence = some pack)
    (hempirical : pack.empirical = true)
    (hcovered : Covered pack.seriesByGroup
      ((windowReturnPoints inputs.returns inputs.start inputs.stop).map ReturnPoint.date))
    (hreconciled : ∀ point ∈ windowReturnPoints inputs.returns inputs.start inputs.stop,
      Reconciles pack.seriesByGroup point)
    (hdates : 2 ≤ (windowReturnPoints inputs.returns inputs.start inputs.stop).length) :
    ∃ set total, totalRiskSet math texts inputs = .ok set ∧
      set.riskBasis = .empiricalGroupReturns ∧ set.totalValue = some total ∧
      set.residual = some (total - set.componentSum) ∧
      |total - set.componentSum| ≤ 1 / 10000 * math.sqrt (inputs.annualizationBasis *
        ((windowReturnPoints inputs.returns inputs.start inputs.stop).length /
          ((windowReturnPoints inputs.returns inputs.start inputs.stop).length - 1))) := by
  obtain ⟨calculation, hcalculation, hseries, hcoherent, htotal⟩ :=
    empiricalTotalRiskInputs_covered math texts inputs.annualizationBasis hcovered
      (fun date hdate => (index_perm inputs).mem_iff.1 hdate)
  have hlength := (index_perm inputs).length_eq
  rw [List.length_map] at hlength
  have hlong : 2 ≤ calculation.metricSeries.index.length := by
    rw [hseries, hlength]
    exact hdates
  have hunexplained : ∀ date ∈ calculation.metricSeries.index,
      |seriesAt calculation.metricSeries date - calculation.groupMatrix.total date| ≤
        1 / 10000 := by
    rw [hseries]
    intro date hdate
    obtain ⟨point, hpoint, rfl, hvalue⟩ := exists_windowPoint hdate
    have hclose := (hreconciled point hpoint).2
    rw [exact_value, abs_sub_comm] at hclose
    rw [hvalue, htotal _ hdate, fromPercent, fromPercent, ← sub_div, abs_div,
      abs_of_pos (by norm_num : (0 : K) < 100), div_le_iff₀ (by norm_num)]
    apply hclose.trans
    norm_num
  have hbound := abs_residual_le hsqrt hcoherent hlong (by norm_num) hunexplained
  rw [hseries, hlength] at hbound
  obtain ⟨set, hset, hbasis, -, hvalue, hsum, hresidual⟩ := setOfInputs_reconciled math
    (inputs.buildRequest exposure) calculation exposure.2.2 .empiricalGroupReturns hlong
  refine ⟨set, calculation.riskTotal, ?_, hbasis, hvalue, hresidual, ?_⟩
  · rw [totalRiskSet_eq inputs hexposure, ← hset]
    exact buildAttributionSet_empirical hmetric hpack hempirical hcalculation
  · rw [hsum]
    exact hbound

noncomputable def realMath : PyMath ℝ where
  sqrt := Real.sqrt
  log1p x := Real.log (1 + x)
  invCdf _ := 0
  pow x y := x ^ y
  skew _ := none
  kurt _ := none
  sqrt_nonneg := Real.sqrt_nonneg
  sqrt_one := Real.sqrt_one

theorem realMath_isSquareRoot : realMath.IsSquareRoot := fun _ hx => Real.mul_self_sqrt hx

/-- The first two days, with one percent and two. -/
def risingReturns : List (ReturnPoint ℝ) :=
  List.zipWith ReturnPoint.mk (firstWeek.take 2) [1, 2]

theorem risingReturns_unique : (risingReturns.map ReturnPoint.date).Nodup :=
  firstTwo_ascending.imp ne_of_lt

noncomputable def heldHalf (point : ReturnPoint ℝ) : GroupReturnObservation ℝ :=
  ⟨point.date, point.value, 1 / 2⟩

/-- A group that holds half of the portfolio and returns what the portfolio does. -/
noncomputable def halfOfPortfolio (groupKey : String) : GroupReturnSeries ℝ where
  groupKey := groupKey
  currency := "USD"
  observations := risingReturns.map heldHalf

theorem halves_distinct : ["Energy", "Health"].Nodup := by decide

noncomputable def halvesPack : GroupEvidencePack ℝ where
  groupingDimension := .sector
  seriesByGroup := ⟨[("Energy", halfOfPortfolio "Energy"), ("Health", halfOfPortfolio "Health")],
    halves_distinct⟩
  degradationFlags := []
  expectedGroupKeys := ["Energy", "Health"]

theorem halvesPack_covered :
    Covered halvesPack.seriesByGroup (risingReturns.map ReturnPoint.date) := by
  intro key series hmem
  have hdates : series.dates = risingReturns.map ReturnPoint.date := by
    rcases List.mem_cons.1 hmem with h | h
    · cases h
      rfl
    · cases List.mem_singleton.1 h
      rfl
  rw [hdates]
  exact ⟨risingReturns_unique, fun _ => Iff.rfl⟩

theorem halvesPack_reconciled (hpoint : point ∈ risingReturns) :
    Reconciles halvesPack.seriesByGroup point := by
  have hweighed : ∀ key, (halfOfPortfolio key).weighedReturnOn point.date =
      1 / 2 * point.value := by
    intro key
    have hobserved : heldHalf point ∈ (halfOfPortfolio key).observations :=
      List.mem_map_of_mem hpoint
    have hunique : (halfOfPortfolio key).dates.Nodup := risingReturns_unique
    exact weighedReturnOn_eq hunique hobserved
  have hdecomposed : decomposedReturn halvesPack.seriesByGroup point.date =
      (halfOfPortfolio "Energy").weighedReturnOn point.date +
        ((halfOfPortfolio "Health").weighedReturnOn point.date + 0) := rfl
  refine ⟨rfl, ?_⟩
  rw [hdecomposed, hweighed, hweighed, add_zero, ← add_mul, exact_value]
  norm_num

noncomputable def halvesInputs : TotalRiskSetInputs ℝ where
  returns := risingReturns
  returns_unique := risingReturns_unique
  exposureHistory := []
  start := firstMonday
  stop := firstWeek.getLast firstWeek_ne_nil
  metric := .volatility
  groupingDimension := .sector
  annualizationBasis := 252
  annualization_pos := Nat.le_add_left 1 251
  groupEvidence := some halvesPack

theorem halvesInputs_window : windowReturnPoints halvesInputs.returns halvesInputs.start
    halvesInputs.stop = risingReturns := by
  have hdates : ∀ date ∈ firstWeek.take 2, halvesInputs.start ≤ date ∧ date ≤ halvesInputs.stop := by
    decide
  rw [windowReturnPoints, show halvesInputs.returns = risingReturns from rfl, List.filter_eq_self]
  intro point hpoint
  have hbounds := hdates point.date (List.mem_map_of_mem (f := ReturnPoint.date) hpoint)
  rw [decide_eq_true hbounds.1, decide_eq_true hbounds.2]
  rfl

theorem total_risk_adds_up_halves : ∃ set total,
    totalRiskSet realMath plainTexts halvesInputs = .ok set ∧
      set.riskBasis = .empiricalGroupReturns ∧ set.totalValue = some total ∧
      set.residual = some (total - set.componentSum) ∧
      |total - set.componentSum| ≤ 1 / 10000 * realMath.sqrt ((252 : Nat) *
        ((windowReturnPoints halvesInputs.returns halvesInputs.start halvesInputs.stop).length /
          ((windowReturnPoints halvesInputs.returns halvesInputs.start
            halvesInputs.stop).length - 1))) := by
  apply total_risk_adds_up realMath_isSquareRoot halvesInputs rfl rfl rfl rfl
  · rw [halvesInputs_window]
    exact halvesPack_covered
  · rw [halvesInputs_window]
    exact fun point hpoint => halvesPack_reconciled hpoint
  · rw [halvesInputs_window]
    exact Nat.le_refl 2

end AddsUp

end LotusRisk
