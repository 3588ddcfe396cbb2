import LotusRisk.Attribution.TotalRisk

/-! Weights that stand in for the returns of the groups: a group that holds a share of the portfolio
throughout has that share of its risk, and weights that add up to one leave no residual. -/

namespace LotusRisk
set_option autoImplicit true

open Relational

variable {K : Type} [Field K] [LinearOrder K]

section Weights

variable (points : List (ExposurePoint K)) (groupingDimension : GroupingDimension)

omit [LinearOrder K] in
/-- The weight of a group on a date, zero when no point gives one. -/
def groupWeightOn (key : String) (date : Date) : K :=
  match points.find? fun point => decide (point.date = date) &&
      decide (point.groupingDimension = groupingDimension) && decide (point.groupKey = key) with
  | some point => point.weight
  | none => 0

omit [Field K] [LinearOrder K] in
def groupsOn (date : Date) : List String :=
  ((points.filter fun point => decide (point.date = date) &&
    decide (point.groupingDimension = groupingDimension)).map ExposurePoint.groupKey).dedup

omit [LinearOrder K] in
def weightSumOn (date : Date) : K :=
  ((groupsOn points groupingDimension date).map fun key =>
    groupWeightOn points groupingDimension key date).sum

end Weights

section Cells

variable {points : List (ExposurePoint K)} {start stop : Date}
  {groupingDimension : GroupingDimension}

omit [Field K] [LinearOrder K] in
theorem mem_scopedExposure {point : ExposurePoint K} :
    point ∈ scopedExposure points start stop groupingDimension ↔ point ∈ points ∧
      (start ≤ point.date ∧ point.date ≤ stop) ∧ point.groupingDimension = groupingDimension := by
  have hperm := List.perm_insertionSort (fun p q : ExposurePoint K => p.date ≤ q.date) points
  rw [scopedExposure, List.mem_filter, hperm.mem_iff, Bool.and_eq_true, Bool.and_eq_true,
    decide_eq_true_iff, decide_eq_true_iff, decide_eq_true_iff]

omit [Field K] [LinearOrder K] in
theorem mem_exposureDates {rows : List (ExposurePoint K)} :
    date ∈ exposureDates rows ↔ ∃ point ∈ rows, point.date = date := by
  rw [exposureDates, (List.perm_insertionSort _ _).mem_iff, List.mem_dedup, List.mem_map]

omit [Field K] [LinearOrder K] in
theorem mem_exposureKeys {rows : List (ExposurePoint K)} :
    key ∈ exposureKeys rows ↔ ∃ point ∈ rows, point.groupKey = key := by
  rw [exposureKeys, (List.perm_insertionSort _ _).mem_iff, List.mem_dedup, List.mem_map]

omit [Field K] [LinearOrder K] in
theorem nodup_exposureKeys (rows : List (ExposurePoint K)) : (exposureKeys rows).Nodup :=
  (List.perm_insertionSort _ _).nodup_iff.2 (List.nodup_dedup _)

omit [Field K] [LinearOrder K] in
theorem mem_exposureWeightsAt {rows : List (ExposurePoint K)} :
    weight ∈ exposureWeightsAt rows date key ↔ ∃ point ∈ rows, (point.date = date ∧
      point.groupKey = key) ∧ point.weight = weight := by
  rw [exposureWeightsAt, List.mem_map]
  simp only [List.mem_filter, Bool.and_eq_true, decide_eq_true_iff, and_assoc]

omit [Field K] in
/-- Without a conflict the weights of a cell are one weight. -/
theorem eq_of_no_conflict {rows : List (ExposurePoint K)} (h : conflictingExposure rows = none)
    (hv : v ∈ exposureWeightsAt rows date key) (hw : w ∈ exposureWeightsAt rows date key) :
    v = w := by
  obtain ⟨point, hpoint, ⟨rfl, rfl⟩, -⟩ := mem_exposureWeightsAt.1 hv
  have hcell : (point.date, point.groupKey) ∈ (exposureDates rows).flatMap fun date =>
      (exposureKeys rows).map fun key => (date, key) := by
    rw [List.mem_flatMap]
    refine ⟨point.date, mem_exposureDates.2 ⟨point, hpoint, rfl⟩, ?_⟩
    exact List.mem_map_of_mem (mem_exposureKeys.2 ⟨point, hpoint, rfl⟩)
  have hshort := List.find?_eq_none.1 h _ hcell
  rw [decide_eq_true_iff, not_lt] at hshort
  rw [← List.mem_dedup] at hv hw
  cases hdedup : (exposureWeightsAt rows point.date point.groupKey).dedup with
  | nil =>
    rw [hdedup] at hv
    cases hv
  | cons u rest =>
    rw [hdedup, List.length_cons] at hshort
    have hrest : rest = [] :=
      List.length_eq_zero_iff.1 (Nat.le_zero.1 (Nat.le_of_succ_le_succ hshort))
    rw [hdedup, hrest, List.mem_singleton] at hv hw
    rw [hv, hw]

omit [LinearOrder K] in
/-- The weight of a group is one of the weights of its cell, unless the cell has none. -/
theorem groupWeightOn_mem (points : List (ExposurePoint K)) (groupingDimension : GroupingDimension)
    (key : String) (hstart : start ≤ date) (hstop : date ≤ stop) :
    groupWeightOn points groupingDimension key date ∈
        exposureWeightsAt (scopedExposure points start stop groupingDimension) date key ∨
      exposureWeightsAt (scopedExposure points start stop groupingDimension) date key = [] ∧
        groupWeightOn points groupingDimension key date = 0 := by
  rw [groupWeightOn]
  cases hfind : points.find? fun other => decide (other.date = date) &&
      decide (other.groupingDimension = groupingDimension) &&
        decide (other.groupKey = key) with
  | none =>
    apply Or.inr
    refine ⟨?_, rfl⟩
    rw [List.eq_nil_iff_forall_not_mem]
    intro weight hweight
    obtain ⟨point, hpoint, ⟨rfl, rfl⟩, -⟩ := mem_exposureWeightsAt.1 hweight
    obtain ⟨hmem, -, hdimension⟩ := mem_scopedExposure.1 hpoint
    have hnone := List.find?_eq_none.1 hfind point hmem
    rw [hdimension, decide_eq_true rfl, decide_eq_true rfl, decide_eq_true rfl] at hnone
    exact hnone rfl
  | some other =>
    apply Or.inl
    have hother := List.find?_some hfind
    rw [Bool.and_eq_true, Bool.and_eq_true, decide_eq_true_iff, decide_eq_true_iff,
      decide_eq_true_iff] at hother
    obtain ⟨⟨rfl, hgrouping⟩, hkey⟩ := hother
    exact mem_exposureWeightsAt.2 ⟨other, mem_scopedExposure.2
      ⟨List.mem_of_find?_eq_some hfind, ⟨hstart, hstop⟩, hgrouping⟩, ⟨rfl, hkey⟩, rfl⟩

omit [LinearOrder K] in
theorem groupWeightOn_eq_zero (hstart : start ≤ date) (hstop : date ≤ stop)
    (h : ∀ point ∈ scopedExposure points start stop groupingDimension, point.date = date →
      point.groupKey ≠ key) :
    groupWeightOn points groupingDimension key date = 0 := by
  rcases groupWeightOn_mem points groupingDimension key hstart hstop with hmem | ⟨-, hzero⟩
  · obtain ⟨point, hpoint, ⟨hdate, hkey⟩, -⟩ := mem_exposureWeightsAt.1 hmem
    exact absurd hkey (h point hpoint hdate)
  · exact hzero

omit [LinearOrder K] in
theorem sum_groupWeightOn (points : List (ExposurePoint K)) (groupingDimension : GroupingDimension)
    (hstart : start ≤ date) (hstop : date ≤ stop) :
    ((exposureKeys (scopedExposure points start stop groupingDimension)).map fun key =>
      groupWeightOn points groupingDimension key date).sum =
        weightSumOn points groupingDimension date := by
  have hnodup : (groupsOn points groupingDimension date).Nodup := List.nodup_dedup _
  rw [weightSumOn, ← List.sum_toFinset _ (nodup_exposureKeys _), ← List.sum_toFinset _ hnodup]
  apply Eq.symm
  apply Finset.sum_subset
  · intro key hkey
    obtain ⟨point, hpoint, rfl⟩ := List.mem_map.1 (List.mem_dedup.1 (List.mem_toFinset.1 hkey))
    rw [List.mem_filter, Bool.and_eq_true, decide_eq_true_iff, decide_eq_true_iff] at hpoint
    obtain ⟨hmem, rfl, hdimension⟩ := hpoint
    exact List.mem_toFinset.2 (mem_exposureKeys.2 ⟨point,
      mem_scopedExposure.2 ⟨hmem, ⟨hstart, hstop⟩, hdimension⟩, rfl⟩)
  · intro key _ hkey
    apply groupWeightOn_eq_zero hstart hstop
    intro point hpoint hdate heq
    obtain ⟨hmem, -, hdimension⟩ := mem_scopedExposure.1 hpoint
    subst hdate
    subst heq
    apply hkey
    rw [List.mem_toFinset, groupsOn, List.mem_dedup]
    apply List.mem_map_of_mem
    rw [List.mem_filter, decide_eq_true rfl, decide_eq_true hdimension]
    exact ⟨hmem, rfl⟩

variable [CharZero K]

/-- A cell of the pivot holds the weight of its group on its date. -/
theorem exposureCell_eq (hconflict : conflictingExposure (scopedExposure points start stop
    groupingDimension) = none) (hstart : start ≤ date) (hstop : date ≤ stop) :
    exposureCell (scopedExposure points start stop groupingDimension) key date =
      groupWeightOn points groupingDimension key date := by
  rw [exposureCell]
  rcases groupWeightOn_mem points groupingDimension key hstart hstop with hmem | ⟨hempty, hzero⟩
  · have hne := List.ne_nil_of_mem hmem
    rw [if_neg (fun h => hne (List.isEmpty_iff.1 h))]
    apply mean_of_constant hne
    intro weight hweight
    exact eq_of_no_conflict hconflict hweight hmem
  · rw [if_pos (List.isEmpty_iff.2 hempty), hzero]

/-- A date without exposure has no cell to read. -/
theorem reindexedCell_eq (hconflict : conflictingExposure (scopedExposure points start stop
    groupingDimension) = none) (hstart : start ≤ date) (hstop : date ≤ stop) :
    (if date ∈ exposureDates (scopedExposure points start stop groupingDimension) then
      exposureCell (scopedExposure points start stop groupingDimension) key date else 0) =
      groupWeightOn points groupingDimension key date := by
  split_ifs with hdate
  · exact exposureCell_eq hconflict hstart hstop
  · apply Eq.symm
    apply groupWeightOn_eq_zero hstart hstop
    intro point hpoint heq _
    exact hdate (mem_exposureDates.2 ⟨point, hpoint, heq⟩)

omit [CharZero K] in
theorem pivotExposure_ok (h : pivotExposure points start stop groupingDimension = .ok exposure) :
    conflictingExposure (scopedExposure points start stop groupingDimension) = none ∧
      exposure.1 = ⟨exposureDates (scopedExposure points start stop groupingDimension),
        (exposureKeys (scopedExposure points start stop groupingDimension)).map fun key =>
          (key, exposureCell (scopedExposure points start stop groupingDimension) key)⟩ := by
  rw [pivotExposure] at h
  cases hrows : scopedExposure points start stop groupingDimension with
  | nil =>
    rw [hrows] at h
    cases h
    exact ⟨rfl, rfl⟩
  | cons row rows =>
    rw [hrows] at h
    cases hconflict : conflictingExposure (row :: rows) with
    | some cell =>
      simp only [List.isEmpty_cons, Bool.false_eq_true, if_false, hconflict] at h
      cases h
    | none =>
      simp only [List.isEmpty_cons, Bool.false_eq_true, if_false, hconflict] at h
      cases h
      exact ⟨rfl, rfl⟩

end Cells

section Proxy

variable {math : PyMath K} {texts : PyTexts K} {inputs : TotalRiskSetInputs K}

theorem proxyInputs_coherent (math : PyMath K) (request : AttributionSetBuildRequest K) :
    (proxyInputs math request).Coherent math request.annualizationBasis :=
  ⟨rfl, rfl⟩

omit [LinearOrder K] in
theorem window_of_index (h : date ∈ inputs.returnsSeries.index) :
    inputs.start ≤ date ∧ date ≤ inputs.stop := by
  obtain ⟨point, hpoint, rfl, -⟩ := exists_windowPoint h
  have hwindow := (List.mem_filter.1 hpoint).2
  rw [Bool.and_eq_true, decide_eq_true_iff, decide_eq_true_iff] at hwindow
  exact hwindow

variable [CharZero K]

/-- A column of the proxy scales the return of the portfolio by the weight of its group. -/
theorem proxyColumns_eq (math : PyMath K) (hexposure : pivotExposure inputs.exposureHistory
    inputs.start inputs.stop inputs.groupingDimension = .ok exposure) :
    ∃ cell : String → Date → K,
      (proxyInputs math (inputs.buildRequest exposure)).groupMatrix.columns =
        (exposureKeys (scopedExposure inputs.exposureHistory inputs.start inputs.stop
          inputs.groupingDimension)).map (fun key => (key, cell key)) ∧
      ∀ key, ∀ date ∈ inputs.returnsSeries.index, cell key date =
        groupWeightOn inputs.exposureHistory inputs.groupingDimension key date *
          seriesAt inputs.returnsSeries date := by
  obtain ⟨hconflict, hframe⟩ := pivotExposure_ok hexposure
  refine ⟨fun key date => (if date ∈ exposureDates (scopedExposure inputs.exposureHistory
    inputs.start inputs.stop inputs.groupingDimension) then exposureCell (scopedExposure
      inputs.exposureHistory inputs.start inputs.stop inputs.groupingDimension) key date else 0) *
        seriesAt inputs.returnsSeries date, ?_, ?_⟩
  · rw [proxyInputs, totalRiskInputs, TotalRiskSetInputs.buildRequest, hframe]
    simp only [Frame.mul, Frame.reindex, List.map_map]
    rfl
  · intro key date hdate
    obtain ⟨hstart, hstop⟩ := window_of_index hdate
    rw [← reindexedCell_eq hconflict hstart hstop]

end Proxy

section Identity

variable [IsStrictOrderedRing K] {math : PyMath K} {texts : PyTexts K}
  {calculation : AttributionCalculationInputs K}

/-- Annualized, a volatility that is not treated as zero is not either. -/
theorem total_not_close (hsqrt : math.IsSquareRoot) (hcoherent : calculation.Coherent math basis)
    (hbasis : 1 ≤ basis)
    (hstd : isCloseToZero (sampleStd math calculation.metricSeries.values) = false) :
    isCloseToZero calculation.riskTotal = false := by
  have hroot : (1 : K) ≤ math.sqrt basis := by
    have hle := sqrt_le_sqrt hsqrt zero_le_one (Nat.one_le_cast.2 hbasis)
    rw [math.sqrt_one] at hle
    exact hle
  apply decide_eq_false
  intro hclose
  apply of_decide_eq_false hstd
  rw [hcoherent.total_eq, abs_mul, abs_of_nonneg (math.sqrt_nonneg _)] at hclose
  exact (le_mul_of_one_le_right (abs_nonneg _) hroot).trans hclose

/-- A column that scales the portfolio by `w` has the component `w` times the total. -/
theorem component_of_scaled (hsqrt : math.IsSquareRoot)
    (hcoherent : calculation.Coherent math basis)
    (hmetric : calculation.metricSeries.isEmpty = false)
    {column : Date → K} (h : ∀ date ∈ calculation.metricSeries.index,
      column date = w * seriesAt calculation.metricSeries date) :
    sampleCovariance (calculation.groupMatrix.valuesOf column) calculation.metricSeries.values /
        sampleStd math calculation.metricSeries.values * math.sqrt basis =
      w * calculation.riskTotal := by
  have hne : calculation.metricSeries.index ≠ [] := List.isEmpty_eq_false_iff.1 hmetric
  have hcovariance : sampleCovariance (calculation.groupMatrix.valuesOf column)
      calculation.metricSeries.values = w * (sampleStd math calculation.metricSeries.values *
        sampleStd math calculation.metricSeries.values) := by
    rw [component_eq hcoherent, sampleStd_mul_self hsqrt _ hne, ← Sampling.covariance_mul_left]
    exact Sampling.covariance_congr h (fun _ _ => rfl)
  rw [hcovariance, hcoherent.total_eq, mul_div_assoc, mul_self_div_self, mul_assoc]

theorem row_of_scaled (hsqrt : math.IsSquareRoot) (hcoherent : calculation.Coherent math basis)
    (hbasis : 1 ≤ basis) (hmetric : calculation.metricSeries.isEmpty = false)
    (hstd : isCloseToZero (sampleStd math calculation.metricSeries.values) = false)
    {column : Date → K} (h : ∀ date ∈ calculation.metricSeries.index,
      column date = w * seriesAt calculation.metricSeries date)
    (key : String) (average : Option K) :
    let row := componentDecompositionRow math key (calculation.groupMatrix.valuesOf column) average
      calculation.metricSeries.values calculation.riskTotal basis
        (sampleStd math calculation.metricSeries.values)
    row.componentContribution = some (w * calculation.riskTotal) ∧
      row.percentContribution = some w := by
  have htotal := total_not_close hsqrt hcoherent hbasis hstd
  have hcomponent := component_of_scaled hsqrt hcoherent hmetric h
  refine ⟨congrArg some hcomponent, ?_⟩
  simp only [componentDecompositionRow, hcomponent, htotal, Bool.false_eq_true, if_false]
  rw [mul_div_cancel_right₀ w (ne_zero_of_not_close htotal)]

/-- Columns that add up to the portfolio leave no residual. -/
theorem residual_of_explained (hsqrt : math.IsSquareRoot)
    (hcoherent : calculation.Coherent math basis)
    (hmetric : calculation.metricSeries.isEmpty = false)
    (hstd : isCloseToZero (sampleStd math calculation.metricSeries.values) = false)
    (h : ∀ date ∈ calculation.metricSeries.index,
      calculation.groupMatrix.total date = seriesAt calculation.metricSeries date) :
    calculation.riskTotal - calculation.reconciledSum math basis = 0 := by
  have hunexplained : ∀ date ∈ calculation.metricSeries.index,
      seriesAt calculation.metricSeries date - calculation.groupMatrix.total date = 0 := by
    intro date hdate
    rw [h date hdate, sub_self]
  rw [residual_eq hsqrt hcoherent hmetric hstd,
    Sampling.covariance_congr hunexplained (fun _ _ => rfl), Sampling.covariance_zero_left,
    zero_div, zero_mul]

/-- A constant weight is a group's share of the risk, and weights that add up to one on every date
leave no residual. -/
theorem weight_proxy_identity (hsqrt : math.IsSquareRoot) (inputs : TotalRiskSetInputs K)
    (hexposure : pivotExposure inputs.exposureHistory inputs.start inputs.stop
      inputs.groupingDimension = .ok exposure)
    (hmetric : inputs.metric = .volatility)
    (hproxy : ∀ pack ∈ inputs.groupEvidence, pack.empirical = false)
    (hdates : 2 ≤ inputs.returnsSeries.index.length)
    (hvolatile : isCloseToZero (sampleStd math inputs.returnsSeries.values) = false) :
    ∃ set total, totalRiskSet math texts inputs = .ok set ∧ set.riskBasis = .weightProxy ∧
      set.totalValue = some total ∧
      (∀ key, key ∈ set.contributors.map AttributionContributor.groupKey ↔
        ∃ point ∈ inputs.exposureHistory, (inputs.start ≤ point.date ∧
          point.date ≤ inputs.stop) ∧ point.groupingDimension = inputs.groupingDimension ∧
            point.groupKey = key) ∧
      (∀ contributor ∈ set.contributors, ∀ w, (∀ date ∈ inputs.returnsSeries.index,
          groupWeightOn inputs.exposureHistory inputs.groupingDimension contributor.groupKey
            date = w) →
        contributor.componentContribution = some (w * total) ∧
          contributor.percentContribution = some w) ∧
      ((∀ date ∈ inputs.returnsSeries.index,
          weightSumOn inputs.exposureHistory inputs.groupingDimension date = 1) →
        set.residual = some 0) := by
  obtain ⟨flags, hbuild⟩ := buildAttributionSet_proxy math texts
    (inputs.buildRequest exposure) hmetric hproxy
  obtain ⟨set, hset, hbasis, hcontributors, hvalue, hsum, hresidual⟩ :=
    setOfInputs_reconciled math (inputs.buildRequest exposure)
      (proxyInputs math (inputs.buildRequest exposure)) flags .weightProxy hdates
  obtain ⟨cell, hcolumns, hcell⟩ := proxyColumns_eq math hexposure
  have hcoherent := proxyInputs_coherent math (inputs.buildRequest exposure)
  have hne : inputs.returnsSeries.isEmpty = false :=
    List.isEmpty_eq_false_iff.2 (List.ne_nil_of_length_pos (by omega))
  have hrows := componentDecomposition_eq hcoherent hne hvolatile
  rw [hrows, attributionContributors, hcolumns, List.map_map, List.map_map] at hcontributors
  refine ⟨set, (proxyInputs math (inputs.buildRequest exposure)).riskTotal, ?_, hbasis, hvalue,
    ?_, ?_, ?_⟩
  · rw [totalRiskSet_eq inputs hexposure, hbuild, hset]
  · intro key
    have hkeys : set.contributors.map AttributionContributor.groupKey =
        exposureKeys (scopedExposure inputs.exposureHistory inputs.start inputs.stop
          inputs.groupingDimension) := by
      rw [hcontributors, List.map_map]
      exact List.map_id _
    rw [hkeys, mem_exposureKeys]
    simp only [mem_scopedExposure, and_assoc]
  · intro contributor hcontributor w hweight
    rw [hcontributors] at hcontributor
    obtain ⟨key, -, rfl⟩ := List.mem_map.1 hcontributor
    have hcolumn : ∀ date ∈ inputs.returnsSeries.index,
        cell key date = w * seriesAt inputs.returnsSeries date := by
      intro date hdate
      rw [hcell key date hdate, ← hweight date hdate]
      rfl
    exact row_of_scaled hsqrt hcoherent inputs.annualization_pos hne hvolatile hcolumn key
      ((observedMeans (proxyInputs math (inputs.buildRequest exposure)).weightMatrix).getD key none)
  · intro hone
    have hexplained : ∀ date ∈ inputs.returnsSeries.index,
        (proxyInputs math (inputs.buildRequest exposure)).groupMatrix.total date =
          seriesAt inputs.returnsSeries date := by
      intro date hdate
      obtain ⟨hstart, hstop⟩ := window_of_index hdate
      have hweights := sum_groupWeightOn inputs.exposureHistory inputs.groupingDimension hstart
        hstop
      rw [hone date hdate] at hweights
      have hcells : ∀ key ∈ exposureKeys (scopedExposure inputs.exposureHistory inputs.start
          inputs.stop inputs.groupingDimension), ((fun column : String × (Date → K) =>
            column.2 date) ∘ fun key => (key, cell key)) key =
              groupWeightOn inputs.exposureHistory inputs.groupingDimension key date *
                seriesAt inputs.returnsSeries date := fun key _ => hcell key date hdate
      rw [Frame.total, hcolumns, List.map_map, List.map_congr_left hcells,
        List.sum_map_mul_right, hweights, one_mul]
    rw [hresidual, hsum]
    exact congrArg some (residual_of_explained hsqrt hcoherent hne hvolatile hexplained)

omit [IsStrictOrderedRing K] in
theorem pivotExposure_of_no_conflict {points : List (ExposurePoint K)}
    (h : conflictingExposure (scopedExposure points start stop groupingDimension) = none) :
    ∃ exposure, pivotExposure points start stop groupingDimension = .ok exposure := by
  rw [pivotExposure]
  cases hrows : scopedExposure points start stop groupingDimension with
  | nil => exact ⟨_, rfl⟩
  | cons row rows =>
    rw [hrows] at h
    simp only [List.isEmpty_cons, Bool.false_eq_true, if_false, h]
    exact ⟨_, rfl⟩

omit [Field K] [IsStrictOrderedRing K] in
theorem no_conflict_of_constant {rows : List (ExposurePoint K)}
    (h : ∀ point ∈ rows, point.weight = w) : conflictingExposure rows = none := by
  rw [conflictingExposure, List.find?_eq_none]
  intro cell _
  rw [decide_eq_true_iff, not_lt]
  have hsubset : (exposureWeightsAt rows cell.1 cell.2).dedup ⊆ [w] := by
    intro weight hweight
    obtain ⟨point, hpoint, -, rfl⟩ := mem_exposureWeightsAt.1 (List.mem_dedup.1 hweight)
    exact List.mem_singleton.2 (h point hpoint)
  exact (List.subperm_of_subset (List.nodup_dedup _) hsubset).length_le

/-- Two groups that are half of the portfolio each. -/
noncomputable def halvedPortfolio : List (ExposurePoint ℝ) :=
  risingReturns.flatMap fun point =>
    [⟨point.date, .sector, "Energy", none, (heldHalf point).weightRatio⟩,
      ⟨point.date, .sector, "Health", none, (heldHalf point).weightRatio⟩]

noncomputable def halvedInputs : TotalRiskSetInputs ℝ :=
  { halvesInputs with exposureHistory := halvedPortfolio, groupEvidence := none }

theorem halvedInputs_values :
    halvedInputs.returnsSeries.values = [fromPercent 1, fromPercent 2] := rfl

theorem halvedInputs_volatile :
    isCloseToZero (sampleStd realMath halvedInputs.returnsSeries.values) = false := by
  apply decide_eq_false
  rw [halvedInputs_values, not_le]
  apply lt_of_lt_of_le _ (le_abs_self _)
  apply Real.lt_sqrt_of_sq_lt
  norm_num [sampleCovariance, mean, fromPercent]

theorem halvedPortfolio_point {point : ExposurePoint ℝ} (h : point ∈ halvedPortfolio) :
    point.weight = 1 / 2 ∧ point.groupKey ∈ ["Energy", "Health"] := by
  obtain ⟨source, _, hpoint⟩ := List.mem_flatMap.1 h
  rcases List.mem_pair.1 hpoint with rfl | rfl
  · exact ⟨rfl, List.mem_cons_self⟩
  · exact ⟨rfl, List.mem_cons_of_mem _ List.mem_cons_self⟩

theorem halvedPortfolio_weight : ∀ key ∈ ["Energy", "Health"],
    ∀ date ∈ halvedInputs.returnsSeries.index,
      groupWeightOn halvedInputs.exposureHistory .sector key date = 1 / 2 := by
  intro key hkey date hdate
  rcases List.mem_pair.1 hkey with rfl | rfl
  · rcases List.mem_pair.1 hdate with rfl | rfl
    · rfl
    · rfl
  · rcases List.mem_pair.1 hdate with rfl | rfl
    · rfl
    · rfl

theorem halvedPortfolio_weightSum : ∀ date ∈ halvedInputs.returnsSeries.index,
    weightSumOn halvedInputs.exposureHistory .sector date = 1 := by
  intro date hdate
  have hgroups : groupsOn halvedInputs.exposureHistory .sector date = ["Energy", "Health"] := by
    rcases List.mem_pair.1 hdate with rfl | rfl
    · rfl
    · rfl
  rw [weightSumOn, hgroups, List.map_congr_left fun key hkey =>
    halvedPortfolio_weight key hkey date hdate]
  norm_num

theorem weight_proxy_identity_halves : ∃ set total,
    totalRiskSet realMath plainTexts halvedInputs = .ok set ∧ set.totalValue = some total ∧
      set.residual = some 0 ∧ "Energy" ∈ set.contributors.map AttributionContributor.groupKey ∧
      "Health" ∈ set.contributors.map AttributionContributor.groupKey ∧
      ∀ contributor ∈ set.contributors,
        contributor.componentContribution = some (1 / 2 * total) ∧
          contributor.percentContribution = some (1 / 2) := by
  have hconstant : ∀ point ∈ scopedExposure halvedInputs.exposureHistory halvedInputs.start
      halvedInputs.stop halvedInputs.groupingDimension, point.weight = 1 / 2 := by
    intro point hpoint
    exact (halvedPortfolio_point (mem_scopedExposure.1 hpoint).1).1
  obtain ⟨exposure, hexposure⟩ := pivotExposure_of_no_conflict (no_conflict_of_constant hconstant)
  obtain ⟨set, total, hset, -, htotal, hkeys, hweights, hresidual⟩ := weight_proxy_identity
    realMath_isSquareRoot halvedInputs hexposure rfl (fun _ h => by cases h)
    (Nat.le_refl 2) halvedInputs_volatile
  refine ⟨set, total, hset, htotal, hresidual halvedPortfolio_weightSum, ?_, ?_, ?_⟩
  · exact (hkeys "Energy").2 ⟨_, List.mem_cons_self, by decide, rfl, rfl⟩
  · exact (hkeys "Health").2
      ⟨_, List.mem_cons_of_mem _ List.mem_cons_self, by decide, rfl, rfl⟩
  · intro contributor hcontributor
    obtain ⟨point, hpoint, _, _, hkey⟩ :=
      (hkeys contributor.groupKey).1 (List.mem_map_of_mem hcontributor)
    apply hweights contributor hcontributor
    rw [← hkey]
    exact halvedPortfolio_weight point.groupKey (halvedPortfolio_point hpoint).2

end Identity

end LotusRisk
