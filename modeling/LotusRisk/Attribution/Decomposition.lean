import LotusRisk.Attribution.BenchmarkExposure
import LotusRisk.Risk.Engine
import LotusRisk.Supportability.Calculation

/-! The attribution of total risk to groups: the covariance of their contributions with the
portfolio, from evidence of group returns or from exposure weights. -/

namespace LotusRisk
set_option autoImplicit true

open Relational

variable {K : Type} [Field K] [LinearOrder K]

section Frames

/-- Labelled columns over an index of dates; what a column holds elsewhere is not read. -/
structure Frame (K : Type) where
  index : List Date
  columns : List (String × (Date → K))

omit [Field K] [LinearOrder K] in
def Frame.isEmpty (frame : Frame K) : Bool := frame.index.isEmpty || frame.columns.isEmpty

omit [Field K] [LinearOrder K] in
def Frame.valuesOf (frame : Frame K) (column : Date → K) : List K := frame.index.map column

omit [LinearOrder K] in
/-- `frame.reindex(index=index, fill_value=0.0)`. -/
def Frame.reindex (frame : Frame K) (index : List Date) : Frame K where
  index := index
  columns := frame.columns.map fun column =>
    (column.1, fun date => if date ∈ frame.index then column.2 date else 0)

omit [LinearOrder K] in
/-- `frame.mul(series, axis=0)`, where the series covers the index. -/
def Frame.mul (frame : Frame K) (series : Series Date K) : Frame K where
  index := frame.index
  columns := frame.columns.map fun column =>
    (column.1, fun date => column.2 date * (series.loc date).getD 0)

end Frames

section Rows

structure DecompositionRow (K : Type) where
  groupKey : String
  weightAverage : Option K
  marginalContribution : Option K
  componentContribution : Option K
  percentContribution : Option K

structure AttributionCalculationInputs (K : Type) where
  metricSeries : Series Date K
  groupMatrix : Frame K
  weightMatrix : Frame K
  riskTotal : K

variable (math : PyMath K)

omit [LinearOrder K] in
/-- `_observed_means`; the mean of no observations is unknown. -/
def observedMeans (weightMatrix : Frame K) : Dict String (Option K) :=
  Dict.ofList (weightMatrix.columns.map fun column =>
    (column.1, if weightMatrix.index.isEmpty then none
      else some (mean (weightMatrix.valuesOf column.2))))

/-- `_component_decomposition_row`. -/
def componentDecompositionRow (groupKey : String) (groupSeries : List K)
    (groupWeightAverage : Option K) (metricSeries : List K) (contributionDenominator : K)
    (annualizationBasis : Nat) (metricStd : K) : DecompositionRow K :=
  let cov := sampleCovariance groupSeries metricSeries
  let component := cov / metricStd * math.sqrt annualizationBasis
  { groupKey := groupKey
    weightAverage := groupWeightAverage
    marginalContribution :=
      match groupWeightAverage with
      | some average => if isCloseToZero average then none else some (component / average)
      | none => none
    componentContribution := some component
    percentContribution :=
      if isCloseToZero contributionDenominator then none
      else some (component / contributionDenominator) }

def componentDecomposition (groupMatrix weightMatrix : Frame K) (metricSeries : Series Date K)
    (contributionDenominator : K) (annualizationBasis : Nat) : List (DecompositionRow K) :=
  if groupMatrix.isEmpty || metricSeries.isEmpty then []
  else
    let std := sampleStd math metricSeries.values
    if isCloseToZero std then []
    else
      groupMatrix.columns.map fun column =>
        componentDecompositionRow math column.1 (groupMatrix.valuesOf column.2)
          ((observedMeans weightMatrix).getD column.1 none) metricSeries.values
          contributionDenominator annualizationBasis std

end Rows

section Inputs

variable (math : PyMath K) (texts : PyTexts K)

omit [LinearOrder K] in
def weighedReturnOf : Option (GroupReturnObservation K) → K
  | some point => point.weightRatio * fromPercent point.returnPp
  | none => 0

omit [LinearOrder K] in
def weightRatioOf : Option (GroupReturnObservation K) → K
  | some point => point.weightRatio
  | none => 0

omit [Field K] [LinearOrder K] in
/-- `per_date[date]` raises on a date without an observation. -/
def requireObservation (perDate : Dict Date (GroupReturnObservation K)) (date : Date) :
    Except SourceException Unit :=
  match perDate.get? date with
  | some _ => .ok ()
  | none => .error (.python (.keyError (texts.repr (.date date))))

omit [Field K] [LinearOrder K] in
/-- The observations of the groups, in the order of their keys. -/
def sortedObservationsByGroup (seriesByGroup : Dict String (GroupReturnSeries K)) :
    List (String × Dict Date (GroupReturnObservation K)) :=
  (seriesByGroup.items.map fun group => (group.1, perDate group.2)).insertionSort
    (fun g h => g.1 ≤ h.1)

def empiricalTotalRiskInputs (returnsSeries : Series Date K) (groupEvidence : GroupEvidencePack K)
    (annualizationBasis : Nat) : Except SourceException (AttributionCalculationInputs K) := do
  let groups := sortedObservationsByGroup groupEvidence.seriesByGroup
  groups.forM fun group => returnsSeries.index.forM (requireObservation texts group.2)
  .ok {
    metricSeries := returnsSeries
    groupMatrix := ⟨returnsSeries.index,
      groups.map fun group => (group.1, fun date => weighedReturnOf (group.2.get? date))⟩
    weightMatrix := ⟨returnsSeries.index,
      groups.map fun group => (group.1, fun date => weightRatioOf (group.2.get? date))⟩
    riskTotal := sampleStd math returnsSeries.values * math.sqrt annualizationBasis }

/-- `_total_risk_inputs`. -/
def totalRiskInputs (returnsSeries : Series Date K) (exposureWeights : Frame K)
    (annualizationBasis : Nat) : AttributionCalculationInputs K where
  metricSeries := returnsSeries
  groupMatrix := (exposureWeights.reindex returnsSeries.index).mul returnsSeries
  weightMatrix := exposureWeights
  riskTotal := sampleStd math returnsSeries.values * math.sqrt annualizationBasis

end Inputs

section Exposure

variable (points : List (ExposurePoint K)) (start stop : Date)
  (groupingDimension : GroupingDimension)

omit [Field K] [LinearOrder K] in
/-- The points of the window and the dimension, by date. -/
def scopedExposure : List (ExposurePoint K) :=
  (points.insertionSort (fun p q => p.date ≤ q.date)).filter fun point =>
    decide (start ≤ point.date) && decide (point.date ≤ stop) &&
      decide (point.groupingDimension = groupingDimension)

omit [Field K] [LinearOrder K] in
def exposureDates (rows : List (ExposurePoint K)) : List Date :=
  ((rows.map ExposurePoint.date).dedup).insertionSort (· ≤ ·)

omit [Field K] [LinearOrder K] in
def exposureKeys (rows : List (ExposurePoint K)) : List String :=
  ((rows.map ExposurePoint.groupKey).dedup).insertionSort (· ≤ ·)

omit [Field K] [LinearOrder K] in
def exposureWeightsAt (rows : List (ExposurePoint K)) (date : Date) (key : String) : List K :=
  (rows.filter fun point => decide (point.date = date) && decide (point.groupKey = key)).map
    ExposurePoint.weight

omit [Field K] [LinearOrder K] in
/-- The last label of each group that is given. -/
def exposureLabels (rows : List (ExposurePoint K)) : Dict String (Option String) :=
  Dict.ofList ((exposureKeys rows).map fun key =>
    (key, ((rows.filter fun point => point.groupKey = key).filterMap
      ExposurePoint.groupLabel).getLast?))

omit [Field K] in
/-- The first date and group with two different weights. -/
def conflictingExposure (rows : List (ExposurePoint K)) : Option (Date × String) :=
  ((exposureDates rows).flatMap fun date => (exposureKeys rows).map fun key =>
    (date, key)).find? fun cell => 1 < (exposureWeightsAt rows cell.1 cell.2).dedup.length

/-- A cell of the pivot, zero where the group has no weight on the date. -/
def exposureCell (rows : List (ExposurePoint K)) (key : String) (date : Date) : K :=
  if (exposureWeightsAt rows date key).isEmpty then 0 else mean (exposureWeightsAt rows date key)

omit [LinearOrder K] in
def weightSumTolerance : K := (2 : Nat) / (100 : Nat)

def pivotExposure : Except PyException
    (Frame K × Dict String (Option String) × List String) :=
  let rows := scopedExposure points start stop groupingDimension
  if rows.isEmpty then
    .ok (⟨[], []⟩, Table.empty, [s!"grouping:{groupingDimension.text}:no_exposure_data"])
  else
    match conflictingExposure rows with
    | some (date, key) => .error (.valueError ("conflicting duplicate exposure weights for " ++
        s!"{groupingDimension.text}:{key} on {date.isoformat}"))
    | none =>
      let weights : Frame K := ⟨exposureDates rows,
        (exposureKeys rows).map fun key => (key, exposureCell rows key)⟩
      let sums := weights.index.map fun date =>
        (weights.columns.map fun column => column.2 date).sum
      let flags := if sums.any (fun sum => decide (weightSumTolerance < |sum - 1|)) then
        [s!"grouping:{groupingDimension.text}:weight_not_sum_to_one"] else []
      .ok (weights, exposureLabels rows, flags)

end Exposure

section Sets

inductive AttributionMetric where
  | volatility
  | trackingError
deriving DecidableEq, Repr

def AttributionMetric.text : AttributionMetric → String
  | .volatility => "VOLATILITY"
  | .trackingError => "TRACKING_ERROR"

structure AttributionContributor (K : Type) where
  groupKey : String
  groupLabel : Option String
  weightAverage : Option K
  marginalContribution : Option K
  componentContribution : Option K
  percentContribution : Option K

/-- A set of `TOTAL_RISK`. -/
structure AttributionSetResult (K : Type) where
  metric : AttributionMetric
  groupingDimension : GroupingDimension
  totalValue : Option K
  reconciledSum : Option K
  residual : Option K
  contributors : List (AttributionContributor K)
  qualityFlags : List String
  riskBasis : RiskAttributionBasis

omit [Field K] [LinearOrder K] in
def emptyAttributionSet (metric : AttributionMetric) (groupingDimension : GroupingDimension)
    (qualityFlags : List String) : AttributionSetResult K where
  metric := metric
  groupingDimension := groupingDimension
  totalValue := none
  reconciledSum := none
  residual := none
  contributors := []
  qualityFlags := qualityFlags
  riskBasis := .weightProxy

omit [Field K] [LinearOrder K] in
def attributionContributors (rows : List (DecompositionRow K))
    (groupLabels : Dict String (Option String)) : List (AttributionContributor K) :=
  rows.map fun row =>
    { groupKey := row.groupKey
      groupLabel := groupLabels.getD row.groupKey none
      weightAverage := row.weightAverage
      marginalContribution := row.marginalContribution
      componentContribution := row.componentContribution
      percentContribution := row.percentContribution }

omit [LinearOrder K] in
/-- `_reconciled_attribution_set`. -/
def reconciledAttributionSet (metric : AttributionMetric) (groupingDimension : GroupingDimension)
    (riskTotal : K) (contributors : List (AttributionContributor K)) (qualityFlags : List String)
    (riskBasis : RiskAttributionBasis) : AttributionSetResult K :=
  let reconciledSum := (contributors.map fun c => c.componentContribution.getD 0).sum
  { metric := metric
    groupingDimension := groupingDimension
    totalValue := some riskTotal
    reconciledSum := some reconciledSum
    residual := some (riskTotal - reconciledSum)
    contributors := contributors
    qualityFlags := qualityFlags
    riskBasis := riskBasis }

variable (math : PyMath K) (texts : PyTexts K)

def calculatedAttributionSet (metric : AttributionMetric) (groupingDimension : GroupingDimension)
    (inputs : AttributionCalculationInputs K) (groupLabels : Dict String (Option String))
    (annualizationBasis : Nat) (qualityFlags : List String) (riskBasis : RiskAttributionBasis) :
    AttributionSetResult K :=
  let rows := componentDecomposition math inputs.groupMatrix inputs.weightMatrix
    inputs.metricSeries inputs.riskTotal annualizationBasis
  reconciledAttributionSet metric groupingDimension inputs.riskTotal
    (attributionContributors rows groupLabels) qualityFlags riskBasis

/-- What a set of `TOTAL_RISK` is built from. -/
structure AttributionSetBuildRequest (K : Type) where
  metric : AttributionMetric
  groupingDimension : GroupingDimension
  returnsSeries : Series Date K
  exposureWeights : Frame K
  groupLabels : Dict String (Option String)
  annualizationBasis : Nat
  qualityFlags : List String
  groupEvidence : Option (GroupEvidencePack K)

/-- A calculation of fewer than two observations is left out. -/
def setOfInputs (request : AttributionSetBuildRequest K) (inputs : AttributionCalculationInputs K)
    (qualityFlags : List String) (riskBasis : RiskAttributionBasis) : AttributionSetResult K :=
  if inputs.metricSeries.values.length < 2 then
    emptyAttributionSet request.metric request.groupingDimension
      (qualityFlags ++ ["series:insufficient_observations"])
  else
    calculatedAttributionSet math request.metric request.groupingDimension inputs
      request.groupLabels request.annualizationBasis qualityFlags riskBasis

def proxyInputs (request : AttributionSetBuildRequest K) : AttributionCalculationInputs K :=
  totalRiskInputs math request.returnsSeries request.exposureWeights request.annualizationBasis

/-- `build_attribution_set` of a `TOTAL_RISK` request. -/
def buildAttributionSet (request : AttributionSetBuildRequest K) :
    Except SourceException (AttributionSetResult K) :=
  if request.metric ≠ .volatility then
    .ok (emptyAttributionSet request.metric request.groupingDimension (request.qualityFlags ++
      [s!"metric:{request.metric.text}:unsupported_for_total_risk"]))
  else
    match request.groupEvidence with
    | none => .ok (setOfInputs math request (proxyInputs math request) request.qualityFlags
        .weightProxy)
    | some evidence =>
      if evidence.empirical then do
        let inputs ← empiricalTotalRiskInputs math texts request.returnsSeries evidence
          request.annualizationBasis
        .ok (setOfInputs math request inputs request.qualityFlags .empiricalGroupReturns)
      else .ok (setOfInputs math request (proxyInputs math request)
        (request.qualityFlags ++ evidence.degradationFlags) .weightProxy)

end Sets

section Period

/-- What a period brings to its set of `TOTAL_RISK` for one metric and dimension. -/
structure TotalRiskSetInputs (K : Type) where
  returns : List (ReturnPoint K)
  returns_unique : (returns.map ReturnPoint.date).Nodup
  exposureHistory : List (ExposurePoint K)
  start : Date
  stop : Date
  metric : AttributionMetric
  groupingDimension : GroupingDimension
  annualizationBasis : Nat
  annualization_pos : 1 ≤ annualizationBasis
  groupEvidence : Option (GroupEvidencePack K)

omit [Field K] [LinearOrder K] in
def windowReturnPoints (points : List (ReturnPoint K)) (start stop : Date) :
    List (ReturnPoint K) :=
  points.filter fun point => decide (start ≤ point.date) && decide (point.date ≤ stop)

omit [LinearOrder K] in
/-- `period_returns_series`. -/
def TotalRiskSetInputs.returnsSeries (inputs : TotalRiskSetInputs K) : Series Date K :=
  ((returnsFrame inputs.returns inputs.returns_unique).between inputs.start inputs.stop).map
    fromPercent

omit [LinearOrder K] in
def TotalRiskSetInputs.buildRequest (inputs : TotalRiskSetInputs K)
    (exposure : Frame K × Dict String (Option String) × List String) :
    AttributionSetBuildRequest K where
  metric := inputs.metric
  groupingDimension := inputs.groupingDimension
  returnsSeries := inputs.returnsSeries
  exposureWeights := exposure.1
  groupLabels := exposure.2.1
  annualizationBasis := inputs.annualizationBasis
  qualityFlags := exposure.2.2
  groupEvidence := inputs.groupEvidence

/-- One of the `_grouping_attribution_sets`, from the exposure of `_period_exposure_inputs`. -/
def totalRiskSet (math : PyMath K) (texts : PyTexts K) (inputs : TotalRiskSetInputs K) :
    Except SourceException (AttributionSetResult K) := do
  let exposure ← SourceException.ofPython (pivotExposure inputs.exposureHistory inputs.start
    inputs.stop inputs.groupingDimension)
  buildAttributionSet math texts (inputs.buildRequest exposure)

end Period

end LotusRisk
