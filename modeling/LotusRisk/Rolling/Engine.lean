import LotusRisk.Rolling.MetricOutputs

/-! The rolling metrics of every requested period and window, in both input modes. -/

namespace LotusRisk
set_option autoImplicit true

open Relational

variable {K : Type} [Field K] [LinearOrder K]

section PeriodSeries

structure RollingInputFrames (K : Type) where
  portfolio : Series Date K
  benchmark : Series Date K
  riskFree : Series Date K

structure RollingPeriodSeries (K : Type) where
  name : String
  start : Date
  stop : Date
  portfolioPp : Series Date K
  portfolioDecimal : Series Date K
  benchmarkDecimal : Series Date K
  riskFreeDecimal : Series Date K

def buildRollingInputFrames (request : RollingStatelessInput K) : RollingInputFrames K where
  portfolio := returnsFrame request.returns request.admitted.returns_unique
  benchmark := returnsFrame request.benchmarkReturns request.admitted.benchmark_unique
  riskFree := returnsFrame request.riskFreeReturns request.admitted.risk_free_unique

/-- The decimal returns of a dependency; an empty frame has no index to filter. -/
def dependencyPeriod (frame : Series Date K) (start stop : Date) : Series Date K :=
  if frame.isEmpty then emptySeries else (frame.between start stop).map fromPercent

def rollingPeriodSeries (frames : RollingInputFrames K) (request : RollingStatelessInput K)
    (period : RiskRequestPeriod) (openDate : Date) :
    Except PyException (RollingPeriodSeries K) := do
  let (start, stop) ← resolvePeriod period request.asOfDate openDate
  let portfolioPeriodPp := frames.portfolio.between start stop
  .ok {
    name := period.resolvedName
    start := start
    stop := stop
    portfolioPp := portfolioPeriodPp
    portfolioDecimal := portfolioPeriodPp.map fromPercent
    benchmarkDecimal := dependencyPeriod frames.benchmark start stop
    riskFreeDecimal := dependencyPeriod frames.riskFree start stop }

end PeriodSeries

section Windows

variable [FloorRing K] (math : PyMath K)

/-- What the metrics of one window are calculated from. -/
def windowContext (periodSeries : RollingPeriodSeries K) (options : RollingOptions)
    (windowLength : Int) : RollingMetricCalculationContext K where
  portfolioDecimal := periodSeries.portfolioDecimal
  benchmarkDecimal := periodSeries.benchmarkDecimal
  riskFreeDecimal := periodSeries.riskFreeDecimal
  windowLength := windowLength
  annualizationBasis := options.annualizationBasis
  minObs := minObservations windowLength options.minObservationsPolicy

/-- The flags are a set; they are read sorted and without repetition. -/
structure RollingWindowMetricAggregate (K : Type) where
  metricSeriesMap : Dict RollingMetric (RollingValues K)
  qualityFlags : List String
  alignedBenchmarkSeriesCount : Nat
  alignedRiskFreeSeriesCount : Nat

omit [Field K] [LinearOrder K] [FloorRing K] in
def RollingWindowMetricAggregate.addMetric (aggregate : RollingWindowMetricAggregate K)
    (metric : RollingMetric) (calculation : RollingMetricCalculation K) :
    RollingWindowMetricAggregate K where
  metricSeriesMap := aggregate.metricSeriesMap.set metric calculation.values
  qualityFlags := aggregate.qualityFlags ++ calculation.qualityFlags
  alignedBenchmarkSeriesCount :=
    max aggregate.alignedBenchmarkSeriesCount calculation.alignedBenchmarkSeriesCount
  alignedRiskFreeSeriesCount :=
    max aggregate.alignedRiskFreeSeriesCount calculation.alignedRiskFreeSeriesCount

omit [FloorRing K] in
def calculateWindowMetric (context : RollingMetricCalculationContext K)
    (aggregate : RollingWindowMetricAggregate K) (metric : RollingMetric) :
    Except PyException (RollingWindowMetricAggregate K) := do
  let calculation ← calculateRollingMetricValues math context metric
  .ok (aggregate.addMetric metric calculation)

omit [FloorRing K] in
def calculateWindowMetricAggregate (context : RollingMetricCalculationContext K)
    (requestedMetrics : List RollingMetric) :
    Except PyException (RollingWindowMetricAggregate K) :=
  requestedMetrics.foldlM (calculateWindowMetric math context) ⟨Table.empty, [], 0, 0⟩

structure RollingWindowResult (K : Type) where
  windowLength : Int
  metricSummaries : Dict RollingMetric (RollingMetricSummary K)
  metricSeries : Option (List (RollingMetricSeriesPoint K))
  metricSeriesContext : RollingMetricSeriesContext

def rollingWindowResult (aggregate : RollingWindowMetricAggregate K) (options : RollingOptions)
    (windowLength minObs : Int) : RollingWindowResult K :=
  let metricPoints :=
    if options.includeTimeSeries then some (rollingMetricSeriesPoints aggregate.metricSeriesMap)
    else none
  { windowLength := windowLength
    metricSummaries := Dict.ofList (aggregate.metricSeriesMap.items.map fun m =>
      (m.1, rollingMetricSummary m.2 minObs))
    metricSeries := metricPoints
    metricSeriesContext := rollingMetricSeriesContext options.includeTimeSeries metricPoints }

structure RollingWindowCalculation (K : Type) where
  windowResult : RollingWindowResult K
  qualityFlags : List String
  alignedBenchmarkSeriesCount : Nat
  alignedRiskFreeSeriesCount : Nat

def calculateWindowResult (periodSeries : RollingPeriodSeries K) (options : RollingOptions)
    (windowLength : Int) : Except PyException (RollingWindowCalculation K) := do
  let context := windowContext periodSeries options windowLength
  let aggregate ← calculateWindowMetricAggregate math context options.metrics
  .ok {
    windowResult := rollingWindowResult aggregate options windowLength context.minObs
    qualityFlags := aggregate.qualityFlags
    alignedBenchmarkSeriesCount := aggregate.alignedBenchmarkSeriesCount
    alignedRiskFreeSeriesCount := aggregate.alignedRiskFreeSeriesCount }

structure RollingPeriodWindowAggregate (K : Type) where
  windowResults : List (RollingWindowResult K)
  qualityFlags : List String
  alignedBenchmarkSeriesCount : Nat
  alignedRiskFreeSeriesCount : Nat

def rollingPeriodWindowAggregate (periodSeries : RollingPeriodSeries K)
    (options : RollingOptions) : Except PyException (RollingPeriodWindowAggregate K) := do
  let calculations ← options.windowLengths.mapM (calculateWindowResult math periodSeries options)
  .ok {
    windowResults := calculations.map RollingWindowCalculation.windowResult
    qualityFlags := calculations.flatMap RollingWindowCalculation.qualityFlags
    alignedBenchmarkSeriesCount :=
      (calculations.map RollingWindowCalculation.alignedBenchmarkSeriesCount).foldl max 0
    alignedRiskFreeSeriesCount :=
      (calculations.map RollingWindowCalculation.alignedRiskFreeSeriesCount).foldl max 0 }

end Windows

section Periods

/-- The `RollingBenchmarkContext` or `RollingRiskFreeContext` of a period. -/
structure RollingDependencyDecision where
  requested : Bool
  available : Bool
  aligned : Bool
  reason : String
deriving DecidableEq, Repr

def rollingDependencyDecision (requested : Bool) (sourceSeriesCount alignedSeriesCount : Nat)
    (unavailableReason : String) : RollingDependencyDecision :=
  if !requested then ⟨false, false, false, "NOT_REQUESTED"⟩
  else if sourceSeriesCount = 0 then ⟨true, false, false, unavailableReason⟩
  else if alignedSeriesCount = 0 then ⟨true, true, false, "NO_ALIGNED_OBSERVATIONS"⟩
  else ⟨true, true, true, "APPLIED"⟩

def rollingBenchmarkContext (requestedMetrics : List RollingMetric)
    (benchmarkSeriesCount alignedBenchmarkSeriesCount : Nat) : RollingDependencyDecision :=
  rollingDependencyDecision (requestedMetrics.any RollingMetric.isBenchmark) benchmarkSeriesCount
    alignedBenchmarkSeriesCount "BENCHMARK_UNAVAILABLE"

def rollingRiskFreeContext (requestedMetrics : List RollingMetric)
    (riskFreeSeriesCount alignedRiskFreeSeriesCount : Nat) : RollingDependencyDecision :=
  rollingDependencyDecision (requestedMetrics.contains .rollingSharpe) riskFreeSeriesCount
    alignedRiskFreeSeriesCount "RISK_FREE_UNAVAILABLE"

structure RollingPeriodResult (K : Type) where
  startDate : Date
  endDate : Date
  seriesCount : Nat
  benchmarkSeriesCount : Nat
  alignedBenchmarkSeriesCount : Nat
  riskFreeSeriesCount : Nat
  alignedRiskFreeSeriesCount : Nat
  windowLengthsRequested : List Int
  windowCountRequested : Nat
  windowLengthsEmitted : List Int
  windowCountEmitted : Nat
  benchmarkContext : RollingDependencyDecision
  riskFreeContext : RollingDependencyDecision
  windowResults : List (RollingWindowResult K)
  qualityFlags : List String
  error : Option String

omit [Field K] [LinearOrder K] in
def insufficientRollingPeriodResult (periodSeries : RollingPeriodSeries K)
    (options : RollingOptions) : RollingPeriodResult K where
  startDate := periodSeries.start
  endDate := periodSeries.stop
  seriesCount := periodSeries.portfolioPp.index.length
  benchmarkSeriesCount := 0
  alignedBenchmarkSeriesCount := 0
  riskFreeSeriesCount := 0
  alignedRiskFreeSeriesCount := 0
  windowLengthsRequested := options.windowLengths
  windowCountRequested := options.windowLengths.length
  windowLengthsEmitted := []
  windowCountEmitted := 0
  benchmarkContext := rollingBenchmarkContext options.metrics 0 0
  riskFreeContext := rollingRiskFreeContext options.metrics 0 0
  windowResults := []
  qualityFlags := []
  error := some "Insufficient data"

omit [Field K] [LinearOrder K] in
def calculatedRollingPeriodResult (periodSeries : RollingPeriodSeries K)
    (aggregate : RollingPeriodWindowAggregate K) (options : RollingOptions) :
    RollingPeriodResult K :=
  let benchmarkSeriesCount := periodSeries.benchmarkDecimal.index.length
  let riskFreeSeriesCount := periodSeries.riskFreeDecimal.index.length
  { startDate := periodSeries.start
    endDate := periodSeries.stop
    seriesCount := periodSeries.portfolioDecimal.index.length
    benchmarkSeriesCount := benchmarkSeriesCount
    alignedBenchmarkSeriesCount := aggregate.alignedBenchmarkSeriesCount
    riskFreeSeriesCount := riskFreeSeriesCount
    alignedRiskFreeSeriesCount := aggregate.alignedRiskFreeSeriesCount
    windowLengthsRequested := options.windowLengths
    windowCountRequested := options.windowLengths.length
    windowLengthsEmitted := aggregate.windowResults.map RollingWindowResult.windowLength
    windowCountEmitted := aggregate.windowResults.length
    benchmarkContext := rollingBenchmarkContext options.metrics benchmarkSeriesCount
      aggregate.alignedBenchmarkSeriesCount
    riskFreeContext := rollingRiskFreeContext options.metrics riskFreeSeriesCount
      aggregate.alignedRiskFreeSeriesCount
    windowResults := aggregate.windowResults
    qualityFlags := aggregate.qualityFlags.dedup.insertionSort (· ≤ ·)
    error := none }

variable [FloorRing K] (math : PyMath K)

def calculateRollingPeriodResult (periodSeries : RollingPeriodSeries K)
    (options : RollingOptions) : Except PyException (RollingPeriodResult K) :=
  if periodSeries.portfolioPp.index.length < (2 : Nat) then
    .ok (insufficientRollingPeriodResult periodSeries options)
  else do
    let aggregate ← rollingPeriodWindowAggregate math periodSeries options
    .ok (calculatedRollingPeriodResult periodSeries aggregate options)

def rollingPeriodEntry (request : RollingStatelessInput K) (openDate : Date)
    (period : RiskRequestPeriod) : Except PyException (String × RollingPeriodResult K) := do
  let periodSeries ← rollingPeriodSeries (buildRollingInputFrames request) request period openDate
  let result ← calculateRollingPeriodResult math periodSeries request.rollingOptions
  .ok (periodSeries.name, result)

def rollingPeriodResults (request : RollingStatelessInput K) (openDate : Date) :
    Except PyException (Dict String (RollingPeriodResult K)) := do
  let results ← request.periods.mapM (rollingPeriodEntry math request openDate)
  .ok (Dict.ofList results)

/-- The results of `calculate_rolling_metrics`; the first date is that of a frame with rows. -/
def calculateRollingMetrics (request : RollingStatelessInput K) :
    Except PyException (Dict String (RollingPeriodResult K)) :=
  match (buildRollingInputFrames request).portfolio.index.min? with
  | none => .ok Table.empty
  | some openDate => rollingPeriodResults math request openDate

end Periods

section Stateful

/-- What the upstream services gave for a stateful request. -/
structure ResolvedStatefulRollingInputs (K : Type) where
  stateful : RollingStatefulInput
  portfolioPoints : List (ReturnPoint K)
  benchmarkPoints : List (ReturnPoint K)
  riskFreePoints : List (ReturnPoint K)

omit [Field K] [LinearOrder K] in
def validateStatefulWorkload (resolved : ResolvedStatefulRollingInputs K) :
    Except PyException Unit := do
  let maxSourcedObservations := max (max resolved.portfolioPoints.length
    resolved.benchmarkPoints.length) resolved.riskFreePoints.length
  raiseIf (decide (rollingMaxStatelessObservations < maxSourcedObservations))
    (.valueError s!"stateful rolling sourced return observations exceed supported maximum {rollingMaxStatelessObservations}")
  validateRollingTimeSeriesWorkload resolved.stateful.periods.length
    resolved.stateful.rollingOptions.windowLengths.length resolved.portfolioPoints.length
    resolved.stateful.rollingOptions.includeTimeSeries

omit [Field K] [LinearOrder K] in
def buildStatelessRequest (resolved : ResolvedStatefulRollingInputs K) :
    Except PyException (RollingStatelessInput K) := do
  validateStatefulWorkload resolved
  RollingStatelessInput.ofFields {
    asOfDate := resolved.stateful.asOfDate
    periods := resolved.stateful.periods
    returns := resolved.portfolioPoints
    benchmarkReturns := resolved.benchmarkPoints
    riskFreeReturns := resolved.riskFreePoints
    rollingOptions := resolved.stateful.rollingOptions }

def calculateStatefulResponse [FloorRing K] (math : PyMath K)
    (resolved : ResolvedStatefulRollingInputs K) :
    Except PyException (Dict String (RollingPeriodResult K)) := do
  let stateless ← buildStatelessRequest resolved
  calculateRollingMetrics math stateless

end Stateful

end LotusRisk
