import LotusRisk.Risk.Metrics
import LotusRisk.Risk.Periods
import LotusRisk.Risk.RiskFree

/-! The risk metrics of each requested period of a return series. -/

namespace LotusRisk
set_option autoImplicit true

open Relational

inductive RiskMetric where
  | volatility
  | drawdown
  | sharpe
  | sortino
  | benchmark (metric : BenchmarkMetric)
  | var
deriving DecidableEq, Repr

def BenchmarkMetric.text : BenchmarkMetric → String
  | .beta => "BETA"
  | .trackingError => "TRACKING_ERROR"
  | .informationRatio => "INFORMATION_RATIO"

def RiskMetric.text : RiskMetric → String
  | .volatility => "VOLATILITY"
  | .drawdown => "DRAWDOWN"
  | .sharpe => "SHARPE"
  | .sortino => "SORTINO"
  | .benchmark metric => metric.text
  | .var => "VAR"

def requestedBenchmarkMetrics (metrics : List RiskMetric) : List BenchmarkMetric :=
  metrics.filterMap fun metric =>
    match metric with
    | .benchmark metric => some metric
    | _ => none

variable {K : Type} [Field K] [LinearOrder K]

/-- The input of a calculation; the fields of its scope that no metric reads are left out. -/
structure StatelessRiskInput (K : Type) [Field K] [LinearOrder K] where
  asOfDate : Date
  periods : List RiskRequestPeriod
  metrics : List RiskMetric
  options : RiskOptions K
  portfolioOpenDate : Date
  returns : List (ReturnPoint K)
  benchmarkReturns : List (ReturnPoint K)
  names_unique : (periods.map RiskRequestPeriod.resolvedName).Nodup
  returns_unique : (returns.map ReturnPoint.date).Nodup
  benchmark_unique : (benchmarkReturns.map ReturnPoint.date).Nodup

section Frames

def datedValue (point : ReturnPoint K) : Date × K := (point.date, point.value)

omit [Field K] [LinearOrder K] in
theorem map_fst_datedValue (points : List (ReturnPoint K)) :
    (points.map datedValue).map Prod.fst = points.map ReturnPoint.date := by
  rw [List.map_map]
  rfl

/-- The points as a series; the frame of an empty list has no columns. -/
def returnsFrame (points : List (ReturnPoint K)) (h : (points.map ReturnPoint.date).Nodup) :
    Series Date K :=
  Series.sorted (points.map datedValue) (by rw [map_fst_datedValue]; exact h)

end Frames

section MetricSeries

variable (math : PyMath K)

structure MetricReturnSeriesResolution (K : Type) where
  series : Series Date K
  error : Option String

def emptySeries : Series Date K := Series.ofPoints [] List.Pairwise.nil

def metricReturnSeries (periodReturns : Series Date K) (frequency : Frequency)
    (useLogReturns : Bool) : Except PyException (Series Date K) := do
  let metricSeries ← resampleReturns periodReturns frequency
  if useLogReturns then toLogReturns math metricSeries else .ok metricSeries

/-- `except ValueError as exc`. -/
def catchValueError (result : Except PyException α) (handle : String → α) : Except PyException α :=
  match result with
  | .error (.valueError message) => .ok (handle message)
  | result => result

def resolveMetricReturnSeries (periodReturns : Series Date K) (frequency : Frequency)
    (useLogReturns : Bool) : Except PyException (MetricReturnSeriesResolution K) :=
  catchValueError
    ((metricReturnSeries math periodReturns frequency useLogReturns).map
      (fun series => ⟨series, none⟩))
    (fun message => ⟨emptySeries, some message⟩)

def metricSeriesErrorMap (metrics : List RiskMetric) (message : String) :
    List (String × RiskValue K) :=
  ([RiskMetric.volatility, .sharpe, .sortino, .var].filter (fun metric => metric ∈ metrics)).map
    (fun metric => (metric.text, metricError message))

end MetricSeries

section PeriodMetrics

variable [FloorRing K] (math : PyMath K)

/-- What the metrics of one period are calculated from. -/
structure PeriodMetricCalculationRequest (K : Type) [Field K] [LinearOrder K] where
  metrics : List RiskMetric
  options : RiskOptions K
  start : Date
  stop : Date
  annualFactor : Nat
  periodicRf : K
  periodicMar : K
  periodReturns : Series Date K
  benchmark : Series Date K

def buildNonBenchmarkCalculators (metricSeries varSeries : Series Date K)
    (request : PeriodMetricCalculationRequest K) :
    List (RiskMetric × Except PyException (RiskValue K)) :=
  [(.volatility, calculateVolatility math metricSeries.values request.annualFactor),
    (.drawdown, calculateDrawdown request.periodReturns),
    (.sharpe, calculateSharpe math metricSeries.values request.periodicRf request.annualFactor),
    (.sortino, calculateSortino math metricSeries.values request.periodicMar request.annualFactor
      request.options.marAnnualRate),
    (.var, calculateVar math varSeries.values request.options.var.method
      request.options.var.confidence request.options.var.horizonDays
      request.options.var.includeExpectedShortfall "DAILY")]

omit [Field K] [LinearOrder K] [FloorRing K] in
/-- A calculator's `ValueError` is the error of its metric. -/
def calculated (entry : RiskMetric × Except PyException (RiskValue K)) :
    Except PyException (String × RiskValue K) :=
  (catchValueError entry.2 metricError).map (fun value => (entry.1.text, value))

omit [Field K] [LinearOrder K] [FloorRing K] in
def calculateRequestedNonBenchmarkMetrics (metrics : List RiskMetric)
    (calculators : List (RiskMetric × Except PyException (RiskValue K))) :
    Except PyException (List (String × RiskValue K)) :=
  (calculators.filter (fun entry => entry.1 ∈ metrics)).mapM calculated

omit [FloorRing K] in
def drawdownMetricMap (request : PeriodMetricCalculationRequest K) :
    Except PyException (List (String × RiskValue K)) :=
  calculateRequestedNonBenchmarkMetrics request.metrics
    [(.drawdown, calculateDrawdown request.periodReturns)]

structure PeriodNonBenchmarkMetrics (K : Type) where
  metricSeries : Series Date K
  metricMap : List (String × RiskValue K)
  metricSeriesError : Option String

def periodNonBenchmarkMetrics (request : PeriodMetricCalculationRequest K) :
    Except PyException (PeriodNonBenchmarkMetrics K) := do
  let metricSeries ← resolveMetricReturnSeries math request.periodReturns request.options.frequency
    request.options.useLogReturns
  let varSeries ← resolveMetricReturnSeries math request.periodReturns .daily
    request.options.useLogReturns
  match metricSeries.error with
  | some message => do
    let drawdown ← drawdownMetricMap request
    .ok {
      metricSeries := metricSeries.series
      metricMap := drawdown ++ metricSeriesErrorMap request.metrics message
      metricSeriesError := some message }
  | none =>
    let calculators := buildNonBenchmarkCalculators math metricSeries.series varSeries.series request
    match varSeries.error with
    | some message => do
      let metricMap ← calculateRequestedNonBenchmarkMetrics request.metrics
        (calculators.filter (fun entry => entry.1 ≠ .var))
      .ok {
        metricSeries := metricSeries.series
        metricMap := metricMap ++
          (if RiskMetric.var ∈ request.metrics then
            [(RiskMetric.var.text, metricError message)] else [])
        metricSeriesError := none }
    | none => do
      let metricMap ← calculateRequestedNonBenchmarkMetrics request.metrics calculators
      .ok {
        metricSeries := metricSeries.series
        metricMap := metricMap
        metricSeriesError := none }

end PeriodMetrics

section BenchmarkPeriodMetrics

variable [FloorRing K] (math : PyMath K)

structure BenchmarkPeriodMetrics (K : Type) where
  metricMap : List (String × RiskValue K)
  alignedCount : Nat
  benchmarkObservationCount : Nat

omit [Field K] [LinearOrder K] [FloorRing K] in
def benchmarkMetricErrors (metrics : List BenchmarkMetric) (message : String) :
    List (String × RiskValue K) :=
  metrics.map (fun metric => (metric.text, metricError message))

omit [FloorRing K] in
def alignAndResampleBenchmark (benchmark : Series Date K) (start stop : Date)
    (options : RiskOptions K) : Except PyException (Series Date K) :=
  if benchmark.isEmpty then .ok emptySeries
  else metricReturnSeries math (benchmark.between start stop) options.frequency options.useLogReturns

omit [Field K] [LinearOrder K] [FloorRing K] in
/-- The inner join on the dates. -/
def alignedBenchmarkSeries (metricSeries benchmarkSeries : Series Date K) : List (K × K) :=
  metricSeries.points.filterMap fun point =>
    (benchmarkSeries.loc point.1).map fun benchmark => (point.2, benchmark)

omit [FloorRing K] in
def calculateAlignedBenchmarkMetrics (metricSeries benchmarkPeriod : Series Date K)
    (metrics : List BenchmarkMetric) (annualFactor : Nat) :
    Except PyException (List (String × RiskValue K) × Nat) :=
  let aligned := alignedBenchmarkSeries metricSeries benchmarkPeriod
  if aligned.length < (2 : Nat) then
    .ok (benchmarkMetricErrors metrics "Insufficient aligned observations", aligned.length)
  else do
    let metricMap ← metrics.mapM fun metric =>
      (catchValueError (calculateBenchmarkMetric math (aligned.map Prod.fst) (aligned.map Prod.snd)
        annualFactor metric) metricError).map (fun value => (metric.text, value))
    .ok (metricMap, aligned.length)

omit [Field K] [LinearOrder K] [FloorRing K] in
def insufficientBenchmarkPeriodMetrics (metrics : List BenchmarkMetric)
    (benchmarkObservationCount : Nat) (message : String) : BenchmarkPeriodMetrics K where
  metricMap := benchmarkMetricErrors metrics message
  alignedCount := 0
  benchmarkObservationCount := benchmarkObservationCount

omit [FloorRing K] in
/-- `_benchmark_period_metrics` of the benchmark module. -/
def availableBenchmarkPeriodMetrics (request : PeriodMetricCalculationRequest K)
    (metricSeries : Series Date K) (metrics : List BenchmarkMetric) :
    Except PyException (BenchmarkPeriodMetrics K) :=
  match alignAndResampleBenchmark math request.benchmark request.start request.stop
      request.options with
  | .error (.valueError message) => .ok (insufficientBenchmarkPeriodMetrics metrics 0 message)
  | .error e => .error e
  | .ok benchmarkPeriod =>
    if benchmarkPeriod.isEmpty then
      .ok (insufficientBenchmarkPeriodMetrics metrics 0 "Insufficient aligned observations")
    else do
      let (metricMap, alignedCount) ← calculateAlignedBenchmarkMetrics math metricSeries
        benchmarkPeriod metrics request.annualFactor
      .ok ⟨metricMap, alignedCount, benchmarkPeriod.index.length⟩

def prepareBenchmarkContext (benchmarkEmpty : Bool) (alignedCount : Nat)
    (metrics : List BenchmarkMetric) : BenchmarkContextPayload where
  requested := true
  available := !benchmarkEmpty
  aligned := decide (0 < alignedCount)
  reason :=
    if benchmarkEmpty then "BENCHMARK_UNAVAILABLE"
    else if alignedCount = 0 then "NO_ALIGNED_OBSERVATIONS" else "APPLIED"
  requestedMetricCount := metrics.length
  requestedMetrics := metrics.map BenchmarkMetric.text

omit [FloorRing K] in
def calculateBenchmarkPeriodMetrics (request : PeriodMetricCalculationRequest K)
    (metricSeries : Series Date K) (metrics : List BenchmarkMetric) :
    Except PyException (BenchmarkPeriodMetrics K × BenchmarkContextPayload) := do
  let result ←
    if request.benchmark.isEmpty then
      .ok (insufficientBenchmarkPeriodMetrics metrics 0
        "Benchmark returns required for benchmark-dependent metric")
    else availableBenchmarkPeriodMetrics math request metricSeries metrics
  .ok (result, prepareBenchmarkContext request.benchmark.isEmpty result.alignedCount metrics)

omit [FloorRing K] in
/-- `_period_benchmark_metrics`. -/
def periodBenchmarkMetrics (request : PeriodMetricCalculationRequest K)
    (nonBenchmark : PeriodNonBenchmarkMetrics K) :
    Except PyException (Option (BenchmarkPeriodMetrics K × BenchmarkContextPayload)) :=
  let metrics := requestedBenchmarkMetrics request.metrics
  if metrics.isEmpty then .ok none
  else
    match nonBenchmark.metricSeriesError with
    | some message =>
      .ok (some (insufficientBenchmarkPeriodMetrics metrics 0 message, {
        requested := true
        available := !request.benchmark.isEmpty
        aligned := false
        reason := "PORTFOLIO_RETURN_SERIES_INVALID"
        requestedMetricCount := metrics.length
        requestedMetrics := metrics.map BenchmarkMetric.text }))
    | none =>
      (calculateBenchmarkPeriodMetrics math request nonBenchmark.metricSeries metrics).map some

end BenchmarkPeriodMetrics

section PeriodResults

variable [FloorRing K] (math : PyMath K)

structure RiskPeriodResult (K : Type) where
  startDate : Date
  endDate : Date
  portfolioObservationCount : Nat
  benchmarkObservationCount : Nat
  alignedBenchmarkObservationCount : Nat
  benchmarkContext : Option BenchmarkContextPayload
  metrics : Dict String (RiskValue K)

/-- The result of a period from what is calculated in it. -/
def calculatePeriodResult (request : PeriodMetricCalculationRequest K) :
    Except PyException (RiskPeriodResult K) := do
  let nonBenchmark ← periodNonBenchmarkMetrics math request
  let benchmark ← periodBenchmarkMetrics math request nonBenchmark
  .ok {
    startDate := request.start
    endDate := request.stop
    portfolioObservationCount := request.periodReturns.index.length
    benchmarkObservationCount :=
      match benchmark with
      | some (result, _) => if request.benchmark.isEmpty then 0 else result.benchmarkObservationCount
      | none => 0
    alignedBenchmarkObservationCount := (benchmark.map (fun b => b.1.alignedCount)).getD 0
    benchmarkContext := benchmark.map Prod.snd
    metrics := Dict.ofList (nonBenchmark.metricMap ++
      (benchmark.map (fun b => b.1.metricMap)).getD []) }

/-- The rates that the periods of a request share. -/
structure SharedRates (K : Type) where
  annualFactor : Nat
  periodicRf : K
  periodicMar : K

omit [FloorRing K] in
/-- What is calculated in a window of a request. -/
def periodCalculation (request : StatelessRiskInput K) (rates : SharedRates K)
    (start stop : Date) : PeriodMetricCalculationRequest K where
  metrics := request.metrics
  options := request.options
  start := start
  stop := stop
  annualFactor := rates.annualFactor
  periodicRf := rates.periodicRf
  periodicMar := rates.periodicMar
  periodReturns := (returnsFrame request.returns request.returns_unique).between start stop
  benchmark := returnsFrame request.benchmarkReturns request.benchmark_unique

def buildSinglePeriodResult (request : StatelessRiskInput K) (rates : SharedRates K)
    (period : RiskRequestPeriod) : Except PyException (String × RiskPeriodResult K) := do
  let (start, stop) ← resolvePeriod period request.asOfDate request.portfolioOpenDate
  let result ← calculatePeriodResult math (periodCalculation request rates start stop)
  .ok (period.resolvedName, result)

def buildPeriodResults (request : StatelessRiskInput K) (rates : SharedRates K) :
    Except PyException (Dict String (RiskPeriodResult K)) := do
  let results ← request.periods.mapM (buildSinglePeriodResult math request rates)
  .ok (Dict.ofList results)

omit [FloorRing K] in
def SourceException.ofPython (result : Except PyException α) : Except SourceException α :=
  result.mapError .python

theorem SourceException.ofPython_eq_ok {x : Except PyException α} :
    SourceException.ofPython x = .ok a ↔ x = .ok a := mapError_eq_ok

/-- The period results of `calculate_risk`. -/
def calculateRisk (request : StatelessRiskInput K) :
    Except SourceException (Dict String (RiskPeriodResult K)) := do
  let annualFactor := annualizationFactorForOptions request.options
  if request.returns.isEmpty then .ok Table.empty
  else do
    let (periodicRf, periodicMar) ← resolvePeriodicRates math.pow request.options annualFactor
    SourceException.ofPython
      (buildPeriodResults math request ⟨annualFactor, periodicRf, periodicMar⟩)

end PeriodResults

end LotusRisk
