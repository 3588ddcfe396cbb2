import LotusRisk.Risk.SourceReturns
import LotusRisk.Rolling.Contracts

/-! The stateful risk calculation: what is requested of the services, and what is calculated from
their answers. -/

namespace LotusRisk
set_option autoImplicit true

open Relational

section Window

/-- `date.min`. -/
def dateMin : Date := ⟨1, 1, 1, by decide⟩

theorem dateMin_le (d : Date) : dateMin ≤ d := by
  apply not_lt.1
  intro hlt
  have hvalid := d.valid
  rcases Date.lt_iff_fields.1 hlt with hy | ⟨_, hm | ⟨_, hd⟩⟩
  · exact absurd hvalid.1 (not_le.2 hy)
  · exact absurd hvalid.2.2.1 (not_le.2 hm)
  · exact absurd hvalid.2.2.2.2.1 (not_le.2 hd)

def emptyIterable (function : String) : PyException :=
  .valueError s!"{function}() iterable argument is empty"

/-- `(min(dates), max(dates'))`. -/
def minAndMax (dates dates' : List Date) : Except PyException (Date × Date) :=
  match dates.min?, dates'.max? with
  | none, _ => .error (emptyIterable "min")
  | _, none => .error (emptyIterable "max")
  | some first, some last => .ok (first, last)

def buildReturnsSeriesWindow (periods : List RiskRequestPeriod) (asOfDate : Date) :
    Except PyException ReturnsSeriesWindow :=
  if periods.any (fun period => decide (period.type = .sinceInception)) then .ok (.relative "SI")
  else do
    let resolvedRanges ← periods.mapM (fun period => resolvePeriod period asOfDate dateMin)
    let (startDate, endDate) ← minAndMax (resolvedRanges.map Prod.fst) (resolvedRanges.map Prod.snd)
    .ok (.explicit startDate.isoformat endDate.isoformat)

end Window

section Requests

inductive NetOrGross where
  | net
  | gross
deriving DecidableEq, Repr

def NetOrGross.text : NetOrGross → String
  | .net => "NET"
  | .gross => "GROSS"

structure SeriesSelection where
  includePortfolio : Bool
  includeBenchmark : Bool
  includeRiskFree : Bool
deriving DecidableEq

structure DataPolicy where
  missingDataPolicy : String
  fillMethod : String
  calendarPolicy : String
deriving DecidableEq

structure BenchmarkSelection where
  benchmarkId : String
  returnSource : String
deriving DecidableEq

structure ReturnsSeriesRequest where
  portfolioId : String
  asOfDate : String
  window : ReturnsSeriesWindow
  frequency : Frequency
  metricBasis : NetOrGross
  reportingCurrency : Option String
  seriesSelection : SeriesSelection
  dataPolicy : DataPolicy
  inputMode : String
  benchmark : Option BenchmarkSelection
deriving DecidableEq

/-- The request with `missing_data_policy="ALLOW_PARTIAL"` and without a risk-free series. -/
def buildStatefulReturnsSeriesRequest (portfolioId : String) (asOfDate : Date)
    (periods : List RiskRequestPeriod) (frequency : Frequency) (metricBasis : NetOrGross)
    (reportingCurrency : Option String) (includeBenchmark : Bool) (benchmarkId : Option String) :
    Except PyException ReturnsSeriesRequest := do
  let window ← buildReturnsSeriesWindow periods asOfDate
  .ok {
    portfolioId := portfolioId
    asOfDate := asOfDate.isoformat
    window := window
    frequency := frequency
    metricBasis := metricBasis
    reportingCurrency := reportingCurrency
    seriesSelection := ⟨true, includeBenchmark, false⟩
    dataPolicy := ⟨"ALLOW_PARTIAL", "NONE", "BUSINESS"⟩
    inputMode := "stateful"
    benchmark :=
      match benchmarkId with
      | some benchmarkId =>
        if includeBenchmark && benchmarkId != "" then some ⟨benchmarkId, "calculated"⟩ else none
      | none => none }

structure CoreSnapshotRequest where
  snapshotMode : String
  asOfDate : String
  sections : List String
deriving DecidableEq

structure LotusPerformanceClient (K : Type) where
  getReturnsSeries : ReturnsSeriesRequest → Except SourceException (List (String × PyValue K))

structure LotusCoreClient (K : Type) where
  getCoreSnapshot : String → CoreSnapshotRequest → Except SourceException (PyValue K)
  getRiskFreeSeries : RiskFreeSeriesRequest → Except SourceException (List (String × PyValue K))

end Requests

section Currency

variable {K : Type}

def lotusCoreSnapshotOperation : String := "/integration/portfolios/\x7bportfolio_id\x7d/core-snapshot"

/-- `_currency`. -/
def currencyOf : PyValue K → Option String
  | .str value => if pyStrip value = "" then none else some (pyStrip value)
  | _ => none

def invalidSnapshot (message : String) : SourceException :=
  .upstream (invalidUpstreamPayload "lotus-core" lotusCoreSnapshotOperation message [])

def snapshotCurrency (snapshot : PyValue K) : Except SourceException String :=
  match getEntry (mappingOrEmpty snapshot) "valuation_context" with
  | .dict context =>
    match (currencyOf (getEntry context "reporting_currency")).or
        (currencyOf (getEntry context "portfolio_currency")) with
    | some currency => .ok currency
    | none => .error (invalidSnapshot
        "lotus-core core-snapshot missing portfolio/reporting currency")
  | _ => .error (invalidSnapshot
      "lotus-core core-snapshot missing valuation context for risk-free currency")

/-- The currency of `resolve_portfolio_reporting_currency`. -/
def resolvePortfolioReportingCurrency (coreClient : Option (LotusCoreClient K))
    (portfolioId : String) (asOfDate : Date) (requestedCurrency : Option String)
    (requiresRiskFree : Bool) : Except SourceException (Option String) :=
  if requestedCurrency.getD "" ≠ "" ∨ requiresRiskFree = false then .ok requestedCurrency
  else
    match coreClient with
    | none => .error (.python
        (.valueError "lotus-core client is required for stateful risk-free sourcing"))
    | some client => do
      let snapshot ← client.getCoreSnapshot portfolioId
        ⟨"BASELINE", asOfDate.isoformat, ["portfolio_totals"]⟩
      let currency ← snapshotCurrency snapshot
      .ok (some currency)

end Currency

section Metrics

def RiskMetric.isBenchmark : RiskMetric → Bool
  | .benchmark _ => true
  | _ => false

/-- `RISK_METRICS_REQUIRING_RISK_FREE`. -/
def riskMetricsRequiringRiskFree : List RiskMetric := [.sharpe]

def requiresRiskFree (metrics : List RiskMetric) : Bool :=
  metrics.any fun metric => decide (metric ∈ riskMetricsRequiringRiskFree)

end Metrics

section Sourcing

variable {K : Type} [Field K] [LinearOrder K]

structure StatefulRiskInput (K : Type) [Field K] [LinearOrder K] where
  portfolioId : String
  asOfDate : Date
  reportingCurrency : Option String
  benchmarkId : Option String
  netOrGross : NetOrGross
  periods : List RiskRequestPeriod
  metrics : List RiskMetric
  options : RiskOptions K
  names_unique : (periods.map RiskRequestPeriod.resolvedName).Nodup

def requiresBenchmark (stateful : StatefulRiskInput K) : Bool :=
  stateful.metrics.any RiskMetric.isBenchmark

def buildStatefulSourceRequest (stateful : StatefulRiskInput K) :
    Except PyException ReturnsSeriesRequest :=
  buildStatefulReturnsSeriesRequest stateful.portfolioId stateful.asOfDate stateful.periods
    stateful.options.frequency stateful.netOrGross stateful.reportingCurrency
    (requiresBenchmark stateful) stateful.benchmarkId

omit [Field K] [LinearOrder K] in
def portfolioOpenDate (seriesPoints : List (ReturnPoint K)) (asOfDate : Date) : Date :=
  (seriesPoints.map ReturnPoint.date).min?.getD asOfDate

omit [Field K] [LinearOrder K] in
def riskFreeWindowBounds (portfolioPoints : List (ReturnPoint K)) :
    Except PyException (Date × Date) :=
  minAndMax (portfolioPoints.map ReturnPoint.date) (portfolioPoints.map ReturnPoint.date)

def buildStatefulRiskFreeRequest (stateful : StatefulRiskInput K)
    (portfolioPoints : List (ReturnPoint K)) : Except PyException (Option RiskFreeSeriesRequest) :=
  if requiresRiskFree stateful.metrics = false then .ok none
  else
    match stateful.reportingCurrency with
    | none => .error (.valueError "reporting currency is required for stateful risk-free sourcing")
    | some currency => do
      let (startDate, endDate) ← riskFreeWindowBounds portfolioPoints
      .ok (some (buildRiskFreeSeriesRequest currency stateful.asOfDate startDate endDate))

omit [Field K] [LinearOrder K] in
def fetchRiskFreePayload (coreClient : Option (LotusCoreClient K)) :
    Option RiskFreeSeriesRequest → Except SourceException (Option (List (String × PyValue K)))
  | none => .ok none
  | some request =>
    match coreClient with
    | none => .error (.python
        (.valueError "lotus-core client is required for stateful Sharpe risk-free sourcing"))
    | some client => (client.getRiskFreeSeries request).map some

structure StatefulRiskSource (K : Type) [Field K] [LinearOrder K] [FloorRing K] where
  sourcePayload : ReturnsSeriesRequest
  riskFreeRequest : Option RiskFreeSeriesRequest
  reportingCurrency : Option String
  portfolioPoints : List (ReturnPoint K)
  benchmarkPoints : List (ReturnPoint K)
  riskFreePoints : List (ReturnPoint K)
  evidence : SourceReturnsEvidence K

def StatefulRiskInput.identity (stateful : StatefulRiskInput K) : ReturnsIdentity where
  portfolioId := stateful.portfolioId
  asOfDate := stateful.asOfDate
  frequency := stateful.options.frequency
  metricBasis := stateful.netOrGross.text

/-- What the calculation calls outside the service: conversions, and the clients. -/
structure RiskRuntime (K : Type) [Zero K] [One K] [LE K] where
  texts : PyTexts K
  float : K → PyNumber K
  coercions : FieldCoercions K
  math : PyMath K
  performanceClient : LotusPerformanceClient K
  coreClient : Option (LotusCoreClient K)

variable (runtime : RiskRuntime K)

/-- The benchmark part of `_fetch_stateful_risk_source`. -/
def fetchBenchmarkPoints (stateful : StatefulRiskInput K)
    (sourceResponse series : List (String × PyValue K)) :
    Except SourceException (List (ReturnPoint K)) :=
  if requiresBenchmark stateful then do
    let points ← toReturnPoints runtime.texts runtime.float stateful.options.frequency
      (getEntry series "benchmark_returns")
    normalizeReturnPointsToResolvedWindow runtime.texts sourceResponse points
      stateful.options.frequency
  else .ok []

/-- The points of a risk-free response; without a request there is none. -/
def riskFreePointsOf (stateful : StatefulRiskInput K) :
    Option (List (String × PyValue K)) → Except SourceException (List (ReturnPoint K))
  | none => .ok []
  | some riskFreeResponse =>
    fetchRiskFreePoints runtime.texts runtime.math.pow stateful.options riskFreeResponse

variable [FloorRing K]

def fetchStatefulRiskSource (stateful : StatefulRiskInput K) :
    Except SourceException (StatefulRiskSource K) := do
  let sourcePayload ← SourceException.ofPython (buildStatefulSourceRequest stateful)
  let sourceResponse ← runtime.performanceClient.getReturnsSeries sourcePayload
  let (series, returnedPoints) ← extractRequiredPortfolioReturns runtime.texts runtime.float
    sourceResponse stateful.options.frequency
  let evidence ← extractStatefulReturnsSourceEvidence runtime.coercions runtime.texts
    sourceResponse stateful.identity (some sourcePayload.window) (some returnedPoints)
  let portfolioPoints ← normalizeReturnPointsToResolvedWindow runtime.texts sourceResponse
    returnedPoints stateful.options.frequency
  let riskFreeRequest ← SourceException.ofPython
    (buildStatefulRiskFreeRequest stateful portfolioPoints)
  let riskFreeResponse ← fetchRiskFreePayload runtime.coreClient riskFreeRequest
  let benchmarkPoints ← fetchBenchmarkPoints runtime stateful sourceResponse series
  let riskFreePoints ← riskFreePointsOf runtime stateful riskFreeResponse
  .ok {
    sourcePayload := sourcePayload
    riskFreeRequest := riskFreeRequest
    reportingCurrency := stateful.reportingCurrency
    portfolioPoints := portfolioPoints
    benchmarkPoints := benchmarkPoints
    riskFreePoints := riskFreePoints
    evidence := evidence }

omit [Field K] [LinearOrder K] [FloorRing K] in
/-- The validator of `RiskStatelessCalculationInput`. -/
def validateStatelessInput (periods : List RiskRequestPeriod)
    (returns benchmarkReturns : List (ReturnPoint K)) : Except PyException Unit :=
  modelValidation [] (do
    validateUniquePeriodNames periods
    validateUniqueReturnDates returns "returns"
    validateUniqueReturnDates benchmarkReturns "benchmark_returns")

omit [Field K] [LinearOrder K] [FloorRing K] in
theorem unique_of_validateStatelessInput {returns benchmarkReturns : List (ReturnPoint K)}
    (h : validateStatelessInput periods returns benchmarkReturns = .ok ()) :
    (returns.map ReturnPoint.date).Nodup ∧ (benchmarkReturns.map ReturnPoint.date).Nodup := by
  have hvalid := (modelValidation_eq_ok h).2
  obtain ⟨_, _, hvalid⟩ := bind_eq_ok.1 hvalid
  obtain ⟨_, hreturns, hbenchmark⟩ := bind_eq_ok.1 hvalid
  exact ⟨(checkReturnDates_eq_ok hreturns).1, (checkReturnDates_eq_ok hbenchmark).1⟩

def buildStatefulStatelessRiskInput (stateful : StatefulRiskInput K)
    (source : StatefulRiskSource K) : Except PyException (StatelessRiskInput K) :=
  match h : validateStatelessInput stateful.periods source.portfolioPoints
      source.benchmarkPoints with
  | .error e => .error e
  | .ok () => .ok {
      asOfDate := stateful.asOfDate
      periods := stateful.periods
      metrics := stateful.metrics
      options := optionsWithSourcedRiskFree stateful.options source.riskFreePoints
      portfolioOpenDate := portfolioOpenDate source.portfolioPoints stateful.asOfDate
      returns := source.portfolioPoints
      benchmarkReturns := source.benchmarkPoints
      names_unique := stateful.names_unique
      returns_unique := (unique_of_validateStatelessInput h).1
      benchmark_unique := (unique_of_validateStatelessInput h).2 }

/-- The period results of `calculate_risk_stateful`. -/
def calculateRiskStateful (stateful : StatefulRiskInput K) :
    Except SourceException (Dict String (RiskPeriodResult K)) := do
  let currency ← resolvePortfolioReportingCurrency runtime.coreClient stateful.portfolioId
    stateful.asOfDate stateful.reportingCurrency (requiresRiskFree stateful.metrics)
  let stateful := { stateful with reportingCurrency := currency }
  let source ← fetchStatefulRiskSource runtime stateful
  let request ← SourceException.ofPython (buildStatefulStatelessRiskInput stateful source)
  calculateRisk runtime.math request

end Sourcing

end LotusRisk
