import LotusRisk.Supportability.Periods

namespace LotusRisk
set_option autoImplicit true

open Precedence
open Relational

variable {K : Type}

inductive SourceFreshness where
  | current
  | stale
deriving DecidableEq, Repr

/-- The qualification of a stateful returns series that supportability reads. -/
structure StatefulReturnsSourceEvidence where
  freshness : SourceFreshness
  missingPoints : Nat
deriving DecidableEq, Repr

def HasDegradedDependency (context : BenchmarkContextPayload) : Prop :=
  context.requested = true ∧ (context.available = false ∨ context.aligned = false)

instance (context : BenchmarkContextPayload) : Decidable (HasDegradedDependency context) :=
  inferInstanceAs (Decidable (_ ∧ _))

/-- A period result of the risk metrics. `getattr` finds no field in its dict-valued
`benchmark_context`, which is kept here beside what is read. -/
structure RiskPeriodAttributes (K : Type) extends PeriodAttributes where
  benchmarkContextPayload : Option BenchmarkContextPayload
  metrics : Option (Dict String (RiskValue K))

inductive RiskAttributionBasis where
  | weightProxy
  | empiricalGroupReturns
deriving DecidableEq, Repr

structure AttributionSetAttributes (K : Type) where
  totalValue : Option K
  riskBasis : RiskAttributionBasis
deriving DecidableEq

structure AttributionPeriodAttributes (K : Type) extends PeriodAttributes where
  attributionSets : Option (List (AttributionSetAttributes K))
deriving DecidableEq

/-- `(as_of_date - date).days`. -/
def daysBetween (asOfDate date : Date) : Int := (asOfDate.toordinal : Int) - date.toordinal

def freshnessBucketFromReturns (returns : List (ReturnPoint K)) (asOfDate : Date) :
    RiskFreshnessBucket :=
  match (returns.map ReturnPoint.date).max? with
  | none => .unknown
  | some latestObservationDate =>
    let ageDays := daysBetween asOfDate latestObservationDate
    if ageDays ≤ 0 then .current else if ageDays ≤ 1 then .sameDay else .stale

def supportabilityFromPeriodResults (returns : List (ReturnPoint K)) (asOfDate : Date)
    (results : List PeriodAttributes) : Except PyException RiskCalculationSupportability :=
  let freshnessBucket := freshnessBucketFromReturns returns asOfDate
  if returns = [] then
    .ok {
      state := .empty
      reason := .noReturnObservations
      freshnessBucket := freshnessBucket
      degradedMetricCount := 0
      emptyPeriodCount := 0
      evaluatedPeriodCount := results.length }
  else
    periodResultsSupportabilityState freshnessBucket (assessPeriodResults results) results.length

def sourceReasons (sourceEvidence : StatefulReturnsSourceEvidence) :
    List RiskSupportabilityReason :=
  (if sourceEvidence.missingPoints ≠ 0 then [.calculationQualityIssue] else []) ++
    (if sourceEvidence.freshness = .stale then [.staleSourceObservations] else [])

def composeReturnsSourceSupportability
    (calculationSupportability : RiskCalculationSupportability)
    (sourceEvidence : StatefulReturnsSourceEvidence) :
    Except PyException RiskCalculationSupportability :=
  if sourceReasons sourceEvidence = [] then .ok calculationSupportability
  else do
    let reason ← selectSupportabilityReason
      (sourceReasons sourceEvidence ++
        if calculationSupportability.state ≠ .ready then [calculationSupportability.reason] else [])
    .ok {
      calculationSupportability with
      state :=
        if reason = calculationSupportability.reason then calculationSupportability.state
        else if reason = .staleSourceObservations then .stale else .degraded
      reason := reason
      freshnessBucket :=
        if sourceEvidence.freshness = .stale then .stale
        else calculationSupportability.freshnessBucket }

/-- The loop over the periods and their sets, keeping the bases of the calculated ones. -/
def calculatedBases (results : List (AttributionPeriodAttributes K)) : List RiskAttributionBasis :=
  results.flatMap fun periodResult =>
    match periodResult.attributionSets with
    | none => []
    | some attributionSets => attributionSets.filterMap fun attributionSet =>
        if attributionSet.totalValue.isNone then none else some attributionSet.riskBasis

def allCalculatedSetsAreEmpirical (results : List (AttributionPeriodAttributes K)) : Bool :=
  !(calculatedBases results).isEmpty &&
    (calculatedBases results).all (fun basis => basis = .empiricalGroupReturns)

def supportabilityFromAttributionResults (returns : List (ReturnPoint K)) (asOfDate : Date)
    (results : List (AttributionPeriodAttributes K)) :
    Except PyException RiskCalculationSupportability := do
  let periodResults := results.map AttributionPeriodAttributes.toPeriodAttributes
  let baseline ← supportabilityFromPeriodResults returns asOfDate periodResults
  if returns = [] then .ok baseline
  else if allCalculatedSetsAreEmpirical results then .ok baseline
  else
    let assessment := assessPeriodResults periodResults
    let reason ← selectSupportabilityReason
      (assessment.degradedReasons ++ [.groupReturnSeriesUnavailable])
    .ok {
      state := .degraded
      reason := reason
      freshnessBucket := baseline.freshnessBucket
      degradedMetricCount := assessment.degradedResultCount
      emptyPeriodCount := assessment.emptyPeriodCount
      evaluatedPeriodCount := results.length }

structure RiskMetricSupportabilityScan where
  degradedReasons : List RiskSupportabilityReason
  emptyPeriodCount : Nat
  degradedMetricCount : Nat
deriving DecidableEq, Repr

/-- The body of the inner loop, over the metrics of one period. -/
def scanMetric (scan : RiskMetricSupportabilityScan) (metricResult : RiskValue K) :
    RiskMetricSupportabilityScan :=
  match metricResult.error with
  | some error =>
    { scan with
      degradedReasons := scan.degradedReasons ++ [supportabilityReasonForError error]
      degradedMetricCount := scan.degradedMetricCount + 1 }
  | none => scan

def RiskPeriodAttributes.metricValues (periodResult : RiskPeriodAttributes K) :
    List (RiskValue K) :=
  match periodResult.metrics with
  | none => []
  | some metrics => metrics.items.map Prod.snd

def scanPeriod (scan : RiskMetricSupportabilityScan) (periodResult : RiskPeriodAttributes K) :
    RiskMetricSupportabilityScan :=
  let scan :=
    if periodResult.portfolioObservationCount = some 0 then
      { scan with emptyPeriodCount := scan.emptyPeriodCount + 1 }
    else scan
  periodResult.metricValues.foldl scanMetric scan

def scanRiskMetricSupportability (results : List (RiskPeriodAttributes K)) :
    RiskMetricSupportabilityScan :=
  results.foldl scanPeriod ⟨[], 0, 0⟩

def supportabilityFromRiskMetricResults (returns : List (ReturnPoint K)) (asOfDate : Date)
    (results : List (RiskPeriodAttributes K)) :
    Except PyException RiskCalculationSupportability := do
  let supportability ← supportabilityFromPeriodResults returns asOfDate
    (results.map RiskPeriodAttributes.toPeriodAttributes)
  if supportability.state = .empty then .ok supportability
  else
    let scan := scanRiskMetricSupportability results
    if scan.degradedMetricCount ≠ 0 then
      let reason ← selectSupportabilityReason scan.degradedReasons
      .ok {
        state := .degraded
        reason := reason
        freshnessBucket := freshnessBucketFromReturns returns asOfDate
        degradedMetricCount := scan.degradedMetricCount
        emptyPeriodCount := scan.emptyPeriodCount
        evaluatedPeriodCount := results.length }
    else .ok supportability

/-- The results of a calculation, by the supportability function they are given to. -/
inductive CalculationResults (K : Type) where
  | periods (results : List PeriodAttributes)
  | riskMetrics (results : List (RiskPeriodAttributes K))
  | attribution (results : List (AttributionPeriodAttributes K))

def calculationSupportability (returns : List (ReturnPoint K)) (asOfDate : Date) :
    CalculationResults K → Except PyException RiskCalculationSupportability
  | .periods results => supportabilityFromPeriodResults returns asOfDate results
  | .riskMetrics results => supportabilityFromRiskMetricResults returns asOfDate results
  | .attribution results => supportabilityFromAttributionResults returns asOfDate results

/-- A calculation on sourced returns is qualified by the evidence that came with them. -/
def finalSupportability (returns : List (ReturnPoint K)) (asOfDate : Date)
    (results : CalculationResults K) (sourceEvidence : Option StatefulReturnsSourceEvidence) :
    Except PyException RiskCalculationSupportability := do
  let supportability ← calculationSupportability returns asOfDate results
  match sourceEvidence with
  | none => .ok supportability
  | some evidence => composeReturnsSourceSupportability supportability evidence

section Scan

/-- The reasons of a period's metric errors. -/
def metricReasons (periodResult : RiskPeriodAttributes K) : List RiskSupportabilityReason :=
  periodResult.metricValues.filterMap fun value => value.error.map supportabilityReasonForError

theorem foldl_scanMetric (values : List (RiskValue K)) (scan : RiskMetricSupportabilityScan) :
    values.foldl scanMetric scan =
      let reasons := values.filterMap fun value => value.error.map supportabilityReasonForError
      ⟨scan.degradedReasons ++ reasons, scan.emptyPeriodCount,
        scan.degradedMetricCount + reasons.length⟩ := by
  induction values generalizing scan with
  | nil => simp
  | cons value values ih =>
    rw [List.foldl_cons, ih]
    unfold scanMetric
    cases h : value.error with
    | none => simp [h]
    | some error =>
      simp [h]
      omega

theorem foldl_scanPeriod (results : List (RiskPeriodAttributes K))
    (scan : RiskMetricSupportabilityScan) :
    results.foldl scanPeriod scan =
      ⟨scan.degradedReasons ++ results.flatMap metricReasons,
        scan.emptyPeriodCount +
          results.countP (fun periodResult => periodResult.portfolioObservationCount = some 0),
        scan.degradedMetricCount + (results.flatMap metricReasons).length⟩ := by
  induction results generalizing scan with
  | nil => simp
  | cons periodResult results ih =>
    rw [List.foldl_cons, ih]
    unfold scanPeriod
    rw [foldl_scanMetric, List.countP_cons, List.flatMap_cons]
    unfold metricReasons
    by_cases h : periodResult.portfolioObservationCount = some 0
    · simp [h]
      omega
    · simp [h]
      omega

theorem scanRiskMetricSupportability_eq (results : List (RiskPeriodAttributes K)) :
    scanRiskMetricSupportability results =
      ⟨results.flatMap metricReasons,
        results.countP (fun periodResult => periodResult.portfolioObservationCount = some 0),
        (results.flatMap metricReasons).length⟩ := by
  unfold scanRiskMetricSupportability
  rw [foldl_scanPeriod]
  simp

end Scan

end LotusRisk
