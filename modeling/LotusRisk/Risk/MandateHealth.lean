import LotusRisk.Risk.BenchmarkReports

namespace LotusRisk
set_option autoImplicit true

open Relational Raising

section Evaluation

variable {K : Type} [Field K] [LinearOrder K] [FloorRing K]

inductive MandateRiskHealthState where
  | ready
  | attention
  | unavailable
deriving DecidableEq, Repr

/-- The threshold is an annualized ratio. -/
structure MandateRiskHealthContextRequest (K : Type) [Field K] [LinearOrder K] where
  portfolioId : String
  asOfDate : Date
  period : RiskRequestPeriod
  portfolioOpenDate : Date
  returns : List (ReturnPoint K)
  benchmarkReturns : List (ReturnPoint K)
  trackingErrorAttentionThreshold : K
  threshold_nonneg : 0 ≤ trackingErrorAttentionThreshold
  returns_unique : (returns.map ReturnPoint.date).Nodup
  benchmark_unique : (benchmarkReturns.map ReturnPoint.date).Nodup

structure TrackingErrorHealth where
  healthState : MandateRiskHealthState
  thresholdBreached : Option Bool
  reasonCodes : List String
deriving DecidableEq, Repr

structure TrackingErrorSource (K : Type) where
  annualizedTrackingError : Option K
  alignedObservationCount : Int
deriving DecidableEq

/-- The response, but for the constants of the product and the fingerprints of the requests. -/
structure MandateRiskHealthContextResponse (K : Type) where
  portfolioId : String
  asOfDate : Date
  periodName : String
  healthState : MandateRiskHealthState
  thresholdBreached : Option Bool
  trackingErrorAttentionThreshold : K
  sourceMetric : TrackingErrorSource K
  reasonCodes : List String
deriving DecidableEq

omit [LinearOrder K] [FloorRing K] in
/-- `_to_decimal`; a text that is no number is a `decimal.InvalidOperation`. -/
def decimalDetail : Option (DetailValue K) → Except PyException (Option K)
  | none | some .none => .ok none
  | some (.float x) => .ok (some x)
  | some (.int i) => .ok (some i)
  | some (.str _) | some (.bool _) => .error (.decimalSignal "InvalidOperation")

/-- `int(value or 0)`. -/
def countOrZero : Option (DetailValue K) → Except PyException Int
  | none | some .none => .ok 0
  | some (.int i) => .ok i
  | some (.float x) => .ok (if x < 0 then -⌊-x⌋ else ⌊x⌋)
  | some (.bool b) => .ok (if b then 1 else 0)
  | some (.str text) =>
    if text = "" then .ok 0 else .error (.valueError "invalid literal for int() with base 10")

omit [FloorRing K] in
def trackingErrorHealth (annualizedTrackingError : Option K) (attentionThreshold : K)
    (unavailableReason : Option String) : TrackingErrorHealth :=
  let reasonCodes := ["RISK_METHODOLOGY_SOURCE_OWNED"]
  match annualizedTrackingError with
  | none => {
      healthState := .unavailable
      thresholdBreached := none
      reasonCodes := reasonCodes ++ ["MANDATE_RISK_HEALTH_TRACKING_ERROR_UNAVAILABLE"] ++
        unavailableReason.toList }
  | some trackingError =>
    let thresholdBreached := decide (attentionThreshold < trackingError)
    { healthState := if thresholdBreached then .attention else .ready
      thresholdBreached := some thresholdBreached
      reasonCodes := reasonCodes ++ ["MANDATE_RISK_HEALTH_TRACKING_ERROR_SOURCE_READY"] ++
        (if thresholdBreached then ["MANDATE_RISK_HEALTH_TRACKING_ERROR_THRESHOLD_BREACHED"]
          else []) }

def trackingErrorSourceMetric (details : Dict String (DetailValue K)) :
    Except PyException (TrackingErrorSource K) := do
  let annualizedTrackingError ← decimalDetail (details.get? "annualized_tracking_error")
  let alignedObservationCount ← countOrZero (details.get? "aligned_observation_count")
  .ok ⟨annualizedTrackingError, alignedObservationCount⟩

variable [IsStrictOrderedRing K]

omit [FloorRing K] in
def trackingErrorRiskRequest (request : MandateRiskHealthContextRequest K) :
    StatelessRiskInput K where
  asOfDate := request.asOfDate
  periods := [request.period]
  metrics := [.benchmark .trackingError]
  options := defaultRiskOptions
  portfolioOpenDate := request.portfolioOpenDate
  returns := request.returns
  benchmarkReturns := request.benchmarkReturns
  names_unique := List.nodup_singleton _
  returns_unique := request.returns_unique
  benchmark_unique := request.benchmark_unique

/-- `risk_period.metrics["TRACKING_ERROR"].details or {}`. -/
def trackingErrorDetails : Option (RiskPeriodResult K) →
    Except PyException (Dict String (DetailValue K))
  | none => .ok Table.empty
  | some riskPeriod =>
    match riskPeriod.metrics.get? "TRACKING_ERROR" with
    | some value => .ok (value.details.getD Table.empty)
    | none => .error (.keyError "TRACKING_ERROR")

omit [FloorRing K] [IsStrictOrderedRing K] in
def mandateRiskHealthResponse (request : MandateRiskHealthContextRequest K)
    (source : TrackingErrorSource K) (unavailableReason : Option String) :
    MandateRiskHealthContextResponse K :=
  let health := trackingErrorHealth source.annualizedTrackingError
    request.trackingErrorAttentionThreshold unavailableReason
  { portfolioId := request.portfolioId
    asOfDate := request.asOfDate
    periodName := request.period.resolvedName
    healthState := health.healthState
    thresholdBreached := health.thresholdBreached
    trackingErrorAttentionThreshold := request.trackingErrorAttentionThreshold
    sourceMetric := source
    reasonCodes := health.reasonCodes }

def evaluateMandateRiskHealthContext (math : PyMath K)
    (request : MandateRiskHealthContextRequest K) :
    Except SourceException (MandateRiskHealthContextResponse K) := do
  let results ← calculateRisk math (trackingErrorRiskRequest request)
  let riskPeriod := results.get? request.period.resolvedName
  let details ← SourceException.ofPython (trackingErrorDetails riskPeriod)
  let source ← SourceException.ofPython (trackingErrorSourceMetric details)
  .ok (mandateRiskHealthResponse request source
    (if riskPeriod.isNone then some "MANDATE_RISK_HEALTH_PORTFOLIO_HISTORY_UNAVAILABLE" else none))

end Evaluation

section CommonDays

variable {K : Type}

/-- The returns of the days of a period that have one on both sides, in the order of the rows. -/
def commonReturns (returns benchmarkReturns : List (ReturnPoint K)) (start stop : Date) :
    List (K × K) :=
  (returns.filter (fun p => decide (start ≤ p.date) && decide (p.date ≤ stop))).filterMap fun p =>
    (benchmarkReturns.find? (fun b => decide (b.date = p.date))).map fun b => (p.value, b.value)

theorem find?_date_eq_some {points : List (ReturnPoint K)}
    (hnodup : (points.map ReturnPoint.date).Nodup) :
    points.find? (fun b => decide (b.date = d)) = some p ↔ p ∈ points ∧ p.date = d := by
  constructor
  · intro h
    exact ⟨List.mem_of_find?_eq_some h, of_decide_eq_true (List.find?_some h :)⟩
  · rintro ⟨hp, hd⟩
    obtain ⟨q, hq⟩ : ∃ q, points.find? (fun b => decide (b.date = d)) = some q := by
      rw [← Option.isSome_iff_exists, List.find?_isSome]
      exact ⟨p, hp, decide_eq_true hd⟩
    have hqd : q.date = d := of_decide_eq_true (List.find?_some hq :)
    rw [hq, List.inj_on_of_nodup_map hnodup (List.mem_of_find?_eq_some hq) hp (hqd.trans hd.symm)]

variable [Field K] [LinearOrder K]

omit [Field K] [LinearOrder K] in
theorem loc_returnsFrame {points : List (ReturnPoint K)}
    (h : (points.map ReturnPoint.date).Nodup) (hlow : start ≤ d) (hhigh : d ≤ stop) :
    ((returnsFrame points h).between start stop).loc d =
      (points.find? (fun b => decide (b.date = d))).map ReturnPoint.value := by
  apply Option.ext
  intro x
  rw [Series.loc_eq_some, Series.mem_between, mem_returnsFrame, Option.map_eq_some_iff]
  constructor
  · rintro ⟨⟨p, hp, heq⟩, _, _⟩
    cases heq
    exact ⟨p, (find?_date_eq_some h).2 ⟨hp, rfl⟩, rfl⟩
  · rintro ⟨p, hp, rfl⟩
    obtain ⟨hmem, rfl⟩ := (find?_date_eq_some h).1 hp
    exact ⟨⟨p, hmem, rfl⟩, hlow, hhigh⟩

omit [Field K] [LinearOrder K] in
/-- The aligned returns of a period are those of the common days. -/
theorem aligned_perm_common {returns benchmarkReturns : List (ReturnPoint K)}
    (hreturns : (returns.map ReturnPoint.date).Nodup)
    (hbenchmark : (benchmarkReturns.map ReturnPoint.date).Nodup) (start stop : Date) :
    (alignedBenchmarkSeries ((returnsFrame returns hreturns).between start stop)
      ((returnsFrame benchmarkReturns hbenchmark).between start stop)).Perm
      (commonReturns returns benchmarkReturns start stop) := by
  have hpoints : ((returnsFrame returns hreturns).between start stop).points.Perm
      ((returns.filter (fun p => decide (start ≤ p.date) && decide (p.date ≤ stop))).map
        datedValue) := by
    rw [Series.between, Series.points_ofPoints, returnsFrame, Series.sorted,
      Series.points_ofPoints]
    refine ((List.perm_insertionSort _ _).filter _).trans ?_
    rw [List.filter_map]
    exact List.Perm.refl _
  refine (hpoints.filterMap _).trans ?_
  rw [commonReturns, List.filterMap_map]
  apply List.Perm.of_eq
  apply List.filterMap_congr
  intro p hp
  obtain ⟨hlow, hhigh⟩ := Bool.and_eq_true_iff.1 (List.mem_filter.1 hp).2
  change Option.map _ (Series.loc _ p.date) = _
  rw [loc_returnsFrame hbenchmark (of_decide_eq_true hlow) (of_decide_eq_true hhigh),
    Option.map_map]
  rfl

omit [Field K] [LinearOrder K] in
theorem alignedBenchmarkSeries_eq (s t : Series Date K) :
    alignedBenchmarkSeries s t = (s.innerJoin t).values := by
  change _ = (s.points.filterMap (Series.selectPoint _)).map Prod.snd
  rw [alignedBenchmarkSeries, List.map_filterMap]
  apply List.filterMap_congr
  intro p _
  rw [Series.selectPoint, Option.map_map, Option.map_map]
  rfl

omit [Field K] [LinearOrder K] in
/-- The common days of a period are those of the join of the frames. -/
theorem length_commonReturns {returns benchmarkReturns : List (ReturnPoint K)}
    (hreturns : (returns.map ReturnPoint.date).Nodup)
    (hbenchmark : (benchmarkReturns.map ReturnPoint.date).Nodup) (start stop : Date) :
    (commonReturns returns benchmarkReturns start stop).length =
      (((returnsFrame returns hreturns).innerJoin
        (returnsFrame benchmarkReturns hbenchmark)).between start stop).index.length := by
  rw [← (aligned_perm_common hreturns hbenchmark start stop).length_eq, alignedBenchmarkSeries_eq,
    Series.between_innerJoin, Series.length_values]

end CommonDays

section Verdict

variable {K : Type} [Field K] [LinearOrder K] (math : PyMath K)

/-- The tracking error of daily active returns: annualized, as a ratio. -/
def annualizedTrackingError (active : List K) : K :=
  fromPercent (sampleStd math active * math.sqrt (252 : Nat))

/-- The health of a mandate with the active returns of its days. -/
def mandateHealth (request : MandateRiskHealthContextRequest K) (active : List K) :
    MandateRiskHealthContextResponse K where
  portfolioId := request.portfolioId
  asOfDate := request.asOfDate
  periodName := request.period.resolvedName
  healthState :=
    if active.length < 2 then .unavailable
    else if request.trackingErrorAttentionThreshold < annualizedTrackingError math active then
      .attention
    else .ready
  thresholdBreached :=
    if active.length < 2 then none
    else some (decide
      (request.trackingErrorAttentionThreshold < annualizedTrackingError math active))
  trackingErrorAttentionThreshold := request.trackingErrorAttentionThreshold
  sourceMetric :=
    if active.length < 2 then ⟨none, 0⟩
    else ⟨some (annualizedTrackingError math active), active.length⟩
  reasonCodes :=
    if request.returns = [] then
      ["RISK_METHODOLOGY_SOURCE_OWNED", "MANDATE_RISK_HEALTH_TRACKING_ERROR_UNAVAILABLE",
        "MANDATE_RISK_HEALTH_PORTFOLIO_HISTORY_UNAVAILABLE"]
    else if active.length < 2 then
      ["RISK_METHODOLOGY_SOURCE_OWNED", "MANDATE_RISK_HEALTH_TRACKING_ERROR_UNAVAILABLE"]
    else if request.trackingErrorAttentionThreshold < annualizedTrackingError math active then
      ["RISK_METHODOLOGY_SOURCE_OWNED", "MANDATE_RISK_HEALTH_TRACKING_ERROR_SOURCE_READY",
        "MANDATE_RISK_HEALTH_TRACKING_ERROR_THRESHOLD_BREACHED"]
    else ["RISK_METHODOLOGY_SOURCE_OWNED", "MANDATE_RISK_HEALTH_TRACKING_ERROR_SOURCE_READY"]

variable {math}

theorem map_metricValue_false (math : PyMath K) (series : Series Date K) :
    series.map (metricValue math false) = series := by
  apply Series.ext_points
  rw [Series.points_map]
  exact List.map_id _

variable [IsStrictOrderedRing K]

/-- The returns on both sides of a period, as the join of its frames. -/
def StatelessRiskInput.alignedReturns (request : StatelessRiskInput K) (start stop : Date) :
    List (K × K) :=
  alignedBenchmarkSeries ((returnsFrame request.returns request.returns_unique).between start stop)
    ((returnsFrame request.benchmarkReturns request.benchmark_unique).between start stop)

omit [IsStrictOrderedRing K] in
/-- The aligned returns of a daily request, where there are enough of them. -/
theorem alignedPeriodReturns_daily (math : PyMath K) (request : StatelessRiskInput K)
    (hdaily : request.options.frequency = .daily) (hlog : request.options.useLogReturns = false)
    (rates : SharedRates K) (start stop : Date) :
    ((request.alignedReturns start stop).length < 2 ∧ ∃ message, alignedPeriodReturns math
        (periodCalculation request rates start stop) = .error (.valueError message)) ∨
      2 ≤ (request.alignedReturns start stop).length ∧ alignedPeriodReturns math
        (periodCalculation request rates start stop) = .ok (request.alignedReturns start stop) := by
  have hseries : ∀ series : Series Date K,
      metricReturnSeries math series .daily false = .ok series := by
    intro series
    rw [metricReturnSeries_daily, logsUndefined, Bool.false_and, if_neg Bool.false_ne_true,
      map_metricValue_false]
  have hchain : alignedPeriodReturns math (periodCalculation request rates start stop) = (do
      let metricSeries ← metricReturnSeries math
        ((returnsFrame request.returns request.returns_unique).between start stop)
        request.options.frequency request.options.useLogReturns
      raiseIf (returnsFrame request.benchmarkReturns request.benchmark_unique).isEmpty
        (.valueError "Benchmark returns required for benchmark-dependent metric")
      let benchmarkPeriod ←
        (if (returnsFrame request.benchmarkReturns request.benchmark_unique).isEmpty then
          .ok emptySeries
        else metricReturnSeries math
          ((returnsFrame request.benchmarkReturns request.benchmark_unique).between start stop)
          request.options.frequency request.options.useLogReturns)
      requireAligned (alignedBenchmarkSeries metricSeries benchmarkPeriod)) := rfl
  rw [hchain, hdaily, hlog, hseries, hseries]
  cases hempty : (returnsFrame request.benchmarkReturns request.benchmark_unique).isEmpty with
  | true =>
    have hcommon : commonReturns request.returns request.benchmarkReturns start stop = [] := by
      rw [(isEmpty_returnsFrame _ _).1 hempty, commonReturns]
      exact List.filterMap_eq_nil_iff.2 fun _ _ => rfl
    left
    constructor
    · rw [StatelessRiskInput.alignedReturns, (aligned_perm_common request.returns_unique
        request.benchmark_unique start stop).length_eq, hcommon]
      exact Nat.zero_lt_two
    · exact ⟨_, rfl⟩
  | false =>
    by_cases hshort : (request.alignedReturns start stop).length < 2
    · exact .inl ⟨hshort, _, requireAligned_short hshort⟩
    · exact .inr ⟨not_lt.1 hshort, requireAligned_long hshort⟩

variable [FloorRing K]

/-- What the risk calculation reports for the mandate, from its common days. -/
theorem trackingError_of_period {request : MandateRiskHealthContextRequest K}
    {rates : SharedRates K} (hfactor : rates.annualFactor = 252)
    (h : calculatePeriodResult math
      (periodCalculation (trackingErrorRiskRequest request) rates start stop) = .ok result) :
    ∃ (pairs : List (K × K)) (v : RiskValue K),
      pairs.Perm (commonReturns request.returns request.benchmarkReturns start stop) ∧
      result.metrics.get? "TRACKING_ERROR" = some v ∧
      (pairs.length < 2 ∧ (∃ message, v = metricError message) ∨
        2 ≤ pairs.length ∧
          trackingError math (pairs.map Prod.fst) (pairs.map Prod.snd) 252 = .ok v) := by
  have hrequested : RiskMetric.benchmark .trackingError ∈ (periodCalculation
      (trackingErrorRiskRequest request) rates start stop).metrics := List.mem_singleton_self _
  obtain ⟨v, hreport, hentry⟩ := benchmark_of_period h hrequested
  rw [show (periodCalculation (trackingErrorRiskRequest request) rates start stop).annualFactor =
    252 from hfactor] at hreport
  refine ⟨(trackingErrorRiskRequest request).alignedReturns start stop, v,
    aligned_perm_common request.returns_unique request.benchmark_unique start stop, hentry, ?_⟩
  rcases alignedPeriodReturns_daily math (trackingErrorRiskRequest request) rfl rfl rates
    start stop with ⟨hshort, message, haligned⟩ | ⟨hlong, haligned⟩
  · rw [haligned] at hreport
    cases hreport
    exact .inl ⟨hshort, message, rfl⟩
  · rw [haligned] at hreport
    obtain ⟨v', hv⟩ : ∃ v', trackingError math
        (((trackingErrorRiskRequest request).alignedReturns start stop).map Prod.fst)
        (((trackingErrorRiskRequest request).alignedReturns start stop).map Prod.snd) 252 =
          .ok v' :=
      ⟨_, bind_eq_ok.2 ⟨_, sqrtOfInt_eq_ok.2 ⟨year_scales, rfl⟩, rfl⟩⟩
    right
    refine ⟨hlong, hv.trans ?_⟩
    change catchValueError (trackingError math _ _ 252) metricError = .ok v at hreport
    rw [hv] at hreport
    exact hreport

omit [FloorRing K] in
/-- The rates of options that ask for none always resolve. -/
theorem resolvePeriodicRates_zero (pow : K → K → K) {options : RiskOptions K}
    (hmode : options.riskFreeMode = .zero) (hmar : options.marAnnualRate = 0)
    (annualFactor : Nat) :
    ∃ rates, resolvePeriodicRates pow options annualFactor = .ok rates := by
  have hperiodic : annualToPeriodic pow (0 : K) annualFactor =
      .ok (pow (1 + 0) (1 / annualFactor) - 1) := by
    rw [annualToPeriodic, if_neg]
    rw [add_zero]
    exact fun h => not_lt.2 zero_le_one h.1
  rw [resolvePeriodicRates, hmode, hmar, hperiodic]
  exact ⟨_, rfl⟩

theorem evaluate_of_empty (math : PyMath K) {request : MandateRiskHealthContextRequest K}
    (hempty : request.returns = []) :
    evaluateMandateRiskHealthContext math request = .ok (mandateHealth math request []) := by
  have hresults : calculateRisk math (trackingErrorRiskRequest request) = .ok Table.empty := by
    have hnone : (trackingErrorRiskRequest request).returns.isEmpty = true :=
      List.isEmpty_iff.2 hempty
    rw [calculateRisk, hnone]
    rfl
  rw [evaluateMandateRiskHealthContext, hresults, mandateHealth, if_pos hempty]
  rfl

/-- The health of a mandate whose tracking error is reported. -/
theorem evaluate_of_reported {request : MandateRiskHealthContextRequest K} {v : RiskValue K}
    (hresults : calculateRisk math (trackingErrorRiskRequest request) = .ok results)
    (hget : results.get? request.period.resolvedName = some result)
    (hentry : result.metrics.get? "TRACKING_ERROR" = some v)
    (hsource : trackingErrorSourceMetric (v.details.getD Table.empty) = .ok source) :
    evaluateMandateRiskHealthContext math request =
      .ok (mandateRiskHealthResponse request source none) := by
  have hdetails : trackingErrorDetails (some result) = .ok (v.details.getD Table.empty) := by
    rw [trackingErrorDetails, hentry]
  refine bind_eq_ok.2 ⟨results, hresults, ?_⟩
  refine bind_eq_ok.2 ⟨v.details.getD Table.empty, ?_, ?_⟩
  · rw [hget, hdetails]
    rfl
  · refine bind_eq_ok.2 ⟨source, ?_, ?_⟩
    · rw [hsource]
      rfl
    · rw [hget]
      rfl

omit [IsStrictOrderedRing K] [FloorRing K] [Field K] [LinearOrder K] in
theorem get?_details (v : RiskValue K) (key : String) :
    (v.details.getD Table.empty).get? key = v.detail key := by
  rw [RiskValue.detail]
  cases v.details with
  | none => rfl
  | some details => rfl

omit [IsStrictOrderedRing K] in
/-- The source metric of a tracking error of aligned returns. -/
theorem source_of_trackingError {pairs : List (K × K)}
    (h : trackingError math (pairs.map Prod.fst) (pairs.map Prod.snd) 252 = .ok v) :
    trackingErrorSourceMetric (v.details.getD Table.empty) =
      .ok ⟨some (annualizedTrackingError math (pairs.map activeReturn)), pairs.length⟩ := by
  obtain ⟨active, hactive, _, _, hcount, herror⟩ := trackingError_of_ok h
  rw [active_eq_map] at hactive
  subst hactive
  rw [List.length_map] at hcount
  rw [trackingErrorSourceMetric, get?_details, get?_details, herror, hcount]
  rfl

theorem evaluate_of_resolved (math : PyMath K) {request : MandateRiskHealthContextRequest K}
    (hne : request.returns ≠ [])
    (hrange : resolvePeriod request.period request.asOfDate request.portfolioOpenDate =
      .ok (start, stop)) :
    evaluateMandateRiskHealthContext math request = .ok (mandateHealth math request
      ((commonReturns request.returns request.benchmarkReturns start stop).map activeReturn)) := by
  have hscales : (trackingErrorRiskRequest request).HasScales := ⟨year_scales, day_scales⟩
  obtain ⟨results, hresults⟩ : ∃ results,
      calculateRisk math (trackingErrorRiskRequest request) = .ok results := by
    refine (exists_calculateRisk hne hscales).2
      ⟨resolvePeriodicRates_zero math.pow rfl rfl _, ?_⟩
    intro period hperiod
    rw [List.mem_singleton.1 hperiod]
    exact ⟨_, hrange⟩
  obtain ⟨rates, start', stop', result, _, hfactor, hrange', hresult, hget⟩ :=
    period_of_calculateRisk hresults hne (List.mem_singleton_self request.period)
  cases hrange.symm.trans hrange'
  obtain ⟨pairs, v, hperm, hentry, hv⟩ := trackingError_of_period hfactor hresult
  have hactive := hperm.map activeReturn
  have hlength : ((commonReturns request.returns request.benchmarkReturns start stop).map
      activeReturn).length = pairs.length := by
    rw [← hactive.length_eq, List.length_map]
  have hdeviation : annualizedTrackingError math ((commonReturns request.returns
      request.benchmarkReturns start stop).map activeReturn) =
      annualizedTrackingError math (pairs.map activeReturn) := by
    rw [annualizedTrackingError, annualizedTrackingError, sampleStd_perm math hactive]
  rw [mandateHealth, hlength, hdeviation, if_neg hne]
  rcases hv with ⟨hshort, message, rfl⟩ | ⟨hlong, hv⟩
  · rw [evaluate_of_reported hresults hget hentry rfl]
    simp only [if_pos hshort]
    rfl
  · rw [evaluate_of_reported hresults hget hentry (source_of_trackingError hv)]
    by_cases hbreach : request.trackingErrorAttentionThreshold <
        annualizedTrackingError math (pairs.map activeReturn)
    · simp [mandateRiskHealthResponse, trackingErrorHealth, hbreach, not_lt.2 hlong]
    · simp [mandateRiskHealthResponse, trackingErrorHealth, hbreach, not_lt.2 hlong]

/-- The health of a mandate is that of the active returns on the days of its period that have a
return on both sides, and fails to be evaluated only when there is a history and the period does
not resolve. -/
theorem mandate_health (math : PyMath K) (request : MandateRiskHealthContextRequest K)
    (response : MandateRiskHealthContextResponse K) :
    evaluateMandateRiskHealthContext math request = .ok response ↔
      request.returns = [] ∧ response = mandateHealth math request [] ∨
      request.returns ≠ [] ∧ ∃ start stop,
        resolvePeriod request.period request.asOfDate request.portfolioOpenDate =
          .ok (start, stop) ∧
        response = mandateHealth math request ((commonReturns request.returns
          request.benchmarkReturns start stop).map activeReturn) := by
  by_cases hempty : request.returns = []
  · rw [evaluate_of_empty math hempty]
    constructor
    · intro h
      exact .inl ⟨hempty, (Except.ok.inj h).symm⟩
    · rintro (⟨_, rfl⟩ | ⟨hne, _⟩)
      · rfl
      · exact absurd hempty hne
  · constructor
    · intro h
      obtain ⟨results, hresults, _⟩ := bind_eq_ok.1 h
      obtain ⟨_, start, stop, _, _, _, hrange, _⟩ :=
        period_of_calculateRisk hresults hempty (List.mem_singleton_self request.period)
      refine .inr ⟨hempty, start, stop, hrange, ?_⟩
      rw [evaluate_of_resolved math hempty hrange] at h
      exact (Except.ok.inj h).symm
    · rintro (⟨hnone, _⟩ | ⟨_, start, stop, hrange, rfl⟩)
      · exact absurd hnone hempty
      · exact evaluate_of_resolved math hempty hrange

end Verdict

section Real

theorem ten_percent_nonneg : (0 : ℝ) ≤ fromPercent ((10 : Nat) : ℝ) :=
  div_nonneg (Nat.cast_nonneg _) (by norm_num)

/-- Two days on which a mandate returns twice what its benchmark does, with a tenth allowed. -/
noncomputable def doubledMandate : MandateRiskHealthContextRequest ℝ where
  portfolioId := "PORT-1"
  asOfDate := firstMonday
  period := yearPeriod 2026
  portfolioOpenDate := firstMonday
  returns := doubledRequest.returns
  benchmarkReturns := doubledRequest.benchmarkReturns
  trackingErrorAttentionThreshold := fromPercent ((10 : Nat) : ℝ)
  threshold_nonneg := ten_percent_nonneg
  returns_unique := doubledRequest.returns_unique
  benchmark_unique := doubledRequest.benchmark_unique

set_option maxRecDepth 8000 in
theorem common_doubled : (commonReturns doubledMandate.returns doubledMandate.benchmarkReturns
    firstMonday newYearsEve).map activeReturn = [1, 2] := by
  have hcommon : commonReturns doubledMandate.returns doubledMandate.benchmarkReturns
      firstMonday newYearsEve = [(((2 : Nat) : ℝ), 1), (((4 : Nat) : ℝ), ((2 : Nat) : ℝ))] := rfl
  rw [hcommon]
  norm_num [activeReturn]

theorem mandate_health_doubled : ∃ response,
    evaluateMandateRiskHealthContext realMath doubledMandate = .ok response ∧
      response.healthState = .attention := by
  have hbreach : doubledMandate.trackingErrorAttentionThreshold <
      annualizedTrackingError realMath [1, 2] := by
    have hvariance : sampleCovariance [1, 2] [1, 2] = (1 / 2 : ℝ) := by
      norm_num [sampleCovariance, mean]
    have hroots : √(1 / 2 : ℝ) * √((252 : Nat) : ℝ) = √126 := by
      rw [← Real.sqrt_mul (by positivity)]
      norm_num
    have hdeviation : annualizedTrackingError realMath [1, 2] = √126 / 100 := by
      rw [annualizedTrackingError, sampleStd, hvariance, fromPercent]
      exact congrArg (· / 100) hroots
    have hten : (10 : ℝ) < √126 := by
      rw [Real.lt_sqrt (by norm_num)]
      norm_num
    have hthreshold : doubledMandate.trackingErrorAttentionThreshold = 10 / 100 := by
      norm_num [doubledMandate, fromPercent]
    rw [hdeviation, hthreshold]
    exact div_lt_div_of_pos_right hten (by norm_num)
  refine ⟨_, (mandate_health realMath doubledMandate _).2
    (.inr ⟨List.cons_ne_nil _ _, firstMonday, newYearsEve, range_year, rfl⟩), ?_⟩
  rw [common_doubled, mandateHealth]
  simp only [if_pos hbreach]
  rfl

end Real

end LotusRisk
