import LotusRisk.Lib.Raising
import LotusRisk.Risk.MetricAgreement
import LotusRisk.Risk.SourcedRuns

/-! Every period has a result, and in it a value or an error of each requested metric. -/

namespace LotusRisk
set_option autoImplicit true

open Relational Raising

variable {K : Type} [Field K] [LinearOrder K] {math : PyMath K}

section ValueErrors

def IsValueError (e : PyException) : Prop := ∃ message, e = .valueError message

theorem errorsIn_raiseIf (condition : Bool) (message : String) :
    ErrorsIn IsValueError (raiseIf condition (.valueError message)) := by
  cases condition with
  | true => exact errorsIn_error.2 ⟨message, rfl⟩
  | false => exact errorsIn_ok _

omit [Field K] [LinearOrder K] in
theorem errorsIn_requireData (values : List K) (minimum : Nat) :
    ErrorsIn IsValueError (requireData values minimum) := errorsIn_raiseIf _ _

theorem exists_catchValueError {x : Except PyException α} (h : ErrorsIn IsValueError x)
    (handle : String → α) : ∃ a, catchValueError x handle = .ok a := by
  cases x with
  | ok a => exact ⟨a, rfl⟩
  | error e =>
    obtain ⟨message, rfl⟩ := h e rfl
    exact ⟨handle message, rfl⟩

/-- The square root of an integer that a float can hold is followed by what uses it. -/
theorem errorsIn_sqrtOfInt_bind {n : Nat} (hn : beyondFloat n = false)
    {f : K → Except PyException α} (hf : ∀ x, ErrorsIn IsValueError (f x)) :
    ErrorsIn IsValueError (sqrtOfInt math n >>= f) := by
  rw [sqrtOfInt, hn, if_neg Bool.false_ne_true]
  exact hf _

theorem errorsIn_calculateVolatility (values : List K) {annualFactor : Nat}
    (hfactor : beyondFloat annualFactor = false) :
    ErrorsIn IsValueError (calculateVolatility math values annualFactor) := by
  refine errorsIn_bind.2 ⟨errorsIn_requireData values 2, fun _ _ => ?_⟩
  exact errorsIn_sqrtOfInt_bind hfactor fun _ => errorsIn_ok _

theorem errorsIn_calculateSharpe (values : List K) (periodicRf : K) {annualFactor : Nat}
    (hfactor : beyondFloat annualFactor = false) :
    ErrorsIn IsValueError (calculateSharpe math values periodicRf annualFactor) := by
  refine errorsIn_bind.2 ⟨errorsIn_requireData values 2, fun _ _ => ?_⟩
  refine errorsIn_bind.2 ⟨errorsIn_raiseIf _ _, fun _ _ => ?_⟩
  exact errorsIn_sqrtOfInt_bind hfactor fun _ => errorsIn_ok _

theorem errorsIn_calculateSortino (values : List K) (periodicMar : K) {annualFactor : Nat}
    (hfactor : beyondFloat annualFactor = false) (marAnnualRate : K) :
    ErrorsIn IsValueError
      (calculateSortino math values periodicMar annualFactor marAnnualRate) := by
  refine errorsIn_bind.2 ⟨errorsIn_requireData values 2, fun _ _ => ?_⟩
  refine errorsIn_bind.2 ⟨errorsIn_raiseIf _ _, fun _ _ => ?_⟩
  exact errorsIn_sqrtOfInt_bind hfactor fun _ => errorsIn_ok _

/-- A drawdown is found of every series. -/
theorem exists_calculateDrawdown (returns : Series Date K) :
    ∃ v, calculateDrawdown returns = .ok v := by
  obtain ⟨details, hdetails⟩ : ∃ details, drawdownDetails returns = some details := by
    by_cases hne : returns.index = []
    · rw [drawdownDetails]
      simp only
      rw [if_pos]
      · exact ⟨_, rfl⟩
      · exact List.isEmpty_iff.2 hne
    · obtain ⟨details, hdetails, _⟩ := exists_drawdownDetails (isTrough_argmin hne)
      exact ⟨details, hdetails⟩
  rw [calculateDrawdown, hdetails]
  exact ⟨_, rfl⟩

theorem errorsIn_calculateVar [FloorRing K] (math : PyMath K) (values : List K) (method : VaRMethod)
    (confidence : K) {horizonDays : Nat} (hhorizon : beyondFloat horizonDays = false)
    (shortfall : Bool) (samplingFrequency : String) :
    ErrorsIn IsValueError (calculateVar math values method confidence horizonDays shortfall
      samplingFrequency) := by
  refine errorsIn_bind.2 ⟨errorsIn_requireData values 2, fun _ _ => ?_⟩
  refine errorsIn_bind.2 ⟨?_, fun _ _ => errorsIn_sqrtOfInt_bind hhorizon fun _ => errorsIn_ok _⟩
  cases method with
  | historical =>
    rw [calculateVarByMethod, varHistorical, percentile]
    split
    · exact errorsIn_ok _
    · exact errorsIn_error.2 ⟨_, rfl⟩
  | gaussian => exact errorsIn_ok _
  | cornishFisher =>
    refine errorsIn_bind.2 ⟨errorsIn_requireData values _, fun _ _ => ?_⟩
    split
    · exact errorsIn_ok _
    · exact errorsIn_error.2 ⟨_, rfl⟩

theorem errorsIn_calculateBenchmarkMetric (math : PyMath K) (portfolio benchmark : List K)
    {annualFactor : Nat} (hfactor : beyondFloat annualFactor = false) (metric : BenchmarkMetric) :
    ErrorsIn IsValueError
      (calculateBenchmarkMetric math portfolio benchmark annualFactor metric) := by
  cases metric with
  | beta => exact errorsIn_bind.2 ⟨errorsIn_raiseIf _ _, fun _ _ => errorsIn_ok _⟩
  | trackingError => exact errorsIn_sqrtOfInt_bind hfactor fun _ => errorsIn_ok _
  | informationRatio =>
    refine errorsIn_bind.2 ⟨errorsIn_raiseIf _ _, fun _ _ => ?_⟩
    exact errorsIn_sqrtOfInt_bind hfactor fun _ => errorsIn_ok _

omit [Field K] [LinearOrder K] in
theorem errorsIn_resampleReturns [FloatOps K] (returns : Series Date K) (frequency : Frequency) :
    ErrorsIn IsValueError (resampleReturns returns frequency) := by
  rw [resampleReturns]
  split
  · exact errorsIn_ok _
  · simp only
    split
    · exact errorsIn_ok _
    · exact errorsIn_error.2 ⟨_, rfl⟩

theorem errorsIn_metricReturnSeries (returns : Series Date K) (frequency : Frequency)
    (useLogReturns : Bool) :
    ErrorsIn IsValueError (metricReturnSeries math returns frequency useLogReturns) := by
  refine errorsIn_bind.2 ⟨errorsIn_resampleReturns returns frequency, fun _ _ => ?_⟩
  split
  · rw [toLogReturns]
    split
    · exact errorsIn_error.2 ⟨_, rfl⟩
    · exact errorsIn_ok _
  · exact errorsIn_ok _

end ValueErrors

section Totality

omit [Field K] [LinearOrder K] in
theorem exists_bind_ok {x : Except ε α} {f : α → Except ε β} (hx : ∃ a, x = .ok a)
    (hf : ∀ a, ∃ b, f a = .ok b) : ∃ b, (x >>= f) = .ok b := by
  obtain ⟨a, ha⟩ := hx
  obtain ⟨b, hb⟩ := hf a
  exact ⟨b, bind_eq_ok.2 ⟨a, ha, hb⟩⟩

variable [FloorRing K]

omit [FloorRing K] in
theorem exists_resolveMetricReturnSeries (math : PyMath K) (returns : Series Date K)
    (frequency : Frequency) (useLogReturns : Bool) :
    ∃ series, resolveMetricReturnSeries math returns frequency useLogReturns = .ok series := by
  apply exists_catchValueError
  intro e he
  apply errorsIn_metricReturnSeries returns frequency useLogReturns e
  cases hseries : metricReturnSeries math returns frequency useLogReturns with
  | error e' =>
    rw [hseries] at he
    cases he
    rfl
  | ok series =>
    rw [hseries] at he
    cases he

omit [Field K] [LinearOrder K] [FloorRing K] in
theorem exists_calculateRequested (metrics : List RiskMetric)
    {calculators : List (RiskMetric × Except PyException (RiskValue K))}
    (h : ∀ c ∈ calculators, ErrorsIn IsValueError c.2) :
    ∃ l, calculateRequestedNonBenchmarkMetrics metrics calculators = .ok l := by
  obtain ⟨l, hl, _⟩ := exists_mapM_ok calculated (fun _ => True)
    (calculators.filter (fun entry => decide (entry.1 ∈ metrics))) (by
      intro c hc
      obtain ⟨v, hv⟩ := exists_catchValueError (h c (List.mem_of_mem_filter hc)) metricError
      exact ⟨(c.1.text, v), by rw [calculated, hv]; rfl, trivial⟩)
  exact ⟨l, hl⟩

/-- The integers whose square roots scale the metrics are in the range of a float. -/
structure PeriodMetricCalculationRequest.HasScales (request : PeriodMetricCalculationRequest K) :
    Prop where
  factor : beyondFloat request.annualFactor = false
  horizon : beyondFloat request.options.var.horizonDays = false

theorem errorsIn_calculators (math : PyMath K) (metricSeries varSeries : Series Date K)
    {request : PeriodMetricCalculationRequest K} (hscales : request.HasScales) :
    ∀ c ∈ buildNonBenchmarkCalculators math metricSeries varSeries request,
      ErrorsIn IsValueError c.2 := by
  obtain ⟨v, hv⟩ := exists_calculateDrawdown request.periodReturns
  rw [buildNonBenchmarkCalculators, hv]
  simp only [List.forall_mem_cons]
  exact ⟨errorsIn_calculateVolatility _ hscales.factor, errorsIn_ok v,
    errorsIn_calculateSharpe _ _ hscales.factor, errorsIn_calculateSortino _ _ hscales.factor _,
    errorsIn_calculateVar _ _ _ _ hscales.horizon _ _, List.forall_mem_nil _⟩

theorem exists_periodNonBenchmarkMetrics (math : PyMath K)
    {request : PeriodMetricCalculationRequest K} (hscales : request.HasScales) :
    ∃ m, periodNonBenchmarkMetrics math request = .ok m := by
  apply exists_bind_ok (exists_resolveMetricReturnSeries math _ _ _)
  intro metricSeries
  apply exists_bind_ok (exists_resolveMetricReturnSeries math _ _ _)
  intro varSeries
  have hcalculators := errorsIn_calculators math metricSeries.series varSeries.series hscales
  split
  · apply exists_bind_ok _ fun _ => ⟨_, rfl⟩
    obtain ⟨v, hv⟩ := exists_calculateDrawdown request.periodReturns
    apply exists_calculateRequested
    rw [hv]
    intro c hc
    rw [List.mem_singleton.1 hc]
    exact errorsIn_ok v
  · simp only
    split
    · apply exists_bind_ok _ fun _ => ⟨_, rfl⟩
      apply exists_calculateRequested
      intro c hc
      exact hcalculators c (List.mem_of_mem_filter hc)
    · exact exists_bind_ok (exists_calculateRequested request.metrics hcalculators)
        fun _ => ⟨_, rfl⟩

omit [FloorRing K] in
theorem exists_calculateAligned (math : PyMath K) (metricSeries benchmarkPeriod : Series Date K)
    (metrics : List BenchmarkMetric) {annualFactor : Nat}
    (hfactor : beyondFloat annualFactor = false) : ∃ result,
      calculateAlignedBenchmarkMetrics math metricSeries benchmarkPeriod metrics annualFactor =
        .ok result := by
  rw [calculateAlignedBenchmarkMetrics]
  split
  · exact ⟨_, rfl⟩
  · obtain ⟨l, hl, _⟩ := exists_mapM_ok (fun metric => (catchValueError
      (calculateBenchmarkMetric math
        ((alignedBenchmarkSeries metricSeries benchmarkPeriod).map Prod.fst)
        ((alignedBenchmarkSeries metricSeries benchmarkPeriod).map Prod.snd) annualFactor metric)
      metricError).map (fun value => (metric.text, value))) (fun _ => True) metrics (by
        intro metric _
        obtain ⟨v, hv⟩ := exists_catchValueError (errorsIn_calculateBenchmarkMetric math
          ((alignedBenchmarkSeries metricSeries benchmarkPeriod).map Prod.fst)
          ((alignedBenchmarkSeries metricSeries benchmarkPeriod).map Prod.snd) hfactor metric)
          metricError
        exact ⟨(metric.text, v), by rw [hv]; rfl, trivial⟩)
    exact ⟨_, bind_eq_ok.2 ⟨l, hl, rfl⟩⟩

omit [FloorRing K] in
theorem exists_availableBenchmark (math : PyMath K) {request : PeriodMetricCalculationRequest K}
    (hscales : request.HasScales) (metricSeries : Series Date K)
    (metrics : List BenchmarkMetric) : ∃ result,
      availableBenchmarkPeriodMetrics math request metricSeries metrics = .ok result := by
  have herrors : ErrorsIn IsValueError (alignAndResampleBenchmark math request.benchmark
      request.start request.stop request.options) := by
    rw [alignAndResampleBenchmark]
    split
    · exact errorsIn_ok _
    · exact errorsIn_metricReturnSeries _ _ _
  rw [availableBenchmarkPeriodMetrics]
  cases hbenchmark : alignAndResampleBenchmark math request.benchmark request.start request.stop
      request.options with
  | error e =>
    obtain ⟨message, rfl⟩ := herrors e hbenchmark
    exact ⟨_, rfl⟩
  | ok benchmarkPeriod =>
    simp only
    split
    · exact ⟨_, rfl⟩
    · obtain ⟨result, hresult⟩ := exists_calculateAligned math metricSeries
        benchmarkPeriod metrics hscales.factor
      exact ⟨_, bind_eq_ok.2 ⟨result, hresult, rfl⟩⟩

/-- Every period has a result: what a metric raises is its error. -/
theorem exists_calculatePeriodResult (math : PyMath K)
    {request : PeriodMetricCalculationRequest K} (hscales : request.HasScales) :
    ∃ result, calculatePeriodResult math request = .ok result := by
  apply exists_bind_ok (exists_periodNonBenchmarkMetrics math hscales)
  intro nonBenchmark
  apply exists_bind_ok _ fun _ => ⟨_, rfl⟩
  rw [periodBenchmarkMetrics]
  split
  · exact ⟨_, rfl⟩
  · split
    · exact ⟨_, rfl⟩
    · rw [calculateBenchmarkPeriodMetrics]
      split
      · exact ⟨_, rfl⟩
      · obtain ⟨result, hresult⟩ := exists_availableBenchmark math hscales
          nonBenchmark.metricSeries (requestedBenchmarkMetrics request.metrics)
        rw [hresult]
        exact ⟨_, rfl⟩

end Totality

section Keys

omit [Field K] [LinearOrder K] in
theorem key_calculated {c : RiskMetric × Except PyException (RiskValue K)}
    (h : calculated c = .ok e) : e.1 = c.1.text := by
  obtain ⟨v, _, rfl⟩ := map_eq_ok.1 h
  rfl

omit [Field K] [LinearOrder K] in
theorem mem_keys_requested {calculators : List (RiskMetric × Except PyException (RiskValue K))}
    (h : calculateRequestedNonBenchmarkMetrics metrics calculators = .ok l) :
    key ∈ l.map Prod.fst ↔
      ∃ metric ∈ calculators.map Prod.fst, metric ∈ metrics ∧ metric.text = key := by
  rw [map_of_mapM_ok (k := fun c => c.1.text) (fun c e => key_calculated) h, List.mem_map]
  constructor
  · rintro ⟨c, hc, rfl⟩
    obtain ⟨hmem, hrequested⟩ := List.mem_filter.1 hc
    exact ⟨c.1, List.mem_map_of_mem hmem, of_decide_eq_true hrequested, rfl⟩
  · rintro ⟨metric, hmetric, hrequested, rfl⟩
    obtain ⟨c, hc, rfl⟩ := List.mem_map.1 hmetric
    exact ⟨c, List.mem_filter.2 ⟨hc, decide_eq_true hrequested⟩, rfl⟩

omit [Field K] [LinearOrder K] in
theorem mem_keys_metricSeriesErrorMap (metrics : List RiskMetric) (message : String) :
    key ∈ (metricSeriesErrorMap (K := K) metrics message).map Prod.fst ↔
      ∃ metric ∈ [RiskMetric.volatility, .sharpe, .sortino, .var],
        metric ∈ metrics ∧ metric.text = key := by
  rw [metricSeriesErrorMap, List.map_map, List.mem_map]
  constructor
  · rintro ⟨metric, hmetric, rfl⟩
    obtain ⟨hmem, hrequested⟩ := List.mem_filter.1 hmetric
    exact ⟨metric, hmem, of_decide_eq_true hrequested, rfl⟩
  · rintro ⟨metric, hmem, hrequested, rfl⟩
    exact ⟨metric, List.mem_filter.2 ⟨hmem, decide_eq_true hrequested⟩, rfl⟩

/-- The metrics that are not taken against a benchmark. -/
def nonBenchmarkMetrics : List RiskMetric := [.volatility, .drawdown, .sharpe, .sortino, .var]

theorem mem_nonBenchmarkMetrics {metric : RiskMetric} :
    metric ∈ nonBenchmarkMetrics ↔ ∀ m, metric ≠ .benchmark m := by
  cases metric with
  | benchmark m => exact iff_of_false (by cases m <;> decide) (fun h => h m rfl)
  | _ => exact iff_of_true (by decide) nofun

variable [FloorRing K]

/-- A window has a value or an error of exactly the requested metrics of its own returns. -/
theorem mem_keys_nonBenchmark {request : PeriodMetricCalculationRequest K}
    (h : periodNonBenchmarkMetrics math request = .ok m) :
    key ∈ m.metricMap.map Prod.fst ↔
      ∃ metric ∈ nonBenchmarkMetrics, metric ∈ request.metrics ∧ metric.text = key := by
  obtain ⟨metricSeries, _, h⟩ := bind_eq_ok.1 h
  obtain ⟨varSeries, _, h⟩ := bind_eq_ok.1 h
  cases hmetric : metricSeries.error with
  | some message =>
    simp only [hmetric] at h
    obtain ⟨drawdown, hdrawdown, hdone⟩ := bind_eq_ok.1 h
    cases hdone
    rw [List.map_append, List.mem_append, mem_keys_requested hdrawdown,
      mem_keys_metricSeriesErrorMap, nonBenchmarkMetrics]
    simp only [List.map_cons, List.map_nil, List.mem_cons, List.not_mem_nil, or_false,
      exists_eq_or_imp, exists_eq_left]
    tauto
  | none =>
    simp only [hmetric] at h
    cases hvar : varSeries.error with
    | some message =>
      simp only [hvar] at h
      obtain ⟨rest, hrest, hdone⟩ := bind_eq_ok.1 h
      cases hdone
      have herror : key ∈ (if RiskMetric.var ∈ request.metrics then
          [(RiskMetric.var.text, metricError (K := K) message)] else []).map Prod.fst ↔
          RiskMetric.var ∈ request.metrics ∧ RiskMetric.var.text = key := by
        split
        · rename_i hrequested
          rw [List.map_singleton, List.mem_singleton, and_iff_right hrequested, eq_comm]
        · rename_i hnot
          exact iff_of_false nofun (fun hkey => hnot hkey.1)
      rw [List.map_append, List.mem_append, mem_keys_requested hrest, herror,
        buildNonBenchmarkCalculators, nonBenchmarkMetrics]
      simp [or_assoc]
    | none =>
      simp only [hvar] at h
      obtain ⟨all, hall, hdone⟩ := bind_eq_ok.1 h
      cases hdone
      rw [mem_keys_requested hall]
      rfl

omit [FloorRing K] in
theorem keys_availableBenchmark {request : PeriodMetricCalculationRequest K}
    (h : availableBenchmarkPeriodMetrics math request metricSeries metrics = .ok r) :
    r.metricMap.map Prod.fst = metrics.map BenchmarkMetric.text := by
  rw [availableBenchmarkPeriodMetrics] at h
  split at h
  · cases h
    exact keys_benchmarkMetricErrors metrics _
  · cases h
  · split at h
    · cases h
      exact keys_benchmarkMetricErrors metrics _
    · obtain ⟨⟨metricMap, count⟩, hmap, hdone⟩ := bind_eq_ok.1 h
      cases hdone
      exact keys_calculateAlignedBenchmarkMetrics hmap

omit [FloorRing K] in
/-- The same of the metrics against the benchmark. -/
theorem keys_periodBenchmark {request : PeriodMetricCalculationRequest K}
    (h : periodBenchmarkMetrics math request nonBenchmark = .ok benchmark) :
    ((benchmark.map (fun b => b.1.metricMap)).getD []).map Prod.fst =
      (requestedBenchmarkMetrics request.metrics).map BenchmarkMetric.text := by
  rw [periodBenchmarkMetrics] at h
  split at h
  · rename_i hnone
    cases h
    rw [List.isEmpty_iff.1 hnone]
    rfl
  · split at h
    · cases h
      exact keys_benchmarkMetricErrors _ _
    · obtain ⟨b, hb, rfl⟩ := map_eq_ok.1 h
      rcases calculateBenchmarkPeriodMetrics_ok hb with ⟨_, hmap⟩ | ⟨_, havailable⟩
      · rw [Option.map_some, Option.getD_some, hmap]
        exact keys_benchmarkMetricErrors _ _
      · exact keys_availableBenchmark havailable

theorem mem_requestedBenchmarkMetrics {metrics : List RiskMetric} :
    m ∈ requestedBenchmarkMetrics metrics ↔ .benchmark m ∈ metrics := by
  rw [requestedBenchmarkMetrics, List.mem_filterMap]
  constructor
  · rintro ⟨metric, hmetric, hm⟩
    cases metric with
    | benchmark m' =>
      cases hm
      exact hmetric
    | _ => cases hm
  · intro hm
    exact ⟨_, hm, rfl⟩

/-- A period reports exactly the requested metrics. -/
theorem mem_keys_calculatePeriodResult {request : PeriodMetricCalculationRequest K}
    (h : calculatePeriodResult math request = .ok result) :
    key ∈ result.metrics.keys ↔ key ∈ request.metrics.map RiskMetric.text := by
  obtain ⟨nonBenchmark, hnonBenchmark, h⟩ := bind_eq_ok.1 h
  obtain ⟨benchmark, hbenchmark, hdone⟩ := bind_eq_ok.1 h
  cases hdone
  rw [Dict.mem_keys_ofList, List.map_append, List.mem_append, mem_keys_nonBenchmark hnonBenchmark,
    keys_periodBenchmark hbenchmark]
  constructor
  · rintro (⟨metric, _, hmetric, rfl⟩ | hkey)
    · exact List.mem_map_of_mem hmetric
    · obtain ⟨m, hm, rfl⟩ := List.mem_map.1 hkey
      exact List.mem_map_of_mem (f := RiskMetric.text) (mem_requestedBenchmarkMetrics.1 hm)
  · intro hkey
    obtain ⟨metric, hmetric, rfl⟩ := List.mem_map.1 hkey
    cases metric with
    | benchmark m =>
      right
      exact List.mem_map_of_mem (f := BenchmarkMetric.text)
        (mem_requestedBenchmarkMetrics.2 hmetric)
    | _ =>
      refine .inl ⟨_, mem_nonBenchmarkMetrics.2 ?_, hmetric, rfl⟩
      nofun

end Keys

section Reports

variable [FloorRing K]

/-- The results are those of the requested periods, each with the requested metrics. -/
structure CompleteReport (request : StatelessRiskInput K)
    (results : Dict String (RiskPeriodResult K)) : Prop where
  periods : results.keys = request.periods.map RiskRequestPeriod.resolvedName
  metrics : ∀ name result, results.get? name = some result →
    ∀ key, key ∈ result.metrics.keys ↔ key ∈ request.metrics.map RiskMetric.text

/-- The integers whose square roots scale the metrics of the request are in the range of a
float. -/
structure StatelessRiskInput.HasScales (request : StatelessRiskInput K) : Prop where
  factor : beyondFloat (annualizationFactorForOptions request.options) = false
  horizon : beyondFloat request.options.var.horizonDays = false

theorem resolves_of_buildSinglePeriodResult {request : StatelessRiskInput K}
    (h : buildSinglePeriodResult math request rates period = .ok entry) :
    ∃ range, resolvePeriod period request.asOfDate request.portfolioOpenDate = .ok range := by
  obtain ⟨range, hrange, _⟩ := bind_eq_ok.1 h
  exact ⟨range, hrange⟩

theorem exists_buildSinglePeriodResult {request : StatelessRiskInput K}
    (hscales : request.HasScales)
    (hfactor : rates.annualFactor = annualizationFactorForOptions request.options)
    (hrange : resolvePeriod period request.asOfDate request.portfolioOpenDate = .ok range) :
    ∃ entry, buildSinglePeriodResult math request rates period = .ok entry := by
  have hperiod : (periodCalculation request rates range.1 range.2).HasScales :=
    ⟨(congrArg (fun n : Nat => beyondFloat n) hfactor).trans hscales.factor, hscales.horizon⟩
  obtain ⟨result, hresult⟩ := exists_calculatePeriodResult math hperiod
  exact ⟨_, bind_eq_ok.2 ⟨range, hrange, bind_eq_ok.2 ⟨result, hresult, rfl⟩⟩⟩

theorem completeReport_of_calculated {request : StatelessRiskInput K}
    (h : buildPeriodResults math request rates = .ok results) : CompleteReport request results := by
  obtain ⟨entries, hentries, hdone⟩ := bind_eq_ok.1 h
  cases hdone
  have hentry : ∀ period entry, buildSinglePeriodResult math request rates period = .ok entry →
      entry.1 = period.resolvedName ∧
        ∀ key, key ∈ entry.2.metrics.keys ↔ key ∈ request.metrics.map RiskMetric.text := by
    intro period entry hentry
    obtain ⟨⟨start, stop⟩, _, hentry⟩ := bind_eq_ok.1 hentry
    obtain ⟨result, hresult, hdone⟩ := bind_eq_ok.1 hentry
    cases hdone
    exact ⟨rfl, fun key => mem_keys_calculatePeriodResult hresult⟩
  have hnames := map_of_mapM_ok (fun period entry h => (hentry period entry h).1) hentries
  have hitems : (Dict.ofList entries).items = entries :=
    Dict.items_ofList (by rw [hnames]; exact request.names_unique)
  constructor
  · change (Dict.ofList entries).items.map Prod.fst = _
    rw [hitems, hnames]
  · intro name result hget
    have hmem := Dict.get?_eq_some.1 hget
    rw [hitems] at hmem
    obtain ⟨period, _, hperiod⟩ := exists_of_mem_right (mapM_eq_ok.1 hentries) hmem
    exact (hentry period _ hperiod).2

theorem calculateRisk_eq_ok {request : StatelessRiskInput K} (hne : request.returns ≠ []) :
    calculateRisk math request = .ok results ↔ ∃ rates,
      resolvePeriodicRates math.pow request.options
        (annualizationFactorForOptions request.options) = .ok rates ∧
      buildPeriodResults math request
        ⟨annualizationFactorForOptions request.options, rates.1, rates.2⟩ = .ok results := by
  have hsome : request.returns.isEmpty = false := List.isEmpty_eq_false_iff.2 hne
  rw [calculateRisk, hsome, if_neg Bool.false_ne_true, bind_eq_ok]
  simp only [SourceException.ofPython_eq_ok]

/-- A calculation that succeeds has resolved its rates and its periods. -/
theorem resolves_of_calculateRisk {request : StatelessRiskInput K} (hne : request.returns ≠ [])
    (h : calculateRisk math request = .ok results) :
    (∃ rates, resolvePeriodicRates math.pow request.options
      (annualizationFactorForOptions request.options) = .ok rates) ∧
    ∀ period ∈ request.periods, ∃ range,
      resolvePeriod period request.asOfDate request.portfolioOpenDate = .ok range := by
  obtain ⟨rates, hrates, hbuilt⟩ := (calculateRisk_eq_ok hne).1 h
  refine ⟨⟨rates, hrates⟩, ?_⟩
  intro period hperiod
  obtain ⟨entries, hentries, _⟩ := bind_eq_ok.1 hbuilt
  obtain ⟨entry, _, hentry⟩ := exists_of_mem_right (mapM_eq_ok.1 hentries).flip hperiod
  exact resolves_of_buildSinglePeriodResult hentry

theorem exists_calculateRisk {request : StatelessRiskInput K} (hne : request.returns ≠ [])
    (hscales : request.HasScales) :
    (∃ results, calculateRisk math request = .ok results) ↔
      (∃ rates, resolvePeriodicRates math.pow request.options
        (annualizationFactorForOptions request.options) = .ok rates) ∧
      ∀ period ∈ request.periods, ∃ range,
        resolvePeriod period request.asOfDate request.portfolioOpenDate = .ok range := by
  constructor
  · rintro ⟨results, hresults⟩
    exact resolves_of_calculateRisk hne hresults
  · rintro ⟨⟨rates, hrates⟩, hranges⟩
    obtain ⟨entries, hentries, _⟩ := exists_mapM_ok (buildSinglePeriodResult math request
        ⟨annualizationFactorForOptions request.options, rates.1, rates.2⟩) (fun _ => True)
      request.periods (by
        intro period hperiod
        obtain ⟨range, hrange⟩ := hranges period hperiod
        obtain ⟨entry, hentry⟩ : ∃ entry, buildSinglePeriodResult math request
            ⟨annualizationFactorForOptions request.options, rates.1, rates.2⟩ period =
              .ok entry :=
          exists_buildSinglePeriodResult hscales rfl hrange
        exact ⟨entry, hentry, trivial⟩)
    exact ⟨_, (calculateRisk_eq_ok hne).2
      ⟨rates, hrates, bind_eq_ok.2 ⟨entries, hentries, rfl⟩⟩⟩

/-- A calculation on returns, of scales that a float can hold, fails only where its rates or one
of its periods do not resolve, and otherwise reports every requested metric of every requested
period, and no other. -/
theorem calculateRisk_complete (math : PyMath K) (request : StatelessRiskInput K)
    (hne : request.returns ≠ []) (hscales : request.HasScales) :
    ((∃ results, calculateRisk math request = .ok results) ↔
      (∃ rates, resolvePeriodicRates math.pow request.options
        (annualizationFactorForOptions request.options) = .ok rates) ∧
      ∀ period ∈ request.periods, ∃ range,
        resolvePeriod period request.asOfDate request.portfolioOpenDate = .ok range) ∧
    ∀ results, calculateRisk math request = .ok results → CompleteReport request results := by
  refine ⟨exists_calculateRisk hne hscales, ?_⟩
  intro results hresults
  obtain ⟨_, _, hbuilt⟩ := (calculateRisk_eq_ok hne).1 hresults
  exact completeReport_of_calculated hbuilt

theorem calculateRisk_complete_year : ∃ results,
    calculateRisk rationalMath (yearRequest 2026 2) = .ok results ∧
      CompleteReport (yearRequest 2026 2) results := by
  have hcomplete := calculateRisk_complete rationalMath (yearRequest 2026 2) (List.cons_ne_nil _ _)
    ⟨year_scales, day_scales⟩
  have hruns : (calculateRisk rationalMath (yearRequest 2026 2)).toOption.isSome = true := by
    decide +kernel
  obtain ⟨results, hresults⟩ := ok_of_isSome hruns
  exact ⟨results, hresults, hcomplete.2 results hresults⟩

end Reports

end LotusRisk
