import LotusRisk.Attribution.TotalRisk
import LotusRisk.Risk.VarReports

/-! What a period reports against its benchmark: measures of one list of aligned returns. -/

namespace LotusRisk
set_option autoImplicit true

open Relational Raising

section Reports

variable {K : Type} [Field K] [LinearOrder K] {math : PyMath K}

/-- The least number of aligned returns. -/
def requireAligned (aligned : List (K × K)) : Except PyException (List (K × K)) := do
  raiseIf (decide (aligned.length < 2)) (.valueError "Insufficient aligned observations")
  .ok aligned

omit [Field K] [LinearOrder K] in
theorem requireAligned_short {aligned : List (K × K)} (h : aligned.length < 2) :
    requireAligned aligned = .error (.valueError "Insufficient aligned observations") := by
  rw [requireAligned, decide_eq_true h]
  rfl

omit [Field K] [LinearOrder K] in
theorem requireAligned_long {aligned : List (K × K)} (h : ¬aligned.length < 2) :
    requireAligned aligned = .ok aligned := by
  rw [requireAligned, decide_eq_false h]
  rfl

/-- The returns of a period beside those of the benchmark, as one chain. -/
def alignedPeriodReturns (math : PyMath K) (request : PeriodMetricCalculationRequest K) :
    Except PyException (List (K × K)) := do
  let metricSeries ← metricReturnSeries math request.periodReturns request.options.frequency
    request.options.useLogReturns
  raiseIf request.benchmark.isEmpty
    (.valueError "Benchmark returns required for benchmark-dependent metric")
  let benchmarkPeriod ← alignAndResampleBenchmark math request.benchmark request.start request.stop
    request.options
  requireAligned (alignedBenchmarkSeries metricSeries benchmarkPeriod)

/-- The metric of aligned returns, or the error. -/
def benchmarkReport (math : PyMath K) (annualFactor : Nat) (metric : BenchmarkMetric)
    (aligned : Except PyException (List (K × K))) : Except PyException (RiskValue K) :=
  catchValueError (do
    let pairs ← aligned
    calculateBenchmarkMetric math (pairs.map Prod.fst) (pairs.map Prod.snd) annualFactor metric)
    metricError

omit [Field K] [LinearOrder K] in
theorem BenchmarkMetric.text_injective {metric metric' : BenchmarkMetric}
    (h : metric.text = metric'.text) : metric = metric' := by
  have hmetric : RiskMetric.benchmark metric = .benchmark metric' := RiskMetric.text_injective h
  cases hmetric
  rfl

omit [Field K] [LinearOrder K] in
theorem value_of_benchmarkMetricErrors {metrics : List BenchmarkMetric}
    (he : e ∈ benchmarkMetricErrors (K := K) metrics message) : e.2 = metricError message := by
  obtain ⟨_, _, rfl⟩ := List.mem_map.1 he
  rfl

theorem value_of_calculateAligned {benchmarkPeriod : Series Date K}
    (h : calculateAlignedBenchmarkMetrics math metricSeries benchmarkPeriod metrics annualFactor =
      .ok (metricMap, count)) (he : e ∈ metricMap) (hkey : e.1 = metric.text) :
    benchmarkReport math annualFactor metric
      (requireAligned (alignedBenchmarkSeries metricSeries benchmarkPeriod)) = .ok e.2 := by
  rw [calculateAlignedBenchmarkMetrics] at h
  by_cases hshort : (alignedBenchmarkSeries metricSeries benchmarkPeriod).length < 2
  · rw [if_pos hshort] at h
    cases h
    rw [value_of_benchmarkMetricErrors he, requireAligned_short hshort]
    rfl
  · rw [if_neg hshort] at h
    obtain ⟨values, hvalues, hdone⟩ := bind_eq_ok.1 h
    cases hdone
    obtain ⟨metric', _, hentry⟩ := exists_of_mem_right (mapM_eq_ok.1 hvalues) he
    obtain ⟨v, hv, rfl⟩ := map_eq_ok.1 hentry
    cases BenchmarkMetric.text_injective hkey
    rw [requireAligned_long hshort]
    exact hv

theorem value_of_available {request : PeriodMetricCalculationRequest K}
    (h : availableBenchmarkPeriodMetrics math request metricSeries metrics = .ok r)
    (he : e ∈ r.metricMap) (hkey : e.1 = metric.text) :
    benchmarkReport math request.annualFactor metric (do
      let benchmarkPeriod ← alignAndResampleBenchmark math request.benchmark request.start
        request.stop request.options
      requireAligned (alignedBenchmarkSeries metricSeries benchmarkPeriod)) = .ok e.2 := by
  rw [availableBenchmarkPeriodMetrics] at h
  cases hbenchmark : alignAndResampleBenchmark math request.benchmark request.start request.stop
      request.options with
  | error error =>
    rw [hbenchmark] at h
    cases error with
    | valueError message =>
      cases h
      rw [value_of_benchmarkMetricErrors he]
      rfl
    | _ => cases h
  | ok benchmarkPeriod =>
    simp only [hbenchmark] at h
    by_cases hwindow : benchmarkPeriod.isEmpty = true
    · rw [if_pos hwindow] at h
      cases h
      have haligned : alignedBenchmarkSeries metricSeries benchmarkPeriod = [] := by
        apply List.filterMap_eq_nil_iff.2
        intro p _
        rw [loc_of_isEmpty hwindow]
        rfl
      rw [value_of_benchmarkMetricErrors he]
      change benchmarkReport math request.annualFactor metric
        (requireAligned (alignedBenchmarkSeries metricSeries benchmarkPeriod)) = _
      rw [haligned]
      rfl
    · rw [if_neg hwindow] at h
      obtain ⟨⟨metricMap, count⟩, hmap, hdone⟩ := bind_eq_ok.1 h
      cases hdone
      exact value_of_calculateAligned hmap he hkey

/-- A benchmark metric that a period writes is the report of its aligned returns. -/
theorem value_of_periodBenchmark {request : PeriodMetricCalculationRequest K}
    (hseries : metricReturnSeries math request.periodReturns request.options.frequency
      request.options.useLogReturns = .ok nonBenchmark.metricSeries)
    (herror : nonBenchmark.metricSeriesError = none)
    (h : periodBenchmarkMetrics math request nonBenchmark = .ok benchmark)
    (he : e ∈ (benchmark.map (fun b => b.1.metricMap)).getD []) (hkey : e.1 = metric.text) :
    benchmarkReport math request.annualFactor metric (alignedPeriodReturns math request) =
      .ok e.2 := by
  rw [periodBenchmarkMetrics] at h
  split at h
  · cases h
    cases he
  · rw [herror] at h
    obtain ⟨b, hb, rfl⟩ := map_eq_ok.1 h
    rw [Option.map_some, Option.getD_some] at he
    rw [alignedPeriodReturns, hseries]
    rcases calculateBenchmarkPeriodMetrics_ok hb with ⟨hempty, hmap⟩ | ⟨hsome, havailable⟩
    · rw [hmap] at he
      rw [value_of_benchmarkMetricErrors he, hempty]
      rfl
    · rw [hsome]
      exact value_of_available havailable he hkey

variable [FloorRing K]

/-- The series of a period, or the error that its metrics have. -/
theorem series_of_nonBenchmark {request : PeriodMetricCalculationRequest K}
    (h : periodNonBenchmarkMetrics math request = .ok m) :
    (metricReturnSeries math request.periodReturns request.options.frequency
        request.options.useLogReturns = .ok m.metricSeries ∧ m.metricSeriesError = none) ∨
      ∃ message, metricReturnSeries math request.periodReturns request.options.frequency
        request.options.useLogReturns = .error (.valueError message) ∧
        m.metricSeriesError = some message := by
  obtain ⟨metricSeries, hmetricSeries, h⟩ := bind_eq_ok.1 h
  obtain ⟨varSeries, _, h⟩ := bind_eq_ok.1 h
  rcases resolveMetricReturnSeries_eq_ok hmetricSeries with
    ⟨hmetric, herror⟩ | ⟨message, hmetric, herror⟩
  · simp only [herror] at h
    cases hvar : varSeries.error with
    | some message =>
      simp only [hvar] at h
      obtain ⟨_, _, hdone⟩ := bind_eq_ok.1 h
      cases hdone
      exact .inl ⟨hmetric, rfl⟩
    | none =>
      simp only [hvar] at h
      obtain ⟨_, _, hdone⟩ := bind_eq_ok.1 h
      cases hdone
      exact .inl ⟨hmetric, rfl⟩
  · simp only [herror] at h
    obtain ⟨_, _, hdone⟩ := bind_eq_ok.1 h
    cases hdone
    exact .inr ⟨message, hmetric, rfl⟩

/-- A period reports a benchmark metric of its aligned returns. -/
theorem benchmark_of_period {request : PeriodMetricCalculationRequest K}
    (h : calculatePeriodResult math request = .ok result)
    (hmetric : .benchmark metric ∈ request.metrics) :
    ∃ v, benchmarkReport math request.annualFactor metric (alignedPeriodReturns math request) =
        .ok v ∧ result.metrics.get? metric.text = some v := by
  have hkey : metric.text ∈ result.metrics.keys :=
    (mem_keys_calculatePeriodResult h).2 (List.mem_map_of_mem (f := RiskMetric.text) hmetric)
  obtain ⟨nonBenchmark, hnonBenchmark, h⟩ := bind_eq_ok.1 h
  obtain ⟨benchmark, hbenchmark, hdone⟩ := bind_eq_ok.1 h
  cases hdone
  have hother : ∀ e ∈ nonBenchmark.metricMap, e.1 ≠ metric.text := by
    intro e he heq
    obtain ⟨metric', hnot, _, htext⟩ :=
      (mem_keys_nonBenchmark hnonBenchmark).1 (List.mem_map_of_mem (f := Prod.fst) he)
    have hsame : metric' = .benchmark metric := RiskMetric.text_injective (htext.trans heq)
    exact mem_nonBenchmarkMetrics.1 hnot metric hsame
  have hvalues : ∃ v, benchmarkReport math request.annualFactor metric
      (alignedPeriodReturns math request) = .ok v ∧
      ∀ e ∈ (benchmark.map (fun b => b.1.metricMap)).getD [], e.1 = metric.text → e.2 = v := by
    rcases series_of_nonBenchmark hnonBenchmark with ⟨hseries, herror⟩ | ⟨message, hseries, herror⟩
    · obtain ⟨e, he, heq⟩ := List.mem_map.1 (Dict.mem_keys_ofList.1 hkey)
      rcases List.mem_append.1 he with he | he
      · exact absurd heq (hother e he)
      · have hreport := value_of_periodBenchmark hseries herror hbenchmark he heq
        refine ⟨e.2, hreport, ?_⟩
        intro e' he' heq'
        exact Except.ok.inj
          ((value_of_periodBenchmark hseries herror hbenchmark he' heq').symm.trans hreport)
    · refine ⟨metricError message, ?_, ?_⟩
      · rw [alignedPeriodReturns, hseries]
        rfl
      · intro e he _
        rw [periodBenchmarkMetrics, herror] at hbenchmark
        split at hbenchmark
        · cases hbenchmark
          cases he
        · cases hbenchmark
          exact value_of_benchmarkMetricErrors he
  obtain ⟨v, hreport, hentries⟩ := hvalues
  refine ⟨v, hreport, Dict.get?_ofList_of_all (Dict.mem_keys_ofList.1 hkey) ?_⟩
  intro e he heq
  rcases List.mem_append.1 he with he | he
  · exact absurd heq (hother e he)
  · exact hentries e he heq

end Reports

section Coherence

variable {K : Type} [Field K] [LinearOrder K] {math : PyMath K}

/-- An entry of the details of a result. -/
def RiskValue.detail (v : RiskValue K) (key : String) : Option (DetailValue K) :=
  v.details.bind fun details => details.get? key

omit [Field K] [LinearOrder K] in
theorem detail_of_mem {v : RiskValue K} {details : List (String × DetailValue K)}
    (hdetails : v.details = some (Dict.ofList details)) (hkeys : details.map Prod.fst = keys)
    (hnodup : keys.Nodup) (hmem : (key, x) ∈ details) : v.detail key = some x := by
  rw [RiskValue.detail, hdetails]
  exact Dict.get?_ofList_of_mem (by rw [hkeys]; exact hnodup) hmem

/-- The return of a pair over that of the benchmark. -/
def activeReturn (p : K × K) : K := p.1 - p.2

/-- A reported number is that of enough aligned returns. -/
theorem benchmarkReport_value {aligned : Except PyException (List (K × K))}
    (h : benchmarkReport math annualFactor metric aligned = .ok v) (hvalue : v.value = some x) :
    ∃ pairs, aligned = .ok pairs ∧ calculateBenchmarkMetric math (pairs.map Prod.fst)
      (pairs.map Prod.snd) annualFactor metric = .ok v := by
  rcases catchValueError_eq_ok.1 h with hcalculated | ⟨message, _, rfl⟩
  · exact bind_eq_ok.1 hcalculated
  · cases hvalue

theorem two_le_of_aligned {request : PeriodMetricCalculationRequest K}
    (h : alignedPeriodReturns math request = .ok pairs) : 2 ≤ pairs.length := by
  obtain ⟨_, _, h⟩ := bind_eq_ok.1 h
  obtain ⟨_, _, h⟩ := bind_eq_ok.1 h
  obtain ⟨_, _, h⟩ := bind_eq_ok.1 h
  by_contra hshort
  rw [requireAligned] at h
  obtain ⟨_, hraise, hdone⟩ := bind_eq_ok.1 h
  cases hdone
  rw [decide_eq_true (not_le.1 hshort)] at hraise
  cases hraise

omit [LinearOrder K] in
theorem sampleCovariance_pairs (pairs : List (K × K)) (f g : K × K → K) :
    sampleCovariance (pairs.map f) (pairs.map g) = Sampling.covariance pairs f g := by
  have hmean : ∀ h : K × K → K, mean (pairs.map h) = Sampling.average pairs h := by
    intro h
    rw [mean, List.length_map]
    rfl
  rw [sampleCovariance, Sampling.covariance, List.zipWith_map, List.zipWith_self,
    List.length_map, hmean, hmean]

omit [LinearOrder K] in
theorem active_eq_map (pairs : List (K × K)) :
    List.zipWith (fun p b => p - b) (pairs.map Prod.fst) (pairs.map Prod.snd) =
      pairs.map activeReturn := by
  rw [List.zipWith_map, List.zipWith_self]
  rfl

omit [LinearOrder K] in
/-- The variances of the portfolio and of the benchmark, and their covariance. -/
theorem active_variance (pairs : List (K × K)) :
    sampleCovariance (pairs.map activeReturn) (pairs.map activeReturn) =
      sampleCovariance (pairs.map Prod.fst) (pairs.map Prod.fst) -
        2 * sampleCovariance (pairs.map Prod.fst) (pairs.map Prod.snd) +
        sampleCovariance (pairs.map Prod.snd) (pairs.map Prod.snd) := by
  simp only [sampleCovariance_pairs]
  exact Sampling.covariance_sub_self pairs Prod.fst Prod.snd

theorem not_close_of_raiseIf {x : K} (h : raiseIf (isCloseToZero x) e = .ok u) :
    isCloseToZero x = false := by
  rw [← Bool.not_eq_true]
  intro hclose
  rw [hclose] at h
  cases h

/-- The details of a reported beta. -/
theorem beta_of_ok {portfolio benchmark : List K} (h : beta portfolio benchmark = .ok v) :
    v.value = some (sampleCovariance portfolio benchmark / sampleCovariance benchmark benchmark) ∧
      isCloseToZero (sampleCovariance benchmark benchmark) = false ∧
      v.detail "covariance" = some (.float (sampleCovariance portfolio benchmark)) ∧
      v.detail "benchmark_variance" = some (.float (sampleCovariance benchmark benchmark)) := by
  obtain ⟨_, hraise, hdone⟩ := bind_eq_ok.1 h
  cases hdone
  have hkeys : ["aligned_observation_count", "portfolio_mean_return", "benchmark_mean_return",
      "covariance", "benchmark_variance"].Nodup := by decide
  refine ⟨rfl, not_close_of_raiseIf hraise, detail_of_mem rfl rfl hkeys ?_,
    detail_of_mem rfl rfl hkeys ?_⟩
  · simp only [List.mem_cons, true_or, or_true]
  · simp only [List.mem_cons, true_or, or_true]

/-- The details of a reported tracking error. -/
theorem trackingError_of_ok {portfolio benchmark : List K}
    (h : trackingError math portfolio benchmark annualFactor = .ok v) :
    ∃ active, List.zipWith (fun p b => p - b) portfolio benchmark = active ∧
      v.value = some (sampleStd math active * math.sqrt annualFactor) ∧
      v.detail "active_mean_return" = some (.float (fromPercent (mean active))) ∧
      v.detail "aligned_observation_count" = some (.int active.length) ∧
      v.detail "annualized_tracking_error" =
        some (.float (fromPercent (sampleStd math active * math.sqrt annualFactor))) := by
  obtain ⟨_, hroot, hdone⟩ := bind_eq_ok.1 h
  obtain ⟨_, rfl⟩ := sqrtOfInt_eq_ok.1 hroot
  cases hdone
  have hkeys : ["aligned_observation_count", "annualization_factor", "portfolio_mean_return",
      "benchmark_mean_return", "active_mean_return", "active_volatility",
      "annualized_tracking_error"].Nodup := by decide
  refine ⟨_, rfl, rfl, detail_of_mem rfl rfl hkeys ?_, detail_of_mem rfl rfl hkeys ?_,
    detail_of_mem rfl rfl hkeys ?_⟩
  · simp only [List.mem_cons, true_or, or_true]
  · simp only [List.mem_cons, true_or]
  · simp only [List.mem_cons, true_or, or_true]

/-- The details of a reported information ratio. -/
theorem informationRatio_of_ok {portfolio benchmark : List K}
    (h : informationRatio math portfolio benchmark annualFactor = .ok v) :
    ∃ active, List.zipWith (fun p b => p - b) portfolio benchmark = active ∧
      isCloseToZero (sampleStd math active) = false ∧
      v.value = some (mean active / sampleStd math active * math.sqrt annualFactor) ∧
      v.detail "annualized_active_return" =
        some (.float (fromPercent (mean active) * annualFactor)) ∧
      v.detail "annualized_tracking_error" =
        some (.float (fromPercent (sampleStd math active) * math.sqrt annualFactor)) := by
  obtain ⟨_, hraise, h⟩ := bind_eq_ok.1 h
  obtain ⟨_, hroot, hdone⟩ := bind_eq_ok.1 h
  obtain ⟨_, rfl⟩ := sqrtOfInt_eq_ok.1 hroot
  cases hdone
  have hkeys : ["aligned_observation_count", "annualization_factor", "portfolio_mean_return",
      "benchmark_mean_return", "active_mean_return", "tracking_error",
      "annualized_active_return", "annualized_tracking_error"].Nodup := by decide
  refine ⟨_, rfl, not_close_of_raiseIf hraise, rfl, detail_of_mem rfl rfl hkeys ?_,
    detail_of_mem rfl rfl hkeys ?_⟩
  · simp only [List.mem_cons, true_or, or_true]
  · simp only [List.mem_cons, true_or, or_true]

/-- The reported beta `β`, tracking error `τ` and information ratio `ι` agree with each other: the
ratio is the annualized active return over the tracking error, and the covariance of beta is one
that the variances allow. -/
def CoherentReports (annualFactor : Nat) (b t i : RiskValue K) (β τ ι : K) : Prop :=
  ∃ active covariance variance,
    t.detail "active_mean_return" = some (.float active) ∧
    i.detail "annualized_active_return" = some (.float (active * annualFactor)) ∧
    t.detail "annualized_tracking_error" = some (.float (fromPercent τ)) ∧
    i.detail "annualized_tracking_error" = some (.float (fromPercent τ)) ∧
    ι * fromPercent τ = active * annualFactor ∧ 0 < τ ∧
    b.detail "covariance" = some (.float covariance) ∧
    b.detail "benchmark_variance" = some (.float variance) ∧
    β * variance = covariance ∧
    covariance * covariance ≤
      (τ * τ / annualFactor + (covariance + covariance) - variance) * variance

variable [IsStrictOrderedRing K]

/-- The deviation of aligned returns squares to their variance. -/
theorem sampleStd_sq (hsqrt : math.IsSquareRoot) (pairs : List (K × K)) (hne : pairs ≠ [])
    (f : K × K → K) :
    sampleStd math (pairs.map f) * sampleStd math (pairs.map f) =
      sampleCovariance (pairs.map f) (pairs.map f) := by
  apply hsqrt
  rw [sampleCovariance_pairs]
  exact Sampling.covariance_self_nonneg pairs f hne

variable [FloorRing K]

omit [IsStrictOrderedRing K] in
/-- What a run reports against the benchmark in a period is of one list of aligned returns. -/
theorem reports_of_run {request : StatelessRiskInput K} (hne : request.returns ≠ [])
    (hperiod : period ∈ request.periods) (h : calculateRisk math request = .ok results) :
    ∃ aligned, (∀ pairs, aligned = .ok pairs → 2 ≤ pairs.length) ∧
      ∀ metric v, reportedMetric results period (.benchmark metric) = some v →
        benchmarkReport math (annualizationFactorForOptions request.options) metric aligned =
          .ok v := by
  obtain ⟨rates, start, stop, result, _, hfactor, _, hresult, hget⟩ :=
    period_of_calculateRisk h hne hperiod
  refine ⟨alignedPeriodReturns math (periodCalculation request rates start stop),
    fun pairs hpairs => two_le_of_aligned hpairs, ?_⟩
  intro metric v hv
  rw [reportedMetric, hget, Option.bind_some] at hv
  have hkey : metric.text ∈ result.metrics.keys := by
    rw [← Dict.get?_isSome]
    exact Option.isSome_of_mem hv
  obtain ⟨metric', hmetric', htext⟩ :=
    List.mem_map.1 ((mem_keys_calculatePeriodResult hresult).1 hkey)
  have hsame : metric' = .benchmark metric := RiskMetric.text_injective htext
  rw [hsame] at hmetric'
  obtain ⟨v', hreport, hentry⟩ := benchmark_of_period hresult hmetric'
  rw [show (periodCalculation request rates start stop).annualFactor =
    annualizationFactorForOptions request.options from hfactor] at hreport
  cases hv.symm.trans hentry
  exact hreport

/-- The metrics against the benchmark that a run reports of a period agree with each other. -/
theorem benchmark_metrics_coherent
    (hsqrt : math.IsSquareRoot) (request : StatelessRiskInput K)
    (hne : request.returns ≠ []) (hperiod : period ∈ request.periods)
    (h : calculateRisk math request = .ok results)
    (hb : reportedMetric results period (.benchmark .beta) = some b)
    (ht : reportedMetric results period (.benchmark .trackingError) = some t)
    (hi : reportedMetric results period (.benchmark .informationRatio) = some i)
    (hbv : b.value = some β) (htv : t.value = some τ) (hiv : i.value = some ι) :
    CoherentReports (annualizationFactorForOptions request.options) b t i β τ ι := by
  let annualFactor : K := annualizationFactorForOptions request.options
  obtain ⟨aligned, hlength, hreports⟩ := reports_of_run hne hperiod h
  obtain ⟨pairs, haligned, hbeta⟩ := benchmarkReport_value (hreports _ _ hb) hbv
  obtain ⟨pairs', haligned', herror⟩ := benchmarkReport_value (hreports _ _ ht) htv
  cases haligned.symm.trans haligned'
  obtain ⟨pairs', haligned', hratio⟩ := benchmarkReport_value (hreports _ _ hi) hiv
  cases haligned.symm.trans haligned'
  have hpairs : pairs ≠ [] := by
    have htwo := hlength pairs haligned
    exact List.ne_nil_of_length_pos (by omega)
  obtain ⟨hbetaValue, hvariance, hcovarianceDetail, hvarianceDetail⟩ := beta_of_ok hbeta
  obtain ⟨active, hactive, herrorValue, hactiveDetail, _, herrorDetail⟩ :=
    trackingError_of_ok herror
  rw [active_eq_map] at hactive
  subst hactive
  obtain ⟨active, hactive, hdeviation, hratioValue, hreturnDetail, hratioDetail⟩ :=
    informationRatio_of_ok hratio
  rw [active_eq_map] at hactive
  subst hactive
  have hτ : sampleStd math (pairs.map activeReturn) * math.sqrt annualFactor = τ :=
    (Option.some.inj (htv.symm.trans herrorValue)).symm
  have hfactor : (0 : K) < annualFactor :=
    Nat.cast_pos.2 (annualizationFactorForOptions_pos request.options)
  have hroot : math.sqrt annualFactor * math.sqrt annualFactor = annualFactor :=
    hsqrt _ hfactor.le
  have hdeviation := ne_zero_of_not_close hdeviation
  have hvariance := ne_zero_of_not_close hvariance
  have hβ := Option.some.inj (hbv.symm.trans hbetaValue)
  have hι := Option.some.inj (hiv.symm.trans hratioValue)
  have hsquare := sampleStd_sq hsqrt pairs hpairs activeReturn
  have hpositive : 0 < τ := by
    rw [← hτ]
    refine mul_pos (lt_of_le_of_ne (math.sqrt_nonneg _) hdeviation.symm)
      (lt_of_le_of_ne (math.sqrt_nonneg _) ?_)
    intro hzero
    rw [← hzero, mul_zero] at hroot
    exact hfactor.ne hroot
  refine ⟨fromPercent (mean (pairs.map activeReturn)),
    sampleCovariance (pairs.map Prod.fst) (pairs.map Prod.snd),
    sampleCovariance (pairs.map Prod.snd) (pairs.map Prod.snd), hactiveDetail, hreturnDetail,
    ?_, ?_, ?_, hpositive, hcovarianceDetail, hvarianceDetail, ?_, ?_⟩
  · rw [← hτ]
    exact herrorDetail
  · rw [hratioDetail, ← hτ, fromPercent, fromPercent, div_mul_eq_mul_div]
  · rw [hι, ← hτ, fromPercent, fromPercent]
    calc
      mean (pairs.map activeReturn) / sampleStd math (pairs.map activeReturn) *
          math.sqrt annualFactor *
          (sampleStd math (pairs.map activeReturn) * math.sqrt annualFactor / (100 : Nat)) =
        mean (pairs.map activeReturn) / (100 : Nat) *
          (math.sqrt annualFactor * math.sqrt annualFactor) := by
        field_simp
      _ = mean (pairs.map activeReturn) / (100 : Nat) * annualFactor := by rw [hroot]
  · rw [hβ, div_mul_cancel₀ _ hvariance]
  · have hportfolio : τ * τ / annualFactor +
        (sampleCovariance (pairs.map Prod.fst) (pairs.map Prod.snd) +
          sampleCovariance (pairs.map Prod.fst) (pairs.map Prod.snd)) -
        sampleCovariance (pairs.map Prod.snd) (pairs.map Prod.snd) =
          sampleCovariance (pairs.map Prod.fst) (pairs.map Prod.fst) := by
      rw [← hτ, mul_mul_mul_comm, hroot, hsquare, active_variance,
        mul_div_cancel_right₀ _ hfactor.ne']
      ring
    rw [hportfolio, ← pow_two]
    simp only [sampleCovariance_pairs]
    exact Sampling.covariance_sq_le pairs Prod.fst Prod.snd

end Coherence

section Real

/-- Two days on which a portfolio returns twice what its benchmark does. -/
noncomputable def doubledRequest : StatelessRiskInput ℝ where
  asOfDate := firstMonday
  periods := [yearPeriod 2026]
  metrics := [.benchmark .beta, .benchmark .trackingError, .benchmark .informationRatio]
  options := defaultRiskOptions
  portfolioOpenDate := firstMonday
  returns := (firstWeek.take 2).zipWith ReturnPoint.mk [((2 : Nat) : ℝ), ((4 : Nat) : ℝ)]
  benchmarkReturns := (firstWeek.take 2).zipWith ReturnPoint.mk [1, ((2 : Nat) : ℝ)]
  names_unique := List.nodup_singleton _
  returns_unique := firstTwo_ascending.imp ne_of_lt
  benchmark_unique := firstTwo_ascending.imp ne_of_lt

/-- The last day of the year. -/
def newYearsEve : Date := ⟨2026, 12, 31, by decide⟩

theorem range_year : resolvePeriod (yearPeriod 2026) firstMonday firstMonday =
    .ok (firstMonday, newYearsEve) := by decide +kernel

set_option maxRecDepth 8000 in
theorem aligned_doubled (rates : SharedRates ℝ) :
    alignedPeriodReturns realMath (periodCalculation doubledRequest rates firstMonday newYearsEve) =
      .ok [(2, 1), (4, 2)] := by
  have haligned : alignedPeriodReturns realMath
      (periodCalculation doubledRequest rates firstMonday newYearsEve) =
        .ok [(((2 : Nat) : ℝ), 1), (((4 : Nat) : ℝ), ((2 : Nat) : ℝ))] := rfl
  rw [haligned]
  norm_num

theorem variance_doubled : isCloseToZero (sampleCovariance [1, 2] [1, 2] : ℝ) = false := by
  norm_num [isCloseToZero, sampleCovariance, mean]

theorem deviation_doubled : isCloseToZero (sampleStd realMath [1, 2]) = false := by
  have hvariance : sampleCovariance [1, 2] [1, 2] = (1 / 2 : ℝ) := by
    norm_num [sampleCovariance, mean]
  have hdeviation : (1 / (100000000 : Nat) : ℝ) < √(1 / 2) := by
    rw [Real.lt_sqrt (by positivity)]
    norm_num
  rw [isCloseToZero, sampleStd, hvariance]
  apply decide_eq_false
  rw [not_le]
  exact hdeviation.trans_le (le_abs_self _)

theorem benchmark_metrics_coherent_doubled : ∃ results b t i β τ ι,
    calculateRisk realMath doubledRequest = .ok results ∧
    reportedMetric results (yearPeriod 2026) (.benchmark .beta) = some b ∧
    reportedMetric results (yearPeriod 2026) (.benchmark .trackingError) = some t ∧
    reportedMetric results (yearPeriod 2026) (.benchmark .informationRatio) = some i ∧
    b.value = some β ∧ t.value = some τ ∧ i.value = some ι ∧
    CoherentReports 252 b t i β τ ι := by
  have hne : doubledRequest.returns ≠ [] := List.cons_ne_nil _ _
  have hperiod : yearPeriod 2026 ∈ doubledRequest.periods := List.mem_singleton_self _
  have hmar : annualToPeriodic realMath.pow 0 252 =
      .ok (realMath.pow (1 + 0) (1 / (252 : Nat)) - 1) := by
    rw [annualToPeriodic, if_neg]
    norm_num
  obtain ⟨results, hresults⟩ : ∃ results, calculateRisk realMath doubledRequest = .ok results := by
    refine (exists_calculateRisk hne ⟨year_scales, day_scales⟩).2
      ⟨⟨_, bind_eq_ok.2 ⟨0, rfl, bind_eq_ok.2 ⟨_, hmar, rfl⟩⟩⟩, ?_⟩
    intro period hmem
    rw [List.mem_singleton.1 hmem]
    exact ⟨_, range_year⟩
  obtain ⟨rates, start, stop, result, _, hfactor, hrange, hresult, hget⟩ :=
    period_of_calculateRisk hresults hne hperiod
  cases range_year.symm.trans hrange
  have hreport : ∀ metric, .benchmark metric ∈ doubledRequest.metrics → ∀ v x,
      calculateBenchmarkMetric realMath [2, 4] [1, 2] 252 metric = .ok v → v.value = some x →
      reportedMetric results (yearPeriod 2026) (.benchmark metric) = some v := by
    intro metric hmetric v x hv hx
    obtain ⟨v', hreport, hentry⟩ := benchmark_of_period hresult hmetric
    rw [aligned_doubled, show (periodCalculation doubledRequest rates firstMonday
      newYearsEve).annualFactor = 252 from hfactor] at hreport
    rcases catchValueError_eq_ok.1 hreport with hsame | ⟨message, hraised, _⟩
    · cases hv.symm.trans hsame
      exact reportedMetric_eq hget hentry
    · cases hv.symm.trans hraised
  have hroot : sqrtOfInt realMath 252 = .ok √(252 : Nat) :=
    sqrtOfInt_eq_ok.2 ⟨year_scales, rfl⟩
  have hbeta : ∃ b, calculateBenchmarkMetric realMath [2, 4] [1, 2] 252 .beta = .ok b ∧
      ∃ β, b.value = some β := by
    rw [calculateBenchmarkMetric, beta, variance_doubled]
    exact ⟨_, rfl, _, rfl⟩
  have hratio : ∃ i,
      calculateBenchmarkMetric realMath [2, 4] [1, 2] 252 .informationRatio = .ok i ∧
        ∃ ι, i.value = some ι := by
    have hactive : List.zipWith (fun p b => p - b) [2, 4] [1, 2] = ([1, 2] : List ℝ) := by
      norm_num
    rw [calculateBenchmarkMetric, informationRatio, hactive, deviation_doubled, hroot]
    exact ⟨_, rfl, _, rfl⟩
  have herror : ∃ t, calculateBenchmarkMetric realMath [2, 4] [1, 2] 252 .trackingError = .ok t ∧
      ∃ τ, t.value = some τ := by
    rw [calculateBenchmarkMetric, trackingError, hroot]
    exact ⟨_, rfl, _, rfl⟩
  obtain ⟨b, hb, β, hβ⟩ := hbeta
  obtain ⟨t, ht, τ, hτ⟩ := herror
  obtain ⟨i, hi, ι, hι⟩ := hratio
  have hb := hreport .beta (by decide) b β hb hβ
  have ht := hreport .trackingError (by decide) t τ ht hτ
  have hi := hreport .informationRatio (by decide) i ι hi hι
  exact ⟨results, b, t, i, β, τ, ι, hresults, hb, ht, hi, hβ, hτ, hι,
    benchmark_metrics_coherent realMath_isSquareRoot doubledRequest hne hperiod hresults hb ht hi
      hβ hτ hι⟩

end Real

end LotusRisk
