import LotusRisk.Risk.PeriodReports
import LotusRisk.Risk.ResampledReturns
import LotusRisk.Risk.VarSamples

/-! What a period reports as its value at risk: always the daily returns of its window. -/

namespace LotusRisk
set_option autoImplicit true

open Relational Raising

variable {K : Type} [Field K] [LinearOrder K] [FloorRing K] {math : PyMath K}

section Entries

/-- What a run reports of a metric of a period. -/
def reportedMetric (results : Dict String (RiskPeriodResult K)) (period : RiskRequestPeriod)
    (metric : RiskMetric) : Option (RiskValue K) :=
  (results.get? period.resolvedName).bind fun result => result.metrics.get? metric.text

omit [Field K] [LinearOrder K] [FloorRing K] in
theorem reportedMetric_eq {results : Dict String (RiskPeriodResult K)}
    (hget : results.get? period.resolvedName = some result)
    (hentry : result.metrics.get? metric.text = some v) :
    reportedMetric results period metric = some v := by
  rw [reportedMetric, hget]
  exact hentry

omit [Field K] [LinearOrder K] [FloorRing K] in
theorem catchValueError_eq_ok {x : Except PyException α} {handle : String → α} :
    catchValueError x handle = .ok a ↔
      x = .ok a ∨ ∃ message, x = .error (.valueError message) ∧ handle message = a := by
  cases x with
  | ok b =>
    constructor
    · exact .inl
    · rintro (h | ⟨_, h, _⟩)
      · exact h
      · cases h
  | error e =>
    cases e with
    | valueError message =>
      constructor
      · intro h
        exact .inr ⟨message, rfl, Except.ok.inj h⟩
      · rintro (h | ⟨_, h, rfl⟩)
        · cases h
        · cases h
          rfl
    | _ =>
      constructor
      · intro h
        cases h
      · rintro (h | ⟨_, h, _⟩)
        · cases h
        · cases h

/-- The value at risk of a window of returns, as one chain. -/
def varReport (math : PyMath K) (options : RiskOptions K) (window : Series Date K) :
    Except PyException (RiskValue K) :=
  catchValueError (do
    let _ ← metricReturnSeries math window options.frequency options.useLogReturns
    let daily ← metricReturnSeries math window .daily options.useLogReturns
    calculateVar math daily.values options.var.method options.var.confidence
      options.var.horizonDays options.var.includeExpectedShortfall "DAILY") metricError

omit [FloorRing K] in
theorem resolveMetricReturnSeries_eq_ok {returns : Series Date K}
    (h : resolveMetricReturnSeries math returns frequency useLogReturns = .ok r) :
    (metricReturnSeries math returns frequency useLogReturns = .ok r.series ∧ r.error = none) ∨
      ∃ message, metricReturnSeries math returns frequency useLogReturns =
        .error (.valueError message) ∧ r.error = some message := by
  rcases catchValueError_eq_ok.1 h with hresolved | ⟨message, hraised, rfl⟩
  · obtain ⟨series, hseries, rfl⟩ := map_eq_ok.1 hresolved
    exact .inl ⟨hseries, rfl⟩
  · right
    cases hseries : metricReturnSeries math returns frequency useLogReturns with
    | ok series =>
      rw [hseries] at hraised
      cases hraised
    | error e =>
      rw [hseries] at hraised
      cases hraised
      exact ⟨message, rfl, rfl⟩

omit [Field K] [LinearOrder K] [FloorRing K] in
theorem entry_of_requested {calculators : List (RiskMetric × Except PyException (RiskValue K))}
    (h : calculateRequestedNonBenchmarkMetrics metrics calculators = .ok l) (he : e ∈ l) :
    ∃ c ∈ calculators, calculated c = .ok e := by
  obtain ⟨c, hc, hcalculated⟩ := exists_of_mem_right (mapM_eq_ok.1 h) he
  exact ⟨c, List.mem_of_mem_filter hc, hcalculated⟩

omit [Field K] [LinearOrder K] [FloorRing K] in
/-- Calculators of other metrics do not write under the key of a metric. -/
theorem key_ne_of_requested {calculators : List (RiskMetric × Except PyException (RiskValue K))}
    (hother : ∀ c ∈ calculators, c.1 ≠ metric)
    (h : calculateRequestedNonBenchmarkMetrics metrics calculators = .ok l) (he : e ∈ l) :
    e.1 ≠ metric.text := by
  obtain ⟨c, hc, hcalculated⟩ := entry_of_requested h he
  intro hkey
  rw [key_calculated hcalculated] at hkey
  exact hother c hc (RiskMetric.text_injective hkey)

/-- All that a window writes under the key of the value at risk is its report. -/
theorem var_of_nonBenchmark {request : PeriodMetricCalculationRequest K}
    (h : periodNonBenchmarkMetrics math request = .ok m) :
    ∀ e ∈ m.metricMap, e.1 = RiskMetric.var.text →
      varReport math request.options request.periodReturns = .ok e.2 := by
  intro e he hkey
  obtain ⟨metricSeries, hmetricSeries, h⟩ := bind_eq_ok.1 h
  obtain ⟨varSeries, hvarSeries, h⟩ := bind_eq_ok.1 h
  rcases resolveMetricReturnSeries_eq_ok hmetricSeries with
    ⟨hmetric, herror⟩ | ⟨message, hmetric, herror⟩
  · rcases resolveMetricReturnSeries_eq_ok hvarSeries with
      ⟨hvar, hvarError⟩ | ⟨message, hvar, hvarError⟩
    · simp only [herror, hvarError] at h
      obtain ⟨all, hall, hdone⟩ := bind_eq_ok.1 h
      cases hdone
      have hreport : varReport math request.options request.periodReturns =
          catchValueError (calculateVar math varSeries.series.values request.options.var.method
            request.options.var.confidence request.options.var.horizonDays
            request.options.var.includeExpectedShortfall "DAILY") metricError := by
        rw [varReport, hmetric, hvar]
        rfl
      obtain ⟨c, hc, hcalculated⟩ := entry_of_requested hall he
      rw [key_calculated hcalculated] at hkey
      have hmetricKey := RiskMetric.text_injective hkey
      have hcalculator : c = (.var, calculateVar math varSeries.series.values
          request.options.var.method request.options.var.confidence
          request.options.var.horizonDays request.options.var.includeExpectedShortfall
          "DAILY") := by
        rw [buildNonBenchmarkCalculators] at hc
        simp only [List.mem_cons, List.not_mem_nil, or_false] at hc
        rcases hc with rfl | rfl | rfl | rfl | rfl
        · cases hmetricKey
        · cases hmetricKey
        · cases hmetricKey
        · cases hmetricKey
        · rfl
      rw [hcalculator] at hcalculated
      obtain ⟨v, hv, rfl⟩ := map_eq_ok.1 hcalculated
      exact hreport.trans hv
    · simp only [herror, hvarError] at h
      obtain ⟨rest, hrest, hdone⟩ := bind_eq_ok.1 h
      cases hdone
      rcases List.mem_append.1 he with he | he
      · exact absurd hkey (key_ne_of_requested
          (fun c hc => of_decide_eq_true (List.mem_filter.1 hc).2) hrest he)
      · split at he
        · rw [List.mem_singleton.1 he, varReport, hmetric, hvar]
          rfl
        · cases he
  · simp only [herror] at h
    obtain ⟨drawdown, hdrawdown, hdone⟩ := bind_eq_ok.1 h
    cases hdone
    rcases List.mem_append.1 he with he | he
    · refine absurd hkey (key_ne_of_requested ?_ hdrawdown he)
      intro c hc
      rw [List.mem_singleton.1 hc]
      intro hmetricKey
      cases hmetricKey
    · obtain ⟨metric, _, rfl⟩ := List.mem_map.1 he
      rw [varReport, hmetric]
      rfl

/-- A period reports the value at risk of its window. -/
theorem var_of_period {request : PeriodMetricCalculationRequest K}
    (h : calculatePeriodResult math request = .ok result) (hvar : .var ∈ request.metrics) :
    ∃ v, varReport math request.options request.periodReturns = .ok v ∧
      result.metrics.get? RiskMetric.var.text = some v := by
  have hkey : RiskMetric.var.text ∈ result.metrics.keys :=
    (mem_keys_calculatePeriodResult h).2 (List.mem_map_of_mem hvar)
  obtain ⟨nonBenchmark, hnonBenchmark, h⟩ := bind_eq_ok.1 h
  obtain ⟨benchmark, hbenchmark, hdone⟩ := bind_eq_ok.1 h
  cases hdone
  have hentries : ∀ e ∈ nonBenchmark.metricMap ++
      (benchmark.map (fun b => b.1.metricMap)).getD [], e.1 = RiskMetric.var.text →
      varReport math request.options request.periodReturns = .ok e.2 := by
    intro e he heq
    rcases List.mem_append.1 he with he | he
    · exact var_of_nonBenchmark hnonBenchmark e he heq
    · have hmem := List.mem_map_of_mem (f := Prod.fst) he
      rw [keys_periodBenchmark hbenchmark, heq] at hmem
      obtain ⟨m, _, htext⟩ := List.mem_map.1 hmem
      have hvarKey : RiskMetric.benchmark m = .var := RiskMetric.text_injective htext
      cases hvarKey
  have hwritten := Dict.mem_keys_ofList.1 hkey
  obtain ⟨entry, hentry, hentryKey⟩ := List.mem_map.1 hwritten
  have hv := hentries entry hentry hentryKey
  refine ⟨entry.2, hv, Dict.get?_ofList_of_all hwritten ?_⟩
  intro e he heq
  exact Except.ok.inj ((hentries e he heq).symm.trans hv)

end Entries

section Sampling

def StatelessRiskInput.window (request : StatelessRiskInput K) (start stop : Date) :
    Series Date K := (returnsFrame request.returns request.returns_unique).between start stop

/-- The request at another sampling frequency. -/
def StatelessRiskInput.withFrequency (request : StatelessRiskInput K) (frequency : Frequency) :
    StatelessRiskInput K := { request with options := request.options.withFrequency frequency }

variable [IsStrictOrderedRing K]

omit [FloorRing K] in
theorem factor_pos {r : K} : 0 < 1 + fromPercent r ↔ -((100 : Nat) : K) < r := by
  rw [fromPercent]
  push_cast
  constructor
  · intro h
    linarith
  · intro h
    linarith

omit [FloorRing K] in
theorem growth_pos {values : List K} (h : ∀ r ∈ values, -((100 : Nat) : K) < r) :
    0 < growth values := by
  apply List.prod_pos
  intro x hx
  obtain ⟨r, hr, rfl⟩ := List.mem_map.1 hx
  exact factor_pos.2 (h r hr)

omit [FloorRing K] [IsStrictOrderedRing K] in
theorem logsUndefined_iff_exists {returns : Series Date K} :
    logsUndefined useLogReturns returns = true ↔
      useLogReturns = true ∧ ∃ p ∈ returns.points, p.2 ≤ -((100 : Nat) : K) := by
  rw [logsUndefined, Bool.and_eq_true, List.any_eq_true]
  simp only [decide_eq_true_iff]
  constructor
  · rintro ⟨huse, r, hr, hle⟩
    rw [← Series.map_snd_points] at hr
    obtain ⟨p, hp, rfl⟩ := List.mem_map.1 hr
    exact ⟨huse, p, hp, hle⟩
  · rintro ⟨huse, p, hp, hle⟩
    refine ⟨huse, p.2, ?_, hle⟩
    rw [← Series.map_snd_points]
    exact List.mem_map_of_mem hp

omit [FloorRing K] in
/-- A bucket that loses everything has a day that does. -/
theorem logsUndefined_of_resampled {window : Series Date K}
    (h : resampleReturns window frequency = .ok out)
    (hlogs : logsUndefined useLogReturns out = true) :
    logsUndefined useLogReturns window = true := by
  by_cases hsame : window.isEmpty = true ∨ frequency = .daily
  · rw [resampleReturns, if_pos hsame] at h
    cases h
    exact hlogs
  · obtain ⟨hempty, hdaily⟩ := not_or.1 hsame
    have hne : window.index ≠ [] := fun hnil => hempty (List.isEmpty_iff.2 hnil)
    obtain ⟨huse, p, hp, hle⟩ := logsUndefined_iff_exists.1 hlogs
    rw [logsUndefined_iff_exists]
    refine ⟨huse, ?_⟩
    by_contra hnone
    have hvalue := (resampleReturns_ok (numbers_exact window) hne hdaily h).compounded p hp
    have hpos : 0 < 1 + fromPercent p.2 := by
      rw [hvalue, growth_compoundObservations]
      apply growth_pos
      intro r hr
      obtain ⟨q, hq, rfl⟩ := List.mem_map.1 hr
      exact not_le.1 fun hqle => hnone ⟨q, List.mem_of_mem_filter hq, hqle⟩
    exact absurd hle (not_le.2 (factor_pos.1 hpos))

omit [IsStrictOrderedRing K] in
/-- A resampling gap is reported as the error of the value at risk. -/
theorem varReport_of_gap (math : PyMath K) (options : RiskOptions K) {window : Series Date K}
    (hgap : resampleReturns window frequency = .error (.valueError message)) :
    varReport math (options.withFrequency frequency) window = .ok (metricError message) := by
  have hseries : metricReturnSeries math window frequency options.useLogReturns =
      .error (.valueError message) := by
    rw [metricReturnSeries, hgap]
    rfl
  simp only [varReport, RiskOptions.withFrequency, hseries]
  rfl

/-- Without a resampling gap, the value at risk is that of the daily returns. -/
theorem varReport_of_resampled (math : PyMath K) (options : RiskOptions K)
    {window out : Series Date K} (hresampled : resampleReturns window frequency = .ok out) :
    varReport math (options.withFrequency frequency) window =
      varReport math (options.withFrequency .daily) window := by
  have hmetric : metricReturnSeries math window frequency options.useLogReturns =
      if logsUndefined options.useLogReturns out then
        .error (.valueError logReturnUndefinedError)
      else .ok (out.map (metricValue math options.useLogReturns)) :=
    metricReturnSeries_of_resampled hresampled
  have hdaily := metricReturnSeries_daily math window options.useLogReturns
  cases hlogs : logsUndefined options.useLogReturns window with
  | true =>
    rw [hlogs, if_pos rfl] at hdaily
    have hundefined : ∀ frequency, metricReturnSeries math window frequency
        options.useLogReturns = .error (.valueError logReturnUndefinedError) ∨
        (∃ series, metricReturnSeries math window frequency options.useLogReturns =
          .ok series) →
        varReport math (options.withFrequency frequency) window =
          .ok (metricError logReturnUndefinedError) := by
      rintro frequency (hseries | ⟨series, hseries⟩)
      · simp only [varReport, RiskOptions.withFrequency, hseries]
        rfl
      · simp only [varReport, RiskOptions.withFrequency, hseries, hdaily]
        rfl
    rw [hundefined .daily (.inl hdaily), hundefined frequency]
    rw [hmetric]
    split
    · exact .inl rfl
    · exact .inr ⟨_, rfl⟩
  | false =>
    have hout : ¬logsUndefined options.useLogReturns out = true := by
      intro hundefined
      rw [logsUndefined_of_resampled hresampled hundefined] at hlogs
      cases hlogs
    rw [if_neg hout] at hmetric
    rw [hlogs, if_neg Bool.false_ne_true] at hdaily
    simp only [varReport, RiskOptions.withFrequency, hmetric, hdaily]
    rfl

/-- The value at risk at any sampling frequency is that of the daily returns, unless the returns
of the period have a gap that the frequency does not allow: then it is that error. -/
theorem var_sampled_daily (math : PyMath K) (request : StatelessRiskInput K)
    (frequency : Frequency) (hne : request.returns ≠ []) (hperiod : period ∈ request.periods)
    (hvar : .var ∈ request.metrics)
    (hresults : calculateRisk math (request.withFrequency frequency) = .ok results)
    (hdaily : calculateRisk math (request.withFrequency .daily) = .ok dailyResults) :
    ∃ start stop v dailyV,
      resolvePeriod period request.asOfDate request.portfolioOpenDate = .ok (start, stop) ∧
      reportedMetric results period .var = some v ∧
      reportedMetric dailyResults period .var = some dailyV ∧
      (∀ message,
        resampleReturns (request.window start stop) frequency = .error (.valueError message) →
        v = metricError message) ∧
      ((∀ message,
        resampleReturns (request.window start stop) frequency ≠ .error (.valueError message)) →
        v = dailyV) := by
  obtain ⟨rates, start, stop, result, _, _, hrange, hresult, hget⟩ :=
    period_of_calculateRisk hresults hne hperiod
  obtain ⟨dailyRates, dailyStart, dailyStop, dailyResult, _, _, hdailyRange, hdailyResult,
    hdailyGet⟩ := period_of_calculateRisk hdaily hne hperiod
  cases hrange.symm.trans hdailyRange
  obtain ⟨v, hv, hentry⟩ := var_of_period hresult hvar
  obtain ⟨dailyV, hdailyV, hdailyEntry⟩ := var_of_period hdailyResult hvar
  refine ⟨start, stop, v, dailyV, hrange, reportedMetric_eq hget hentry,
    reportedMetric_eq hdailyGet hdailyEntry, ?_, ?_⟩
  · intro message hgap
    have hreport := varReport_of_gap math request.options hgap
    exact Except.ok.inj (hv.symm.trans hreport)
  · intro hresampled
    cases hout : resampleReturns (request.window start stop) frequency with
    | error e =>
      obtain ⟨message, rfl⟩ := errorsIn_resampleReturns _ _ e hout
      exact absurd hout (hresampled message)
    | ok out =>
      have hsame := varReport_of_resampled math request.options hout
      exact Except.ok.inj (hv.symm.trans (hsame.trans hdailyV))

/-- The value at risk of the first trading days of a year. -/
def varRequest (n : Nat) : StatelessRiskInput ℚ := { yearRequest 2026 n with metrics := [.var] }

theorem var_sampled_daily_week : ∃ results dailyResults start stop v dailyV,
    calculateRisk rationalMath ((varRequest 2).withFrequency .weekly) = .ok results ∧
    calculateRisk rationalMath ((varRequest 2).withFrequency .daily) = .ok dailyResults ∧
    resolvePeriod (yearPeriod 2026) firstMonday firstMonday = .ok (start, stop) ∧
    reportedMetric results (yearPeriod 2026) .var = some v ∧
    reportedMetric dailyResults (yearPeriod 2026) .var = some dailyV ∧
    ((∀ message, resampleReturns ((varRequest 2).window start stop) .weekly ≠
      .error (.valueError message)) → v = dailyV) := by
  have hruns : (calculateRisk rationalMath ((varRequest 2).withFrequency .weekly)).toOption.isSome =
      true := by
    decide +kernel
  have hdaily : (calculateRisk rationalMath ((varRequest 2).withFrequency .daily)).toOption.isSome =
      true := by
    decide +kernel
  obtain ⟨results, hresults⟩ := ok_of_isSome hruns
  obtain ⟨dailyResults, hdailyResults⟩ := ok_of_isSome hdaily
  obtain ⟨start, stop, v, dailyV, hrange, hv, hdailyV, _, hsame⟩ :=
    var_sampled_daily rationalMath (varRequest 2) .weekly (List.cons_ne_nil _ _)
      (List.mem_singleton_self (yearPeriod 2026)) (List.mem_singleton_self _) hresults hdailyResults
  exact ⟨results, dailyResults, start, stop, v, dailyV, hresults, hdailyResults, hrange, hv,
    hdailyV, hsame⟩

end Sampling

section Determination

/-- The request with daily sampling and other options of the value at risk. -/
def StatelessRiskInput.sampledBy (request : StatelessRiskInput K) (useLogReturns : Bool)
    (var : VaROptions K) : StatelessRiskInput K :=
  { request with
    options :=
      { request.options with frequency := .daily, useLogReturns := useLogReturns, var := var } }

/-- The value at risk and the expected shortfall that a run reports of a period. -/
def periodVarNumbers (math : PyMath K) (request : StatelessRiskInput K)
    (period : RiskRequestPeriod) : Option (Option K × Option (DetailValue K)) :=
  match calculateRisk math request with
  | .ok results => (reportedMetric results period .var).map varNumbers
  | .error _ => none

/-- The daily report has the numbers of the sample of the window. -/
theorem varNumbers_varReport {options : RiskOptions K} {window : Series Date K}
    (hdaily : options.frequency = .daily) (h : varReport math options window = .ok v) :
    varNumbers v = sampledNumbers math options.useLogReturns options.var window.values := by
  have hseries := metricReturnSeries_daily math window options.useLogReturns
  rw [varReport, hdaily] at h
  rw [sampledNumbers]
  change varNumbers v = if logsUndefined options.useLogReturns window = true then _ else _
  cases hlogs : logsUndefined options.useLogReturns window with
  | true =>
    rw [hlogs, if_pos rfl] at hseries
    rw [hseries] at h
    cases h
    rfl
  | false =>
    rw [hlogs, if_neg Bool.false_ne_true] at hseries
    rw [hseries] at h
    rw [if_neg Bool.false_ne_true, reportedNumbers]
    change catchValueError (calculateVar math (window.values.map
      (metricValue math options.useLogReturns)) _ _ _ _ _) _ = _ at h
    rcases catchValueError_eq_ok.1 h with hv | ⟨message, hv, rfl⟩
    · rw [hv]
    · rw [hv]
      rfl

/-- A run that succeeds with some options of the value at risk succeeds with all whose horizon has
a square root. -/
theorem exists_sampledBy {request : StatelessRiskInput K} (hne : request.returns ≠ [])
    (hfactor : beyondFloat
      (annualizationFactorForOptions (request.withFrequency .daily).options) = false)
    (h : calculateRisk math (request.withFrequency .daily) = .ok results)
    (useLogReturns : Bool) {var : VaROptions K} (hscales : var.Scales) :
    ∃ results, calculateRisk math (request.sampledBy useLogReturns var) = .ok results := by
  have hdaily : (request.withFrequency .daily).returns ≠ [] := hne
  have hsampled : (request.sampledBy useLogReturns var).returns ≠ [] := hne
  obtain ⟨⟨rates, hrates⟩, hranges⟩ := resolves_of_calculateRisk hdaily h
  exact (exists_calculateRisk hsampled ⟨hfactor, hscales⟩).2 ⟨⟨rates, hrates⟩, hranges⟩

theorem periodVarNumbers_sampledBy {request : StatelessRiskInput K} (hne : request.returns ≠ [])
    (hperiod : period ∈ request.periods) (hvar : .var ∈ request.metrics)
    (hfactor : beyondFloat
      (annualizationFactorForOptions (request.withFrequency .daily).options) = false)
    (h : calculateRisk math (request.withFrequency .daily) = .ok results)
    (hrange : resolvePeriod period request.asOfDate request.portfolioOpenDate =
      .ok (start, stop)) (useLogReturns : Bool) {var : VaROptions K} (hscales : var.Scales) :
    periodVarNumbers math (request.sampledBy useLogReturns var) period =
      some (sampledNumbers math useLogReturns var (request.window start stop).values) := by
  obtain ⟨results', hresults⟩ := exists_sampledBy hne hfactor h useLogReturns hscales
  obtain ⟨rates, start', stop', result, _, _, hrange', hresult, hget⟩ :=
    period_of_calculateRisk hresults hne hperiod
  cases hrange.symm.trans hrange'
  obtain ⟨v, hv, hentry⟩ := var_of_period hresult hvar
  rw [periodVarNumbers, hresults]
  change Option.map varNumbers (reportedMetric results' period .var) = _
  rw [reportedMetric_eq hget hentry, Option.map_some]
  exact congrArg some (varNumbers_varReport rfl hv)

variable [IsStrictOrderedRing K]

/-- Two portfolios report the same value at risk and expected shortfall of their periods under
all options whose horizon has a square root exactly when the periods have the same daily sample:
the same returns up to order, too few of them, or the same constant. -/
theorem var_numbers_determine_sample (hmoments : SampleMoments math)
    {request request' : StatelessRiskInput K} (hne : request.returns ≠ [])
    (hne' : request'.returns ≠ []) (hperiod : period ∈ request.periods)
    (hperiod' : period' ∈ request'.periods) (hvar : .var ∈ request.metrics)
    (hvar' : .var ∈ request'.metrics)
    (hfactor : beyondFloat
      (annualizationFactorForOptions (request.withFrequency .daily).options) = false)
    (hfactor' : beyondFloat
      (annualizationFactorForOptions (request'.withFrequency .daily).options) = false)
    (hruns : calculateRisk math (request.withFrequency .daily) = .ok results)
    (hruns' : calculateRisk math (request'.withFrequency .daily) = .ok results')
    (hrange : resolvePeriod period request.asOfDate request.portfolioOpenDate =
      .ok (start, stop))
    (hrange' : resolvePeriod period' request'.asOfDate request'.portfolioOpenDate =
      .ok (start', stop')) :
    (∀ useLogReturns (var : VaROptions K), var.Scales →
      periodVarNumbers math (request.sampledBy useLogReturns var) period =
        periodVarNumbers math (request'.sampledBy useLogReturns var) period') ↔
      SameSample (request.window start stop).values (request'.window start' stop').values := by
  rw [← sampledNumbers_eq_iff hmoments]
  constructor
  · intro h useLogReturns var hscales
    have hnumbers := h useLogReturns var hscales
    rw [periodVarNumbers_sampledBy hne hperiod hvar hfactor hruns hrange _ hscales,
      periodVarNumbers_sampledBy hne' hperiod' hvar' hfactor' hruns' hrange' _ hscales] at hnumbers
    exact Option.some.inj hnumbers
  · intro h useLogReturns var hscales
    rw [periodVarNumbers_sampledBy hne hperiod hvar hfactor hruns hrange _ hscales,
      periodVarNumbers_sampledBy hne' hperiod' hvar' hfactor' hruns' hrange' _ hscales,
      h useLogReturns var hscales]

/-- Rational functions with the moments of symmetric samples. -/
def symmetricMath : PyMath ℚ :=
  { rationalMath with
    skew := fun values =>
      if values.length < cornishFisherMinimumObservations then none else some 0
    kurt := fun values =>
      if values.length < cornishFisherMinimumObservations then none else some 0 }

theorem sampleMoments_symmetricMath : SampleMoments symmetricMath := by
  have hlong : ∀ n (c : ℚ), cornishFisherMinimumObservations ≤ n →
      ¬(List.replicate n c).length < cornishFisherMinimumObservations := by
    intro n c hn
    rw [List.length_replicate]
    exact not_lt.2 hn
  constructor
  · intro x y h
    simp only [symmetricMath, h.length_eq]
  · intro x y h
    simp only [symmetricMath, h.length_eq]
  · intro n c hn
    exact if_neg (hlong n c hn)
  · intro n c hn
    exact if_neg (hlong n c hn)

theorem var_numbers_determine_sample_week : ∃ start stop,
    (∀ useLogReturns (var : VaROptions ℚ), var.Scales →
      periodVarNumbers symmetricMath ((varRequest 2).sampledBy useLogReturns var)
          (yearPeriod 2026) =
        periodVarNumbers symmetricMath ((varRequest 3).sampledBy useLogReturns var)
          (yearPeriod 2026)) ↔
      SameSample ((varRequest 2).window start stop).values
        ((varRequest 3).window start stop).values := by
  have hruns : (calculateRisk symmetricMath ((varRequest 2).withFrequency .daily)).toOption.isSome =
      true := by
    decide +kernel
  have hruns' : (calculateRisk symmetricMath
      ((varRequest 3).withFrequency .daily)).toOption.isSome = true := by
    decide +kernel
  have hrange : (resolvePeriod (yearPeriod 2026) firstMonday firstMonday).toOption.isSome =
      true := by
    decide +kernel
  obtain ⟨results, hresults⟩ := ok_of_isSome hruns
  obtain ⟨results', hresults'⟩ := ok_of_isSome hruns'
  obtain ⟨⟨start, stop⟩, hrange⟩ := ok_of_isSome hrange
  exact ⟨start, stop, var_numbers_determine_sample sampleMoments_symmetricMath
    (List.cons_ne_nil _ _) (List.cons_ne_nil _ _) (List.mem_singleton_self (yearPeriod 2026))
    (List.mem_singleton_self (yearPeriod 2026)) (List.mem_singleton_self _)
    (List.mem_singleton_self _) year_scales year_scales hresults hresults' hrange hrange⟩

end Determination

end LotusRisk
