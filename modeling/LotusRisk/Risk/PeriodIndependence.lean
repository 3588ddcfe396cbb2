import LotusRisk.Risk.MetricAgreement
import LotusRisk.Risk.SourcedRuns

/-! A period of a stateful request, and the same period requested alone. -/

namespace LotusRisk
set_option autoImplicit true

open Relational

section History

variable {K : Type}

/-- The rows of all days that the services answer from. -/
structure SourceHistory (K : Type) where
  portfolio : List (PyValue K)
  benchmark : List (PyValue K)
  riskFree : List (PyValue K)

def rowDate (texts : PyTexts K) (field : String) : PyValue K → Option Date
  | .dict entries => windowDate texts entries field
  | _ => none

def rowsWithin (texts : PyTexts K) (field : String) (start stop : Date)
    (rows : List (PyValue K)) : List (PyValue K) :=
  rows.filter fun row =>
    (rowDate texts field row).any fun d => decide (start ≤ d) && decide (d ≤ stop)

theorem mem_rowsWithin {texts : PyTexts K} {rows : List (PyValue K)} :
    row ∈ rowsWithin texts field start stop rows ↔
      row ∈ rows ∧ ∃ d, rowDate texts field row = some d ∧ start ≤ d ∧ d ≤ stop := by
  rw [rowsWithin, List.mem_filter, Option.any_eq_true]
  simp only [Bool.and_eq_true, decide_eq_true_iff]

variable [Field K] {texts : PyTexts K} {float : K → PyNumber K}

/-- A return that a history has on a trading day. -/
def HistoryReturn (texts : PyTexts K) (float : K → PyNumber K) (rows : List (PyValue K))
    (point : ReturnPoint K) : Prop := ∃ row ∈ rows, ReadFrom texts float .daily row point

theorem rowDate_of_readFrom {row : PyValue K} (h : ReadFrom texts float frequency row point) :
    rowDate texts "date" row = some point.date := by
  have hdate := h.1
  unfold countedDate at hdate
  split at hdate
  · split at hdate
    · rename_i entries _ rawDate hraw
      rw [rowDate, windowDate_of_text hraw]
      exact (Option.filter_eq_some_iff.1 hdate).1
    · cases hdate
  · cases hdate

/-- Daily points of the rows within a window are the returns of the history within it. -/
theorem mem_points_within {rows answered : List (PyValue K)} {points : List (ReturnPoint K)}
    (h : PointsOf texts float .daily answered points)
    (hrows : ∀ row, row ∈ answered ↔ row ∈ rowsWithin texts "date" start stop rows) :
    point ∈ points ↔
      HistoryReturn texts float rows point ∧ start ≤ point.date ∧ point.date ≤ stop := by
  rw [h.mem_iff]
  constructor
  · rintro ⟨row, hrow, hread⟩
    obtain ⟨hmem, d, hd, hwithin⟩ := mem_rowsWithin.1 ((hrows row).1 hrow)
    rw [rowDate_of_readFrom hread] at hd
    cases hd
    exact ⟨⟨row, hmem, hread⟩, hwithin⟩
  · rintro ⟨⟨row, hmem, hread⟩, hwithin⟩
    refine ⟨row, (hrows row).2 ?_, hread⟩
    exact mem_rowsWithin.2 ⟨hmem, point.date, rowDate_of_readFrom hread, hwithin⟩

end History

section Answers

variable {K : Type} [Field K] [LinearOrder K] [FloorRing K]

omit [FloorRing K] in
/-- A returns request for the input, with any periods. -/
def StatefulRiskInput.Requests (stateful : StatefulRiskInput K) (request : ReturnsSeriesRequest) :
    Prop :=
  ∃ periods currency, buildStatefulReturnsSeriesRequest stateful.portfolioId stateful.asOfDate
    periods stateful.options.frequency stateful.netOrGross currency (requiresBenchmark stateful)
    stateful.benchmarkId = .ok request

omit [FloorRing K] in
/-- Each requested window is answered with the rows of one history within it. -/
structure AnswersFrom (runtime : RiskRuntime K) (history : SourceHistory K)
    (stateful : StatefulRiskInput K) : Prop where
  portfolio : ∀ request response series start stop, stateful.Requests request →
    request.window.Asks stateful.asOfDate start stop →
    runtime.performanceClient.getReturnsSeries request = .ok response →
    getEntry response "series" = .dict series →
    ∀ row, row ∈ producerRows (getEntry series "portfolio_returns") ↔
      row ∈ rowsWithin runtime.texts "date" start stop history.portfolio
  benchmark : ∀ request response series start stop, stateful.Requests request →
    request.seriesSelection.includeBenchmark = true →
    request.window.Asks stateful.asOfDate start stop →
    runtime.performanceClient.getReturnsSeries request = .ok response →
    getEntry response "series" = .dict series →
    ∀ row, row ∈ producerRows (getEntry series "benchmark_returns") ↔
      row ∈ rowsWithin runtime.texts "date" start stop history.benchmark
  riskFree : ∀ client currency start stop response, runtime.coreClient = some client →
    client.getRiskFreeSeries (buildRiskFreeSeriesRequest currency stateful.asOfDate start stop) =
      .ok response →
    ∀ row, row ∈ producerRows (getEntry response "points") ↔
      row ∈ rowsWithin runtime.texts "series_date" start stop history.riskFree

omit [FloorRing K] in
def StatefulRiskInput.only (stateful : StatefulRiskInput K) (period : RiskRequestPeriod) :
    StatefulRiskInput K :=
  { stateful with
    periods := [period]
    names_unique := List.nodup_singleton _ }

/-- The source has the returns of the history between two days, and those of the benchmark if a
metric reads them. -/
structure HasHistory (runtime : RiskRuntime K) (history : SourceHistory K)
    (metrics : List RiskMetric) (source : StatefulRiskSource K) (start stop : Date) : Prop where
  nonempty : source.portfolioPoints ≠ []
  portfolio : ∀ point, point ∈ source.portfolioPoints ↔
    HistoryReturn runtime.texts runtime.float history.portfolio point ∧
      start ≤ point.date ∧ point.date ≤ stop
  benchmark : ∀ point, point ∈ source.benchmarkPoints ↔
    metrics.any RiskMetric.isBenchmark = true ∧
      HistoryReturn runtime.texts runtime.float history.benchmark point ∧
      start ≤ point.date ∧ point.date ≤ stop

variable {runtime : RiskRuntime K} {history : SourceHistory K} {stateful : StatefulRiskInput K}
  {source : StatefulRiskSource K}

omit [Field K] [LinearOrder K] [FloorRing K] in
theorem normalize_daily {texts : PyTexts K} {points : List (ReturnPoint K)}
    (h : normalizeReturnPointsToResolvedWindow texts sourceResponse points .daily = .ok points') :
    points' = points := by
  obtain ⟨_, _, hdone⟩ := bind_eq_ok.1 h
  cases hdone
  rfl

omit [FloorRing K] in
theorem AnswersFrom.withCurrency (h : AnswersFrom runtime history stateful)
    (currency : Option String) : AnswersFrom runtime history (stateful.withCurrency currency) :=
  ⟨h.portfolio, h.benchmark, h.riskFree⟩

omit [FloorRing K] in
theorem AnswersFrom.only (h : AnswersFrom runtime history stateful) (period : RiskRequestPeriod) :
    AnswersFrom runtime history (stateful.only period) :=
  ⟨h.portfolio, h.benchmark, h.riskFree⟩

/-- What is fetched for daily metrics of a window that asks for a range. -/
theorem hasHistory_of_sourced (hdaily : stateful.options.frequency = .daily)
    (hanswers : AnswersFrom runtime history stateful)
    (hwindow : buildReturnsSeriesWindow stateful.periods stateful.asOfDate = .ok window)
    (hasks : window.Asks stateful.asOfDate start stop)
    (h : Sourced runtime stateful source sourceResponse series returnedPoints) :
    HasHistory runtime history stateful.metrics source start stop := by
  have hrequests : stateful.Requests source.sourcePayload :=
    ⟨stateful.periods, stateful.reportingCurrency, h.request⟩
  obtain ⟨_, hwindow', hpayload⟩ := bind_eq_ok.1 h.request
  cases hwindow.symm.trans hwindow'
  have hrange : source.sourcePayload.window.Asks stateful.asOfDate start stop := by
    rw [← Except.ok.inj hpayload]
    exact hasks
  have hreturns := h.returns
  rw [hdaily] at hreturns
  obtain ⟨hseries, _, hpoints⟩ := extractRequiredPortfolioReturns_spec hreturns
  have hnormalized := h.normalized
  rw [hdaily] at hnormalized
  refine ⟨h.nonempty, ?_, ?_⟩
  · intro point
    rw [normalize_daily hnormalized]
    exact mem_points_within hpoints (hanswers.portfolio source.sourcePayload sourceResponse series
      start stop hrequests hrange h.response hseries)
  · intro point
    have hbenchmark := h.benchmark
    rw [fetchBenchmarkPoints] at hbenchmark
    split at hbenchmark
    · rename_i hrequired
      obtain ⟨benchmarkPoints, hread, hbenchmark⟩ := bind_eq_ok.1 hbenchmark
      rw [hdaily] at hread hbenchmark
      have hincluded : source.sourcePayload.seriesSelection.includeBenchmark = true := by
        rw [← Except.ok.inj hpayload]
        exact hrequired
      rw [normalize_daily hbenchmark, mem_points_within (toReturnPoints_spec hread)
        (hanswers.benchmark source.sourcePayload sourceResponse series start stop hrequests
          hincluded hrange h.response hseries)]
      exact (and_iff_right hrequired).symm
    · rename_i hnone
      rw [← Except.ok.inj hbenchmark]
      exact iff_of_false nofun fun hrequired => hnone hrequired.1

end Answers

section Ranges

/-- The open date moves the start of a period only. -/
theorem resolvePeriod_openDate (h : resolvePeriod period asOf openDate = .ok (start, stop)) :
    ∃ first, resolvePeriod period asOf dateMin = .ok (first, stop) ∧
      start = max first openDate := by
  obtain ⟨⟨low, high⟩, hbounds, hdone⟩ := bind_eq_ok.1 h
  cases hdone
  by_cases htype : period.type = .sinceInception
  · rw [resolvePeriodBounds, htype] at hbounds
    cases hbounds
    refine ⟨dateMin, ?_, ?_⟩
    · rw [resolvePeriod, resolvePeriodBounds, htype]
      exact congrArg (fun d => Except.ok (d, asOf)) (max_self dateMin)
    · rw [max_self, max_eq_right (dateMin_le openDate)]
  · have hsame : resolvePeriodBounds period asOf dateMin = .ok (low, stop) := by
      rw [← hbounds, resolvePeriodBounds, resolvePeriodBounds]
      cases ht : period.type with
      | sinceInception => exact absurd ht htype
      | _ => rfl
    refine ⟨low, ?_, rfl⟩
    rw [resolvePeriod, hsame]
    exact congrArg (fun d => Except.ok (d, stop)) (max_eq_left (dateMin_le low))

/-- Of one period exactly its range is asked for. -/
theorem asks_of_single (hrange : resolvePeriod period asOf dateMin = .ok (first, last))
    (h : buildReturnsSeriesWindow [period] asOf = .ok window) : window.Asks asOf first last := by
  by_cases htype : period.type = .sinceInception
  · rw [buildReturnsSeriesWindow, if_pos (by simpa using htype)] at h
    cases h
    rw [resolvePeriod, resolvePeriodBounds, htype] at hrange
    cases hrange
    exact ⟨max_self dateMin, rfl⟩
  · obtain ⟨first', last', hrange', hwindow⟩ := window_of_single htype h
    cases hrange.symm.trans hrange'
    rw [hwindow]
    exact ⟨rfl, rfl⟩

/-- The range of a period is within what is asked for, and is that if no other is requested. -/
theorem exists_asks (h : buildReturnsSeriesWindow periods asOf = .ok window)
    (hperiod : period ∈ periods) (hrange : resolvePeriod period asOf dateMin = .ok (first, last))
    (hlast : last ≤ asOf) : ∃ low high, window.Asks asOf low high ∧ low ≤ first ∧ last ≤ high ∧
      (periods = [period] → low = first ∧ high = last) := by
  by_cases hsingle : periods = [period]
  · rw [hsingle] at h
    exact ⟨first, last, asks_of_single hrange h, le_rfl, le_rfl, fun _ => ⟨rfl, rfl⟩⟩
  · obtain ⟨low, high, hasks, hle, hge⟩ := asks_of_buildReturnsSeriesWindow h hperiod hrange hlast
    exact ⟨low, high, hasks, hle, hge, fun hsame => absurd hsame hsingle⟩

theorem portfolioOpenDate_spec {points : List (ReturnPoint K)} (h : points ≠ []) (asOf : Date) :
    (∃ point ∈ points, point.date = portfolioOpenDate points asOf) ∧
      ∀ point ∈ points, portfolioOpenDate points asOf ≤ point.date := by
  obtain ⟨least, hmin⟩ := Option.ne_none_iff_exists'.1
    (mt List.min?_eq_none_iff.1 (mt (List.map_eq_nil_iff (f := ReturnPoint.date)).1 h))
  rw [portfolioOpenDate, hmin, Option.getD_some]
  obtain ⟨hmem, hle⟩ := List.min?_eq_some_iff.1 hmin
  refine ⟨List.mem_map.1 hmem, ?_⟩
  intro point hpoint
  exact hle point.date (List.mem_map_of_mem hpoint)

end Ranges

section Calculations

variable {K : Type} [Field K] [LinearOrder K] [FloorRing K] {runtime : RiskRuntime K}
  {history : SourceHistory K} {stateful : StatefulRiskInput K} {source : StatefulRiskSource K}
  {request : StatelessRiskInput K}

/-- A calculation of the range from `first` to `last` on the returns of a history. -/
structure CalculatesRange (runtime : RiskRuntime K) (history : SourceHistory K)
    (metrics : List RiskMetric) (first last : Date)
    (calculation : PeriodMetricCalculationRequest K) : Prop where
  sameMetrics : calculation.metrics = metrics
  stop : calculation.stop = last
  start_le : ∀ d ∈ calculation.periodReturns.index, calculation.start ≤ d
  first_le : first ≤ calculation.start
  returns : ∀ p, p ∈ calculation.periodReturns.points ↔
    HistoryReturn runtime.texts runtime.float history.portfolio ⟨p.1, p.2⟩ ∧
      first ≤ p.1 ∧ p.1 ≤ last
  benchmark : ∀ p, first ≤ p.1 → p.1 ≤ last → (p ∈ calculation.benchmark.points ↔
    metrics.any RiskMetric.isBenchmark = true ∧
      HistoryReturn runtime.texts runtime.float history.benchmark ⟨p.1, p.2⟩)

omit [Field K] [LinearOrder K] [FloorRing K] in
theorem exists_datedValue {points : List (ReturnPoint K)} {p : Date × K} :
    (∃ point ∈ points, datedValue point = p) ↔ ⟨p.1, p.2⟩ ∈ points := by
  constructor
  · rintro ⟨point, hpoint, rfl⟩
    exact hpoint
  · intro hpoint
    exact ⟨_, hpoint, rfl⟩

theorem calculatesRange (hhistory : HasHistory runtime history stateful.metrics source start stop)
    (hon : CalculatesOn runtime stateful source request) (rates : SharedRates K)
    (hfirst : start ≤ first) (hlast : last ≤ stop) :
    CalculatesRange runtime history stateful.metrics first last
      (periodCalculation request rates (max first request.portfolioOpenDate) last) := by
  have hopen : ∀ point ∈ source.portfolioPoints, request.portfolioOpenDate ≤ point.date := by
    rw [hon.portfolioOpenDate]
    exact (portfolioOpenDate_spec hhistory.nonempty stateful.asOfDate).2
  refine {
    sameMetrics := hon.metrics
    stop := rfl
    start_le := ?_
    first_le := le_max_left _ _
    returns := ?_
    benchmark := ?_ }
  · intro d hd
    obtain ⟨p, hp, rfl⟩ := Series.exists_mem_points hd
    exact (Series.mem_between.1 hp).2.1
  · intro p
    rw [periodCalculation, Series.mem_between, mem_returnsFrame, exists_datedValue, hon.returns,
      hhistory.portfolio]
    constructor
    · rintro ⟨⟨hp, _, _⟩, hstart, hstop⟩
      exact ⟨hp, (le_max_left _ _).trans hstart, hstop⟩
    · rintro ⟨hp, hge, hle⟩
      have hmem := (hhistory.portfolio ⟨p.1, p.2⟩).2 ⟨hp, hfirst.trans hge, hle.trans hlast⟩
      exact ⟨⟨hp, hfirst.trans hge, hle.trans hlast⟩, max_le hge (hopen _ hmem), hle⟩
  · intro p hge hle
    have hmem : ⟨p.1, p.2⟩ ∈ request.benchmarkReturns ↔ _ := hon.benchmarkReturns ▸
      hhistory.benchmark ⟨p.1, p.2⟩
    rw [periodCalculation, mem_returnsFrame, exists_datedValue, hmem]
    constructor
    · rintro ⟨hrequired, hp, _, _⟩
      exact ⟨hrequired, hp⟩
    · rintro ⟨hrequired, hp⟩
      exact ⟨hrequired, hp, hfirst.trans hge, hle.trans hlast⟩

variable {calculation calculation' : PeriodMetricCalculationRequest K}

omit [FloorRing K] in
/-- The benchmark returns that a calculation reads. -/
theorem CalculatesRange.mem_window
    (h : CalculatesRange runtime history metrics first last calculation) :
    p ∈ (calculation.benchmark.between calculation.start calculation.stop).points ↔
      (metrics.any RiskMetric.isBenchmark = true ∧
        HistoryReturn runtime.texts runtime.float history.benchmark ⟨p.1, p.2⟩) ∧
      calculation.start ≤ p.1 ∧ p.1 ≤ last := by
  rw [Series.mem_between, h.stop]
  apply and_congr_left
  rintro ⟨hge, hle⟩
  exact h.benchmark p (h.first_le.trans hge) hle

omit [FloorRing K] in
theorem periodReturns_eq (h : CalculatesRange runtime history metrics first last calculation)
    (h' : CalculatesRange runtime history metrics first last calculation') :
    calculation.periodReturns = calculation'.periodReturns := by
  apply Series.ext_mem
  intro p
  rw [h.returns, h'.returns]

omit [FloorRing K] in
/-- A benchmark that was fetched for the range alone is part of one fetched for more. -/
theorem narrowerBenchmark (h : CalculatesRange runtime history metrics first last calculation)
    (h' : CalculatesRange runtime history metrics first last calculation')
    (honly : ∀ d ∈ calculation'.benchmark.index, first ≤ d ∧ d ≤ last) :
    NarrowerBenchmark calculation calculation' := by
  have hmem : ∀ p ∈ calculation'.benchmark.points, p ∈ calculation.benchmark.points := by
    intro p hp
    obtain ⟨hge, hle⟩ := honly p.1 (Series.mem_index hp)
    exact (h.benchmark p hge hle).2 ((h'.benchmark p hge hle).1 hp)
  refine ⟨?_, ?_, ?_⟩
  · intro hempty
    rw [Series.isEmpty_iff_points] at hempty ⊢
    rw [List.eq_nil_iff_forall_not_mem]
    intro p hp
    have hnone := hmem p hp
    rw [hempty] at hnone
    cases hnone
  · intro hempty
    rw [Series.isEmpty_iff_points] at hempty ⊢
    rw [List.eq_nil_iff_forall_not_mem]
    intro p hp
    obtain ⟨hread, hge, hle⟩ := h.mem_window.1 hp
    have hsome := (h'.benchmark p (h.first_le.trans hge) hle).2 hread
    rw [hempty] at hsome
    cases hsome
  · intro d hd
    have hstart := h.start_le d hd
    have hstart' := h'.start_le d (by rwa [← periodReturns_eq h h'])
    apply Option.ext
    intro value
    rw [Series.loc_eq_some, Series.loc_eq_some, h.mem_window, h'.mem_window]
    apply and_congr_right
    intro _
    exact and_congr_left fun _ => iff_of_true hstart hstart'

/-- No benchmark return before the first portfolio return of the range lacks a logarithm. -/
def LeadingLogsDefined (runtime : RiskRuntime K) (history : SourceHistory K) (first last : Date) :
    Prop :=
  ∀ point, HistoryReturn runtime.texts runtime.float history.benchmark point →
    first ≤ point.date → point.date ≤ last → point.value ≤ -((100 : Nat) : K) →
    ∃ point', HistoryReturn runtime.texts runtime.float history.portfolio point' ∧
      first ≤ point'.date ∧ point'.date ≤ point.date

omit [FloorRing K] in
theorem logsUndefined_iff (h : CalculatesRange runtime history metrics first last calculation)
    (hleading : useLogReturns = true → LeadingLogsDefined runtime history first last) :
    logsUndefined useLogReturns
        (calculation.benchmark.between calculation.start calculation.stop) = true ↔
      useLogReturns = true ∧ metrics.any RiskMetric.isBenchmark = true ∧
        ∃ point, HistoryReturn runtime.texts runtime.float history.benchmark point ∧
          (first ≤ point.date ∧ point.date ≤ last) ∧ point.value ≤ -((100 : Nat) : K) := by
  rw [logsUndefined, Bool.and_eq_true, List.any_eq_true]
  apply and_congr_right
  intro huse
  constructor
  · rintro ⟨r, hr, hle⟩
    rw [← Series.map_snd_points] at hr
    obtain ⟨p, hp, rfl⟩ := List.mem_map.1 hr
    obtain ⟨⟨hrequired, hreturn⟩, hge, hlast⟩ := h.mem_window.1 hp
    exact ⟨hrequired, _, hreturn, ⟨h.first_le.trans hge, hlast⟩, of_decide_eq_true hle⟩
  · rintro ⟨hrequired, point, hreturn, ⟨hge, hle⟩, hvalue⟩
    obtain ⟨point', hreturn', hge', hle'⟩ := hleading huse point hreturn hge hle hvalue
    have hindex : point'.date ∈ calculation.periodReturns.index :=
      Series.mem_index
        ((h.returns (point'.date, point'.value)).2 ⟨hreturn', hge', hle'.trans hle⟩)
    have hstart := (h.start_le _ hindex).trans hle'
    refine ⟨point.value, ?_, decide_eq_true hvalue⟩
    rw [← Series.map_snd_points]
    exact List.mem_map_of_mem
      ((h.mem_window (p := (point.date, point.value))).2 ⟨⟨hrequired, hreturn⟩, hstart, hle⟩)

end Calculations

section Rates

variable {K : Type} [Field K] [LinearOrder K] {options : RiskOptions K}

/-- Sourcing sets the risk-free rate of the options only. -/
theorem optionsWithSourcedRiskFree_fields (options : RiskOptions K)
    (points : List (ReturnPoint K)) :
    ∃ mode rate, optionsWithSourcedRiskFree options points =
      { options with riskFreeMode := mode, riskFreeAnnualRate := rate } := by
  rw [optionsWithSourcedRiskFree]
  split
  · exact ⟨options.riskFreeMode, options.riskFreeAnnualRate, rfl⟩
  · exact ⟨.annualRate, _, rfl⟩

theorem periodicMar_of_resolve {pow : K → K → K}
    (h : resolvePeriodicRates pow options factor = .ok (periodicRf, periodicMar)) :
    annualToPeriodic pow options.marAnnualRate factor = .ok periodicMar := by
  obtain ⟨_, hrest⟩ : ∃ rf, (annualToPeriodic pow options.marAnnualRate factor >>=
      fun mar => Except.ok (rf, mar)) = .ok (periodicRf, periodicMar) := by
    rw [resolvePeriodicRates] at h
    split at h
    · obtain ⟨rf, _, h⟩ := bind_eq_ok.1 h
      exact ⟨rf, h⟩
    · exact ⟨0, h⟩
  obtain ⟨_, hmar, hdone⟩ := bind_eq_ok.1 hrest
  cases hdone
  exact hmar

end Rates

section Independence

variable {K : Type} [Field K] [LinearOrder K] [FloorRing K] {runtime : RiskRuntime K}
  {history : SourceHistory K} {stateful : StatefulRiskInput K} {source source' :
    StatefulRiskSource K} {request request' : StatelessRiskInput K} {rates rates' : SharedRates K}

/-- The annual risk-free rate that is sourced, one for all periods of the input. -/
def sourcedAnnualRate (runtime : RiskRuntime K) (stateful : StatefulRiskInput K) : Option K :=
  match (do
    let currency ← resolvePortfolioReportingCurrency runtime.coreClient stateful.portfolioId
      stateful.asOfDate stateful.reportingCurrency (requiresRiskFree stateful.metrics)
    fetchStatefulRiskSource runtime (stateful.withCurrency currency)) with
  | .ok source => annualizedRateFromRiskFreeReturns source.riskFreePoints
      (annualizationFactorForOptions stateful.options)
  | .error _ => none

theorem sourcedAnnualRate_eq
    (hcurrency : resolvePortfolioReportingCurrency runtime.coreClient stateful.portfolioId
      stateful.asOfDate stateful.reportingCurrency (requiresRiskFree stateful.metrics) =
        .ok currency)
    (hsource : fetchStatefulRiskSource runtime (stateful.withCurrency currency) = .ok source) :
    sourcedAnnualRate runtime stateful = annualizedRateFromRiskFreeReturns source.riskFreePoints
      (annualizationFactorForOptions stateful.options) := by
  rw [sourcedAnnualRate, bind_eq_ok.2 ⟨currency, hcurrency, hsource⟩]

omit [FloorRing K] in
/-- Two calculations of a range of the same input are on the same returns. -/
theorem sameReturns
    (h : CalculatesRange runtime history metrics first last
      (periodCalculation request rates start last))
    (h' : CalculatesRange runtime history metrics first last
      (periodCalculation request' rates' start' last))
    (hoptions : request.options = optionsWithSourcedRiskFree options points)
    (hoptions' : request'.options = optionsWithSourcedRiskFree options points')
    (hfactor : rates.annualFactor = annualizationFactorForOptions request.options)
    (hfactor' : rates'.annualFactor = annualizationFactorForOptions request'.options)
    (hrates : resolvePeriodicRates runtime.math.pow request.options
      (annualizationFactorForOptions request.options) = .ok (rates.periodicRf, rates.periodicMar))
    (hrates' : resolvePeriodicRates runtime.math.pow request'.options
      (annualizationFactorForOptions request'.options) =
        .ok (rates'.periodicRf, rates'.periodicMar)) :
    SameReturns (periodCalculation request rates start last)
      (periodCalculation request' rates' start' last) := by
  obtain ⟨mode, rate, hsourced⟩ := optionsWithSourcedRiskFree_fields options points
  obtain ⟨mode', rate', hsourced'⟩ := optionsWithSourcedRiskFree_fields options points'
  have hmar := periodicMar_of_resolve hrates
  have hmar' := periodicMar_of_resolve hrates'
  rw [hoptions, hsourced] at hmar hfactor
  rw [hoptions', hsourced'] at hmar' hfactor'
  refine {
    metrics := h.sameMetrics.trans h'.sameMetrics.symm
    frequency := ?_
    useLogReturns := ?_
    marAnnualRate := ?_
    var := ?_
    annualFactor := hfactor.trans hfactor'.symm
    periodicMar := Except.ok.inj (hmar.symm.trans hmar')
    periodReturns := periodReturns_eq h h'
    stop := rfl }
  all_goals
    simp only [periodCalculation]
    rw [hoptions, hoptions', hsourced, hsourced']

/-- The period ends by the as-of date. -/
def RiskRequestPeriod.EndsBy (period : RiskRequestPeriod) (asOf : Date) : Prop :=
  ∀ first last, resolvePeriod period asOf dateMin = .ok (first, last) → last ≤ asOf

/-- How a run calculates a period. -/
structure PeriodRun (runtime : RiskRuntime K) (history : SourceHistory K)
    (stateful : StatefulRiskInput K) (period : RiskRequestPeriod) (first last start : Date)
    (source : StatefulRiskSource K) (request : StatelessRiskInput K) (rates : SharedRates K)
    (result : RiskPeriodResult K) : Prop where
  range : resolvePeriod period stateful.asOfDate dateMin = .ok (first, last)
  calculated : calculatePeriodResult runtime.math (periodCalculation request rates start last) =
    .ok result
  calculates : CalculatesRange runtime history stateful.metrics first last
    (periodCalculation request rates start last)
  only : stateful.periods = [period] →
    ∀ d ∈ (periodCalculation request rates start last).benchmark.index, first ≤ d ∧ d ≤ last
  options : request.options = optionsWithSourcedRiskFree stateful.options source.riskFreePoints
  annualRate : sourcedAnnualRate runtime stateful = annualizedRateFromRiskFreeReturns
    source.riskFreePoints (annualizationFactorForOptions stateful.options)
  factor : rates.annualFactor = annualizationFactorForOptions request.options
  resolved : resolvePeriodicRates runtime.math.pow request.options
    (annualizationFactorForOptions request.options) = .ok (rates.periodicRf, rates.periodicMar)

theorem periodRun_of_run (hdaily : stateful.options.frequency = .daily)
    (hends : period.EndsBy stateful.asOfDate) (hanswers : AnswersFrom runtime history stateful)
    (hperiod : period ∈ stateful.periods)
    (h : calculateRiskStateful runtime stateful = .ok results) :
    ∃ first last start source request rates result,
      results.get? period.resolvedName = some result ∧
      PeriodRun runtime history stateful period first last start source request rates result := by
  obtain ⟨currency, source, request, hcurrency, hsource, hon, hcalculate⟩ :=
    calculateRiskStateful_ok h
  obtain ⟨sourceResponse, series, returnedPoints, hsourced⟩ := fetchStatefulRiskSource_ok hsource
  have hdaily : (stateful.withCurrency currency).options.frequency = .daily := hdaily
  have hne : request.returns ≠ [] := by
    rw [hon.returns]
    exact hsourced.nonempty
  obtain ⟨rates, start, last, result, hrates, hfactor, hrange, hresult, hget⟩ :=
    period_of_calculateRisk hcalculate hne (hon.periods.symm ▸ hperiod)
  rw [hon.asOfDate] at hrange
  obtain ⟨first, hfirst, rfl⟩ := resolvePeriod_openDate hrange
  obtain ⟨window, hwindow, _⟩ := bind_eq_ok.1 hsourced.request
  obtain ⟨low, high, hasks, hle, hge, honly⟩ :=
    exists_asks hwindow hperiod hfirst (hends first last hfirst)
  have hhistory := hasHistory_of_sourced hdaily (hanswers.withCurrency currency) hwindow hasks
    hsourced
  refine ⟨first, last, _, source, request, rates, result, hget, {
    range := hfirst
    calculated := hresult
    calculates := calculatesRange hhistory hon rates hle hge
    only := ?_
    options := hon.options
    annualRate := sourcedAnnualRate_eq hcurrency hsource
    factor := hfactor
    resolved := hrates }⟩
  intro hsingle d hd
  obtain ⟨rfl, rfl⟩ := honly hsingle
  obtain ⟨p, hp, rfl⟩ := Series.exists_mem_points hd
  rw [periodCalculation, mem_returnsFrame] at hp
  obtain ⟨point, hpoint, rfl⟩ := hp
  rw [hon.benchmarkReturns] at hpoint
  exact ((hhistory.benchmark point).1 hpoint).2.2

/-- A period has the same numbers whatever other periods are requested with it: its Sharpe ratio
where the one sourced rate is the same, and its benchmark metrics where no earlier benchmark return
of its range lacks a logarithm that is taken. -/
theorem period_independence (runtime : RiskRuntime K) (history : SourceHistory K)
    (stateful : StatefulRiskInput K) (period : RiskRequestPeriod)
    (hdaily : stateful.options.frequency = .daily)
    (hends : ∀ period ∈ stateful.periods, period.EndsBy stateful.asOfDate)
    (hanswers : AnswersFrom runtime history stateful) (hperiod : period ∈ stateful.periods)
    (hrun : calculateRiskStateful runtime stateful = .ok results)
    (hrun' : calculateRiskStateful runtime (stateful.only period) = .ok results') :
    ∃ result result', results.get? period.resolvedName = some result ∧
      results'.get? period.resolvedName = some result' ∧
      ∀ metric : RiskMetric,
        (metric = .sharpe →
          sourcedAnnualRate runtime stateful = sourcedAnnualRate runtime (stateful.only period)) →
        (metric.isBenchmark = true → stateful.options.useLogReturns = true →
          ∀ first last, resolvePeriod period stateful.asOfDate dateMin = .ok (first, last) →
            LeadingLogsDefined runtime history first last) →
        Option.Rel SameNumbers (result.metrics.get? metric.text)
          (result'.metrics.get? metric.text) := by
  obtain ⟨first, last, start, source, request, rates, result, hget, hjoint⟩ :=
    periodRun_of_run hdaily (hends period hperiod) hanswers hperiod hrun
  have hdaily' : (stateful.only period).options.frequency = .daily := hdaily
  obtain ⟨first', last', start', source', request', rates', result', hget', halone⟩ :=
    periodRun_of_run hdaily' (hends period hperiod) (hanswers.only period) List.mem_cons_self hrun'
  cases hjoint.range.symm.trans halone.range
  refine ⟨result, result', hget, hget', ?_⟩
  intro metric hsharpe hbenchmark
  obtain ⟨mode, rate, hfields⟩ :=
    optionsWithSourcedRiskFree_fields stateful.options source.riskFreePoints
  have hoptions := hjoint.options.trans hfields
  have hsame := sameReturns hjoint.calculates halone.calculates hjoint.options halone.options
    hjoint.factor halone.factor hjoint.resolved halone.resolved
  apply calculatePeriodResult_agree hsame _
    (narrowerBenchmark hjoint.calculates halone.calculates (halone.only rfl)) _ _
    hjoint.calculated halone.calculated
  · change request.options.frequency = .daily
    rw [hoptions]
    exact hdaily
  · intro hkey
    have hannual := hsharpe (RiskMetric.text_injective hkey)
    rw [hjoint.annualRate, halone.annualRate] at hannual
    have hsourced : request.options = request'.options := by
      rw [hjoint.options, halone.options, optionsWithSourcedRiskFree, hannual]
      rfl
    have hrates := hjoint.resolved
    rw [hsourced, halone.resolved] at hrates
    exact (Prod.mk.inj (Except.ok.inj hrates)).1.symm
  · rintro ⟨b, hkey⟩
    have hmetric : RiskMetric.benchmark b = metric := RiskMetric.text_injective hkey
    have hleading : request.options.useLogReturns = true →
        LeadingLogsDefined runtime history first last := by
      intro huse
      rw [hoptions] at huse
      exact hbenchmark (hmetric ▸ rfl) huse first last hjoint.range
    rw [Bool.eq_iff_iff]
    exact (logsUndefined_iff hjoint.calculates hleading).trans
      (logsUndefined_iff halone.calculates hleading).symm

end Independence

section HistoryServices

def windowBounds (asOf : Date) : ReturnsSeriesWindow → Option (Date × Date)
  | .explicit fromDate toDate =>
    (isoDate fromDate).bind fun start => (isoDate toDate).map fun stop => (start, stop)
  | .relative _ => some (dateMin, asOf)

theorem windowBounds_of_asks (h : window.Asks asOf start stop) :
    windowBounds asOf window = some (start, stop) := by
  cases window with
  | explicit fromDate toDate =>
    obtain ⟨rfl, rfl⟩ := h
    rw [windowBounds, isoDate_isoformat, isoDate_isoformat]
    rfl
  | relative period =>
    obtain ⟨rfl, rfl⟩ := h
    rfl

def resolvedWindowEntries (start stop : Date) : ReturnsSeriesWindow → List (String × PyValue K)
  | .explicit _ _ => [("start_date", .str start.isoformat), ("end_date", .str stop.isoformat)]
  | .relative period => [("start_date", .str start.isoformat), ("end_date", .str stop.isoformat),
      ("resolved_period_label", .str period)]

/-- A complete response to a request, with the given rows. -/
def seriesResponse (request : ReturnsSeriesRequest) (start stop : Date)
    (portfolio benchmark : List (PyValue ℚ)) : List (String × PyValue ℚ) :=
  [("series", .dict [("portfolio_returns", .list portfolio), ("benchmark_returns", .list benchmark)]),
    ("source_service", .str "lotus-performance"), ("calculation_id", .str "C1"),
    ("contract_version", .str "v1"), ("portfolio_id", .str request.portfolioId),
    ("as_of_date", .str request.asOfDate), ("frequency", .str request.frequency.text),
    ("metric_basis", .str request.metricBasis.text),
    ("resolved_window", .dict (resolvedWindowEntries start stop request.window)),
    ("provenance", .dict [("input_mode", .str request.inputMode),
      ("input_fingerprint", .str sha256Label), ("calculation_hash", .str sha256Label)]),
    ("diagnostics", .dict [("freshness", .str "current"),
      ("coverage", .dict [("requested_points", .int portfolio.length),
        ("returned_points", .int portfolio.length), ("missing_points", .int 0),
        ("coverage_ratio", .float (.finite 1))])])]

def unavailable : SourceException :=
  invalidReturns "lotus-performance returns-series window is not available" []

def historyPerformance (history : SourceHistory ℚ) : LotusPerformanceClient ℚ where
  getReturnsSeries request :=
    match (isoDate request.asOfDate).bind (fun asOf => windowBounds asOf request.window) with
    | some (start, stop) => .ok (seriesResponse request start stop
        (rowsWithin plainTexts "date" start stop history.portfolio)
        (rowsWithin plainTexts "date" start stop history.benchmark))
    | none => .error unavailable

def historyCore (history : SourceHistory ℚ) : LotusCoreClient ℚ where
  getCoreSnapshot _ _ := .error unavailable
  getRiskFreeSeries request := .ok [("points", .list
    (rowsWithin plainTexts "series_date" request.startDate request.endDate history.riskFree))]

/-- Services that answer each window from one history. -/
def historyRuntime (history : SourceHistory ℚ) : RiskRuntime ℚ where
  texts := plainTexts
  float := PyNumber.finite
  coercions := plainCoercions
  math := rationalMath
  performanceClient := historyPerformance history
  coreClient := some (historyCore history)

theorem historyPerformance_ok {request : ReturnsSeriesRequest} {asOf : Date}
    (hasOf : request.asOfDate = asOf.isoformat) (hasks : request.window.Asks asOf start stop)
    (h : (historyPerformance history).getReturnsSeries request = .ok response) :
    response = seriesResponse request start stop
      (rowsWithin plainTexts "date" start stop history.portfolio)
      (rowsWithin plainTexts "date" start stop history.benchmark) := by
  simp only [historyPerformance, hasOf, isoDate_isoformat, Option.bind_some,
    windowBounds_of_asks hasks] at h
  cases h
  rfl

theorem answersFrom_historyRuntime (history : SourceHistory ℚ) (stateful : StatefulRiskInput ℚ) :
    AnswersFrom (historyRuntime history) history stateful := by
  have hasOf : ∀ request, stateful.Requests request →
      request.asOfDate = stateful.asOfDate.isoformat := by
    rintro request ⟨periods, currency, hrequest⟩
    obtain ⟨_, _, hdone⟩ := bind_eq_ok.1 hrequest
    cases hdone
    rfl
  refine ⟨?_, ?_, ?_⟩
  · intro request response series start stop hrequest hasks hresponse hseries row
    rw [historyPerformance_ok (hasOf request hrequest) hasks hresponse] at hseries
    cases hseries
    exact Iff.rfl
  · intro request response series start stop hrequest _ hasks hresponse hseries row
    rw [historyPerformance_ok (hasOf request hrequest) hasks hresponse] at hseries
    cases hseries
    exact Iff.rfl
  · intro client currency start stop response hclient hresponse row
    cases hclient
    cases hresponse
    exact Iff.rfl

end HistoryServices

section Week

/-- A week from Monday to Friday. -/
def mayWeek : List Date :=
  [⟨2026, 5, 4, by decide⟩, ⟨2026, 5, 5, by decide⟩, ⟨2026, 5, 6, by decide⟩,
    ⟨2026, 5, 7, by decide⟩, ⟨2026, 5, 8, by decide⟩]

def mayDay (i : Nat) : Date := mayWeek.getD i dateMin

def returnRow (d : Date) (value : PyValue ℚ) : PyValue ℚ :=
  .dict [("date", .str d.isoformat), ("return_value", value)]

def riskFreeRow (d : Date) (value : String) : PyValue ℚ :=
  .dict [("series_date", .str d.isoformat), ("value", .str value),
    ("value_convention", .str "period_return")]

/-- Tuesday has no portfolio return, and the benchmark loses everything on it. -/
def weekHistory (mondayRate : String) : SourceHistory ℚ where
  portfolio := [returnRow (mayDay 0) (.str "0.01"), returnRow (mayDay 2) (.str "0.01"),
    returnRow (mayDay 3) (.str "0.02"), returnRow (mayDay 4) (.str "0.03")]
  benchmark := [returnRow (mayDay 1) (.int (-1)), returnRow (mayDay 2) (.str "0"),
    returnRow (mayDay 3) (.str "0"), returnRow (mayDay 4) (.str "0")]
  riskFree := [riskFreeRow (mayDay 0) mondayRate, riskFreeRow (mayDay 2) "0",
    riskFreeRow (mayDay 3) "0", riskFreeRow (mayDay 4) "0"]

def explicitPeriod (name : String) (fromDate toDate : Date) : RiskRequestPeriod where
  type := .explicit
  name := some name
  fromDate := some fromDate
  toDate := some toDate
  year := none
  explicit_dates := fun _ => ⟨rfl, rfl⟩
  year_given := nofun

def mondayOnly : RiskRequestPeriod := explicitPeriod "MONDAY" (mayDay 0) (mayDay 0)

def fromTuesday : RiskRequestPeriod := explicitPeriod "FROM_TUESDAY" (mayDay 1) (mayDay 4)

def weekInput (useLogReturns : Bool) : StatefulRiskInput ℚ where
  portfolioId := "P1"
  asOfDate := mayDay 4
  reportingCurrency := some "USD"
  benchmarkId := none
  netOrGross := .net
  periods := [mondayOnly, fromTuesday]
  metrics := [.volatility, .sharpe, .benchmark .trackingError]
  options := { defaultRiskOptions with
    annualizationFactor := some 1
    useLogReturns := useLogReturns
    annualization_pos := by decide }
  names_unique := by decide

def metricNumber (results : Dict String (RiskPeriodResult ℚ)) (period : RiskRequestPeriod)
    (metric : RiskMetric) : Option ℚ :=
  ((results.get? period.resolvedName).bind fun result => result.metrics.get? metric.text).bind
    RiskValue.value

/-- The number that a run reports. -/
def runNumber (runtime : RiskRuntime ℚ) (stateful : StatefulRiskInput ℚ)
    (period : RiskRequestPeriod) (metric : RiskMetric) : Option ℚ :=
  match calculateRiskStateful runtime stateful with
  | .ok results => metricNumber results period metric
  | .error _ => none

theorem exists_run (h : runNumber runtime stateful period metric = some x) :
    ∃ results, calculateRiskStateful runtime stateful = .ok results ∧
      ∀ metric, metricNumber results period metric = runNumber runtime stateful period metric := by
  rw [runNumber] at h
  split at h
  · rename_i results hrun
    refine ⟨results, hrun, ?_⟩
    intro metric
    rw [runNumber, hrun]
  · cases h

theorem endsBy_explicitPeriod (h : toDate ≤ asOf) :
    (explicitPeriod name fromDate toDate).EndsBy asOf := by
  intro first last hrange
  obtain ⟨_, hbounds, hdone⟩ := bind_eq_ok.1 hrange
  cases hbounds
  cases hdone
  exact h

theorem weekInput_endsBy (useLogReturns : Bool) : ∀ period ∈ (weekInput useLogReturns).periods,
    period.EndsBy (weekInput useLogReturns).asOfDate := by
  have hmonday : mayDay 0 ≤ mayDay 4 := by decide
  intro period hperiod
  rcases List.mem_pair.1 hperiod with rfl | rfl
  · exact endsBy_explicitPeriod hmonday
  · exact endsBy_explicitPeriod le_rfl

theorem fromTuesday_mem (useLogReturns : Bool) :
    fromTuesday ∈ (weekInput useLogReturns).periods := List.mem_pair.2 (.inr rfl)

/-- The same days without a return, beside the same benchmark. -/
def idleHistory : SourceHistory ℚ :=
  { weekHistory "0" with
    portfolio := [0, 2, 3, 4].map fun i => returnRow (mayDay i) (.str "0") }

/-- A daily request over one history, of which a metric of one period has one number beside the
other periods and another number without them. -/
def NumberChanges (runtime : RiskRuntime ℚ) (history : SourceHistory ℚ)
    (stateful : StatefulRiskInput ℚ) (period : RiskRequestPeriod) (metric : RiskMetric)
    (joint alone : Option ℚ) : Prop :=
  stateful.options.frequency = .daily ∧
    (∀ period ∈ stateful.periods, period.EndsBy stateful.asOfDate) ∧
    AnswersFrom runtime history stateful ∧ period ∈ stateful.periods ∧
    ∃ results results', calculateRiskStateful runtime stateful = .ok results ∧
      calculateRiskStateful runtime (stateful.only period) = .ok results' ∧
      metricNumber results period metric = joint ∧ metricNumber results' period metric = alone

/-- The numbers of Tuesday to Friday, compared through the volatility that both runs have. -/
theorem numberChanges_fromTuesday
    (hrun : runNumber (historyRuntime history) (weekInput useLogReturns) fromTuesday
      .volatility = some x)
    (hrun' : runNumber (historyRuntime history) ((weekInput useLogReturns).only fromTuesday)
      fromTuesday .volatility = some y)
    (hjoint : runNumber (historyRuntime history) (weekInput useLogReturns) fromTuesday
      metric = joint)
    (halone : runNumber (historyRuntime history) ((weekInput useLogReturns).only fromTuesday)
      fromTuesday metric = alone) :
    NumberChanges (historyRuntime history) history (weekInput useLogReturns) fromTuesday metric
      joint alone := by
  obtain ⟨results, hresults, hnumbers⟩ := exists_run hrun
  obtain ⟨results', hresults', hnumbers'⟩ := exists_run hrun'
  exact ⟨rfl, weekInput_endsBy useLogReturns, answersFrom_historyRuntime _ _,
    fromTuesday_mem useLogReturns, results, results', hresults, hresults',
    (hnumbers metric).trans hjoint, (hnumbers' metric).trans halone⟩

/-- Monday's risk-free return is part of the one rate of the request, and Monday's return opens the
portfolio before the benchmark's total loss. -/
theorem monday_changes_other_days :
    NumberChanges (historyRuntime (weekHistory "0.03")) (weekHistory "0.03") (weekInput false)
      fromTuesday .sharpe (some (5 / 4)) (some 2) ∧
    NumberChanges (historyRuntime idleHistory) idleHistory (weekInput true)
      fromTuesday (.benchmark .trackingError) none (some 0) := by
  constructor
  · exact numberChanges_fromTuesday (x := 1) (y := 1) (by decide +kernel) (by decide +kernel)
      (by decide +kernel) (by decide +kernel)
  · exact numberChanges_fromTuesday (x := 0) (y := 0) (by decide +kernel) (by decide +kernel)
      (by decide +kernel) (by decide +kernel)

/-- Under a constant risk-free rate, and without logarithms, the other days have the same
numbers. -/
theorem period_independence_week : ∃ results results' result result',
    calculateRiskStateful (historyRuntime (weekHistory "0")) (weekInput false) = .ok results ∧
    calculateRiskStateful (historyRuntime (weekHistory "0")) ((weekInput false).only fromTuesday) =
      .ok results' ∧
    results.get? fromTuesday.resolvedName = some result ∧
    results'.get? fromTuesday.resolvedName = some result' ∧
    (result.metrics.get? RiskMetric.sharpe.text).bind RiskValue.value = some 2 ∧
    ∀ metric : RiskMetric, Option.Rel SameNumbers (result.metrics.get? metric.text)
      (result'.metrics.get? metric.text) := by
  have hsharpe : runNumber (historyRuntime (weekHistory "0")) (weekInput false) fromTuesday
      .sharpe = some 2 := by decide +kernel
  have hsharpe' : runNumber (historyRuntime (weekHistory "0"))
      ((weekInput false).only fromTuesday) fromTuesday .sharpe = some 2 := by decide +kernel
  have hrate : sourcedAnnualRate (historyRuntime (weekHistory "0")) (weekInput false) =
      sourcedAnnualRate (historyRuntime (weekHistory "0"))
        ((weekInput false).only fromTuesday) := by decide +kernel
  obtain ⟨results, hrun, hnumbers⟩ := exists_run hsharpe
  obtain ⟨results', hrun', _⟩ := exists_run hsharpe'
  obtain ⟨result, result', hget, hget', hagree⟩ := period_independence
    (historyRuntime (weekHistory "0")) (weekHistory "0") (weekInput false) fromTuesday rfl
    (weekInput_endsBy false) (answersFrom_historyRuntime _ _) (fromTuesday_mem false) hrun hrun'
  refine ⟨results, results', result, result', hrun, hrun', hget, hget', ?_, ?_⟩
  · have hnumber := (hnumbers .sharpe).trans hsharpe
    rw [metricNumber, hget] at hnumber
    exact hnumber
  · intro metric
    exact hagree metric (fun _ => hrate) (fun _ huse => absurd huse Bool.false_ne_true)

end Week

end LotusRisk
