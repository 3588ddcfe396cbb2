import LotusRisk.DateTexts
import LotusRisk.Risk.ReturnsAdmission
import LotusRisk.Risk.LookAhead
import LotusRisk.Risk.StatefulRequest

/-! What a stateful calculation that returns has sourced, and how a period reads it. -/

namespace LotusRisk
set_option autoImplicit true

open Relational

section Runs

variable {K : Type} [Field K] [LinearOrder K] [FloorRing K] {runtime : RiskRuntime K}
  {stateful : StatefulRiskInput K}

/-- The input after the reporting currency is resolved. -/
def StatefulRiskInput.withCurrency (stateful : StatefulRiskInput K) (currency : Option String) :
    StatefulRiskInput K := { stateful with reportingCurrency := currency }

/-- How the source of a calculation came from the answers of the clients. -/
structure Sourced (runtime : RiskRuntime K) (stateful : StatefulRiskInput K)
    (source : StatefulRiskSource K) (sourceResponse series : List (String × PyValue K))
    (returnedPoints : List (ReturnPoint K)) : Prop where
  request : buildStatefulSourceRequest stateful = .ok source.sourcePayload
  response : runtime.performanceClient.getReturnsSeries source.sourcePayload = .ok sourceResponse
  returns : extractRequiredPortfolioReturns runtime.texts runtime.float sourceResponse
    stateful.options.frequency = .ok (series, returnedPoints)
  admitted : extractStatefulReturnsSourceEvidence runtime.coercions runtime.texts sourceResponse
    stateful.identity (some source.sourcePayload.window) (some returnedPoints) =
      .ok source.evidence
  normalized : normalizeReturnPointsToResolvedWindow runtime.texts sourceResponse returnedPoints
    stateful.options.frequency = .ok source.portfolioPoints
  benchmark : fetchBenchmarkPoints runtime stateful sourceResponse series =
    .ok source.benchmarkPoints

theorem fetchStatefulRiskSource_ok {source : StatefulRiskSource K}
    (h : fetchStatefulRiskSource runtime stateful = .ok source) :
    ∃ sourceResponse series returnedPoints,
      Sourced runtime stateful source sourceResponse series returnedPoints := by
  obtain ⟨sourcePayload, hrequest, h⟩ := bind_eq_ok.1 h
  obtain ⟨sourceResponse, hresponse, h⟩ := bind_eq_ok.1 h
  obtain ⟨⟨series, returnedPoints⟩, hreturns, h⟩ := bind_eq_ok.1 h
  obtain ⟨evidence, hevidence, h⟩ := bind_eq_ok.1 h
  obtain ⟨portfolioPoints, hnormalized, h⟩ := bind_eq_ok.1 h
  obtain ⟨riskFreeRequest, _, h⟩ := bind_eq_ok.1 h
  obtain ⟨riskFreeResponse, _, h⟩ := bind_eq_ok.1 h
  obtain ⟨benchmarkPoints, hbenchmark, h⟩ := bind_eq_ok.1 h
  obtain ⟨riskFreePoints, _, h⟩ := bind_eq_ok.1 h
  cases h
  exact ⟨sourceResponse, series, returnedPoints, SourceException.ofPython_eq_ok.1 hrequest,
    hresponse, hreturns, hevidence, hnormalized, hbenchmark⟩

theorem Sourced.nonempty {source : StatefulRiskSource K}
    (h : Sourced runtime stateful source sourceResponse series returnedPoints) :
    source.portfolioPoints ≠ [] := by
  have hne := (extractRequiredPortfolioReturns_spec h.returns).2.1
  obtain ⟨_, _, hnormalized⟩ := bind_eq_ok.1 h.normalized
  split at hnormalized
  · rw [← Except.ok.inj hnormalized]
    exact hne
  · split at hnormalized
    · cases hnormalized
    · rw [← Except.ok.inj hnormalized]
      exact mt List.map_eq_nil_iff.1 hne

/-- The request that a calculation is made on. -/
structure CalculatesOn (runtime : RiskRuntime K) (stateful : StatefulRiskInput K)
    (source : StatefulRiskSource K) (request : StatelessRiskInput K) : Prop where
  asOfDate : request.asOfDate = stateful.asOfDate
  periods : request.periods = stateful.periods
  metrics : request.metrics = stateful.metrics
  options : request.options = optionsWithSourcedRiskFree stateful.options source.riskFreePoints
  portfolioOpenDate : request.portfolioOpenDate =
    LotusRisk.portfolioOpenDate source.portfolioPoints stateful.asOfDate
  returns : request.returns = source.portfolioPoints
  benchmarkReturns : request.benchmarkReturns = source.benchmarkPoints

theorem buildStatefulStatelessRiskInput_ok {source : StatefulRiskSource K}
    (h : buildStatefulStatelessRiskInput stateful source = .ok request) :
    CalculatesOn runtime stateful source request := by
  rw [buildStatefulStatelessRiskInput] at h
  split at h
  · cases h
  · cases h
    exact ⟨rfl, rfl, rfl, rfl, rfl, rfl, rfl⟩

theorem calculateRiskStateful_ok
    (h : calculateRiskStateful runtime stateful = .ok results) :
    ∃ currency source request,
      resolvePortfolioReportingCurrency runtime.coreClient stateful.portfolioId stateful.asOfDate
        stateful.reportingCurrency (requiresRiskFree stateful.metrics) = .ok currency ∧
      fetchStatefulRiskSource runtime (stateful.withCurrency currency) = .ok source ∧
      CalculatesOn runtime (stateful.withCurrency currency) source request ∧
      calculateRisk runtime.math request = .ok results := by
  obtain ⟨currency, hcurrency, h⟩ := bind_eq_ok.1 h
  obtain ⟨source, hsource, h⟩ := bind_eq_ok.1 h
  obtain ⟨request, hrequest, h⟩ := bind_eq_ok.1 h
  exact ⟨currency, source, request, hcurrency, hsource,
    buildStatefulStatelessRiskInput_ok (SourceException.ofPython_eq_ok.1 hrequest), h⟩

/-- The results of a calculation on returns are those of its periods. -/
theorem period_of_calculateRisk {math : PyMath K} {request : StatelessRiskInput K}
    (h : calculateRisk math request = .ok results) (hne : request.returns ≠ [])
    (hperiod : period ∈ request.periods) :
    ∃ rates start stop result,
      resolvePeriodicRates math.pow request.options (annualizationFactorForOptions request.options) =
        .ok (rates.periodicRf, rates.periodicMar) ∧
      rates.annualFactor = annualizationFactorForOptions request.options ∧
      resolvePeriod period request.asOfDate request.portfolioOpenDate = .ok (start, stop) ∧
      calculatePeriodResult math (periodCalculation request rates start stop) = .ok result ∧
      results.get? period.resolvedName = some result := by
  have hsome : request.returns.isEmpty = false := List.isEmpty_eq_false_iff.2 hne
  rw [calculateRisk, hsome, if_neg Bool.false_ne_true] at h
  obtain ⟨⟨periodicRf, periodicMar⟩, hrates, h⟩ := bind_eq_ok.1 h
  obtain ⟨entries, hentries, hdone⟩ := bind_eq_ok.1 (SourceException.ofPython_eq_ok.1 h)
  cases hdone
  have hnames : entries.map Prod.fst = request.periods.map RiskRequestPeriod.resolvedName := by
    refine map_of_mapM_ok ?_ hentries
    intro period entry hentry
    obtain ⟨_, _, hentry⟩ := bind_eq_ok.1 hentry
    obtain ⟨_, _, hentry⟩ := bind_eq_ok.1 hentry
    cases hentry
    rfl
  obtain ⟨entry, hmem, hentry⟩ := exists_of_mem_right (mapM_eq_ok.1 hentries).flip hperiod
  obtain ⟨⟨start, stop⟩, hwindow, hentry⟩ := bind_eq_ok.1 hentry
  obtain ⟨result, hresult, hdone⟩ := bind_eq_ok.1 hentry
  cases hdone
  refine ⟨⟨_, periodicRf, periodicMar⟩, start, stop, result, hrates, rfl, hwindow, hresult, ?_⟩
  rw [Dict.get?_eq_some, Dict.items_ofList]
  · exact hmem
  · rw [hnames]
    exact request.names_unique

end Runs

section Windows

/-- The days a window asks for; since inception, all days until the as-of date. -/
def ReturnsSeriesWindow.Asks (asOfDate start stop : Date) : ReturnsSeriesWindow → Prop
  | .explicit fromDate toDate => fromDate = start.isoformat ∧ toDate = stop.isoformat
  | .relative _ => start = dateMin ∧ stop = asOfDate

/-- The range of a period that ends by the as-of date is within what is asked for. -/
theorem asks_of_buildReturnsSeriesWindow
    (h : buildReturnsSeriesWindow periods asOfDate = .ok window) (hperiod : period ∈ periods)
    (hrange : resolvePeriod period asOfDate dateMin = .ok (first, last)) (hlast : last ≤ asOfDate) :
    ∃ start stop, window.Asks asOfDate start stop ∧ start ≤ first ∧ last ≤ stop := by
  rw [buildReturnsSeriesWindow] at h
  split at h
  · cases h
    exact ⟨dateMin, asOfDate, ⟨rfl, rfl⟩, dateMin_le first, hlast⟩
  · obtain ⟨ranges, hranges, h⟩ := bind_eq_ok.1 h
    obtain ⟨⟨start, stop⟩, hbounds, hdone⟩ := bind_eq_ok.1 h
    cases hdone
    obtain ⟨range, hmem, hok⟩ := exists_of_mem_right (mapM_eq_ok.1 hranges).flip hperiod
    cases hrange.symm.trans hok
    refine ⟨start, stop, ⟨rfl, rfl⟩, ?_⟩
    rw [minAndMax] at hbounds
    split at hbounds
    · cases hbounds
    · cases hbounds
    · rename_i hmin hmax
      cases hbounds
      exact ⟨(List.min?_eq_some_iff.1 hmin).2 _ (List.mem_map_of_mem hmem),
        (List.max?_eq_some_iff.1 hmax).2 _ (List.mem_map_of_mem hmem)⟩

/-- Of one period that is not since inception, its own range is asked for. -/
theorem window_of_single {period : RiskRequestPeriod} (htype : period.type ≠ .sinceInception)
    (h : buildReturnsSeriesWindow [period] asOfDate = .ok window) :
    ∃ first last, resolvePeriod period asOfDate dateMin = .ok (first, last) ∧
      window = .explicit first.isoformat last.isoformat := by
  rw [buildReturnsSeriesWindow, if_neg (by simpa using htype)] at h
  obtain ⟨ranges, hranges, h⟩ := bind_eq_ok.1 h
  obtain ⟨⟨start, stop⟩, hbounds, hdone⟩ := bind_eq_ok.1 h
  cases hdone
  obtain ⟨⟨first, last⟩, hrange, hrest⟩ := bind_eq_ok.1 hranges
  cases hrest
  cases hbounds
  exact ⟨first, last, hrange, rfl⟩

end Windows

section Points

variable {K : Type} [Field K] {texts : PyTexts K} {float : K → PyNumber K} {frequency : Frequency}

omit [Field K] in
theorem eq_of_filterMap_nodup {f : α → Option β} {l : List α} (h : (l.filterMap f).Nodup)
    (ha : a ∈ l) (hb : b ∈ l) (hfa : f a = some c) (hfb : f b = some c) : a = b := by
  induction l with
  | nil => cases ha
  | cons x l ih =>
    have hrest : (l.filterMap f).Nodup :=
      List.Nodup.sublist ((List.sublist_cons_self x l).filterMap f) h
    have hfirst : ∀ y ∈ l, f x = some c → f y = some c → False := by
      intro y hy hx hyc
      rw [List.filterMap_cons_some hx, List.nodup_cons] at h
      exact h.1 (List.mem_filterMap.2 ⟨y, hy, hyc⟩)
    rcases List.mem_cons.1 ha with hax | ha'
    · rcases List.mem_cons.1 hb with hbx | hb'
      · exact hax.trans hbx.symm
      · exact (hfirst b hb' (hax ▸ hfa) hfb).elim
    · rcases List.mem_cons.1 hb with hbx | hb'
      · exact (hfirst a ha' (hbx ▸ hfb) hfa).elim
      · exact ih hrest ha' hb'

theorem ReadFrom.unique (h : ReadFrom texts float frequency row point)
    (h' : ReadFrom texts float frequency row point') : point = point' := by
  obtain ⟨hdate, entries, x, hrow, hx, hvalue⟩ := h
  obtain ⟨hdate', entries', x', hrow', hx', hvalue'⟩ := h'
  rw [hdate] at hdate'
  rw [hrow] at hrow'
  cases hrow'
  rw [hx] at hx'
  cases hx'
  rw [hvalue] at hvalue'
  cases point
  cases point'
  cases hdate'
  cases hvalue'
  rfl

/-- The points are what the rows say. -/
theorem PointsOf.mem_iff {points : List (ReturnPoint K)}
    (h : PointsOf texts float frequency rows points) :
    point ∈ points ↔ ∃ row ∈ rows, ReadFrom texts float frequency row point := by
  constructor
  · exact h.read point
  · rintro ⟨row, hrow, hread⟩
    have hdate : point.date ∈ points.map ReturnPoint.date := by
      rw [h.dates]
      exact List.mem_filterMap.2 ⟨row, hrow, hread.1⟩
    obtain ⟨point', hpoint', heq⟩ := List.mem_map.1 hdate
    obtain ⟨row', hrow', hread'⟩ := h.read point' hpoint'
    have hnodup := h.distinct
    rw [h.dates] at hnodup
    have hsame := eq_of_filterMap_nodup hnodup hrow hrow' hread.1 (hread'.1.trans (congrArg some heq))
    rw [hsame] at hread
    rw [hread.unique hread']
    exact hpoint'

end Points

end LotusRisk
