import LotusRisk.Risk.PeriodIndependence
import LotusRisk.Risk.VarReports
import LotusRisk.Risk.WindowClamping

/-! The returns that a request sources at its frequency, and the value at risk reported of them. -/

namespace LotusRisk
set_option autoImplicit true

open Relational Raising

section Buckets

variable {K : Type} [Field K] {frequency : Frequency} {days window buckets returns : Series Date K}

/-- The returns of the buckets of a window: one for each bucket with a day, dated at its end. -/
structure BucketsOf (frequency : Frequency) (window buckets : Series Date K) : Prop where
  dated : ∀ p ∈ buckets.points, frequency.bucketEnd (frequency.bucket p.1) = some p.1
  populated : ∀ p ∈ buckets.points, ∃ d ∈ window.index, frequency.bucket d = frequency.bucket p.1
  covers : ∀ d ∈ window.index, ∃ p ∈ buckets.points, frequency.bucket p.1 = frequency.bucket d

theorem resampleReturns_daily (window : Series Date K) :
    resampleReturns window .daily = .ok window := if_pos (.inr rfl)

theorem bucketsOf_resampled (h : resampleReturns window frequency = .ok buckets) :
    BucketsOf frequency window buckets := by
  by_cases hsame : window.isEmpty = true ∨ frequency = .daily
  · rw [resampleReturns, if_pos hsame] at h
    cases h
    refine ⟨?_, ?_, ?_⟩
    · intro p hp
      rcases hsame with hempty | rfl
      · have hindex := Series.mem_index hp
        rw [List.isEmpty_iff.1 hempty] at hindex
        cases hindex
      · exact Date.fromordinal_toordinal p.1
    · intro p hp
      exact ⟨p.1, Series.mem_index hp, rfl⟩
    · intro d hd
      obtain ⟨p, hp, rfl⟩ := Series.exists_mem_points hd
      exact ⟨p, hp, rfl⟩
  · obtain ⟨hempty, hdaily⟩ := not_or.1 hsame
    have hto := resampleReturns_ok (numbers_exact window) (mt List.isEmpty_iff.2 hempty) hdaily h
    refine ⟨hto.dated, ?_, ?_⟩
    · intro p hp
      exact exists_mem_bucket (hto.populated p hp)
    · intro d hd
      obtain ⟨p, ⟨hp, hbucket⟩, _⟩ := hto.single d hd
      exact ⟨p, hp, hbucket⟩

/-- The returns of the buckets that end in a range, where the window ends the last one. -/
def sampleWithin (stop first last : Date) (buckets : Series Date K) : List K :=
  (buckets.points.filter fun p =>
    decide (first ≤ min p.1 stop) && decide (min p.1 stop ≤ last)).map Prod.snd

/-- A period has the returns of the buckets that end in its range. -/
def ReadsBuckets (stop first last : Date) (buckets returns : Series Date K) : Prop :=
  ∀ p, p ∈ returns.points ↔
    (∃ q ∈ buckets.points, p = (min q.1 stop, q.2)) ∧ first ≤ p.1 ∧ p.1 ≤ last

variable {start stop first last : Date}

omit [Field K] in
theorem BucketsOf.clamped (h : BucketsOf frequency (days.between start stop) buckets)
    (hp : p ∈ buckets.points) : frequency.bucket (min p.1 stop) = frequency.bucket p.1 := by
  obtain ⟨d, hd, hbucket⟩ := h.populated p hp
  obtain ⟨q, hq, rfl⟩ := Series.exists_mem_points hd
  obtain ⟨_, hstart, hstop⟩ := Series.mem_between.1 hq
  exact (clamped_spec (hstart.trans hstop) (h.dated p hp) ⟨q.1, hbucket, hstart, hstop⟩).2.2

omit [Field K] in
theorem BucketsOf.clamped_lt (h : BucketsOf frequency (days.between start stop) buckets)
    (hp : p ∈ buckets.points) (hq : q ∈ buckets.points) (hlt : p.1 < q.1) :
    min p.1 stop < min q.1 stop := by
  apply (lt_iff_of_buckets (h.clamped hp) (h.clamped hq) _).2 hlt
  intro heq
  have hsame := bucket_injective_of_periodEnd (h.dated p hp) (h.dated q hq) heq
  exact absurd hsame (ne_of_lt hlt)

omit [Field K] in
/-- What a period reads is the sample of its range. -/
theorem ReadsBuckets.values_eq (hreads : ReadsBuckets stop first last buckets returns)
    (h : BucketsOf frequency (days.between start stop) buckets) :
    returns.values = sampleWithin stop first last buckets := by
  have hascending : (((buckets.points.filter fun p =>
      decide (first ≤ min p.1 stop) && decide (min p.1 stop ≤ last)).map
        fun p => (min p.1 stop, p.2)).map Prod.fst).Pairwise (· < ·) := by
    have hdates := buckets.ascending
    rw [← buckets.map_fst_points, List.pairwise_map] at hdates
    rw [List.map_map, List.pairwise_map]
    apply (hdates.filter _).imp_of_mem
    intro p q hp hq hlt
    exact h.clamped_lt (List.mem_of_mem_filter hp) (List.mem_of_mem_filter hq) hlt
  have heq : returns = Series.ofPoints _ hascending := by
    apply Series.ext_mem
    intro p
    rw [hreads p, Series.points_ofPoints, List.mem_map]
    simp only [List.mem_filter, Bool.and_eq_true, decide_eq_true_iff]
    constructor
    · rintro ⟨⟨q, hq, rfl⟩, hrange⟩
      exact ⟨q, ⟨hq, hrange⟩, rfl⟩
    · rintro ⟨q, ⟨hq, hrange⟩, rfl⟩
      exact ⟨⟨q, hq, rfl⟩, hrange⟩
  rw [heq, ← Series.map_snd_points, Series.points_ofPoints, List.map_map]
  rfl

omit [Field K] in
theorem lt_of_bucket_lt {a b : Date} (h : frequency.bucket a < frequency.bucket b) : a < b :=
  not_le.1 fun hle => absurd (frequency.bucket_mono hle) (not_le.2 h)

/-- A bucket between two days with returns has a day. -/
theorem exists_day_between (hf : frequency ≠ .daily)
    (hbuckets : resampleReturns window frequency = .ok buckets) (ha : a ∈ window.index)
    (hb : b ∈ window.index) (hlo : frequency.bucket a < frequency.bucket d)
    (hhi : frequency.bucket d < frequency.bucket b) :
    ∃ r ∈ window.index, frequency.bucket r = frequency.bucket d := by
  have hne := List.ne_nil_of_mem ha
  have hsorted : window.index.Pairwise (· ≤ ·) := window.ascending.imp le_of_lt
  have hfull : ¬EmptyBetween frequency window hne := by
    intro hgap
    obtain ⟨e, he⟩ := (resampleReturns_error_iff_exact hne hf).2 hgap
    cases hbuckets.symm.trans he
  by_contra hnone
  refine hfull ⟨d, ?_, ?_, fun r hr heq => hnone ⟨r, hr, heq⟩⟩
  · exact (frequency.bucket_mono (hsorted.rel_head ha)).trans_lt hlo
  · exact hhi.trans_le (frequency.bucket_mono (hsorted.rel_getLast hb))

/-- The buckets of a window without a gap have none in a period. -/
theorem ReadsBuckets.resampled (hreads : ReadsBuckets stop first last buckets returns)
    (hbuckets : resampleReturns (days.between start stop) frequency = .ok buckets) :
    ∃ out, resampleReturns returns frequency = .ok out := by
  have h := bucketsOf_resampled hbuckets
  by_cases htrivial : returns.index = [] ∨ frequency = .daily
  · exact ⟨returns, if_pos (htrivial.imp_left List.isEmpty_iff.2)⟩
  · obtain ⟨hne, hf⟩ := not_or.1 htrivial
    cases hout : resampleReturns returns frequency with
    | ok out => exact ⟨out, rfl⟩
    | error e =>
      obtain ⟨d, hlo, hhi, hgap⟩ := (resampleReturns_error_iff_exact hne hf).1 ⟨e, hout⟩
      -- the first and the last return of the period are those of buckets with days
      have hends : ∀ day ∈ returns.index, first ≤ day ∧ day ≤ last ∧
          ∃ r ∈ (days.between start stop).index, frequency.bucket r = frequency.bucket day := by
        intro day hday
        obtain ⟨p, hp, rfl⟩ := Series.exists_mem_points hday
        obtain ⟨⟨q, hq, rfl⟩, hfirst, hlast⟩ := (hreads p).1 hp
        obtain ⟨r, hr, hbucket⟩ := h.populated q hq
        exact ⟨hfirst, hlast, r, hr, hbucket.trans (h.clamped hq).symm⟩
      obtain ⟨hfirst, _, a, ha, habucket⟩ := hends _ (List.head_mem hne)
      obtain ⟨_, hlast, b, hb, hbbucket⟩ := hends _ (List.getLast_mem hne)
      rw [← habucket] at hlo
      rw [← hbbucket] at hhi
      obtain ⟨r, hr, hrbucket⟩ := exists_day_between hf hbuckets ha hb hlo hhi
      obtain ⟨p, hp, hpbucket⟩ := h.covers r hr
      have hclamped : frequency.bucket (min p.1 stop) = frequency.bucket d :=
        (h.clamped hp).trans (hpbucket.trans hrbucket)
      rw [← hclamped, habucket] at hlo
      rw [← hclamped, hbbucket] at hhi
      have hread : (min p.1 stop, p.2) ∈ returns.points :=
        (hreads _).2 ⟨⟨p, hp, rfl⟩, hfirst.trans (lt_of_bucket_lt hlo).le,
          (lt_of_bucket_lt hhi).le.trans hlast⟩
      exact absurd hclamped (hgap _ (Series.mem_index hread))

end Buckets

section Answers

variable {K : Type} [Field K] [LinearOrder K] {runtime : RiskRuntime K} {days : Series Date K}
  {buckets : Series Date K} {stateful : StatefulRiskInput K}

/-- The returns request of a stateful calculation is answered with the buckets of its frequency
over the days of the requested window. -/
def AnswersBuckets (runtime : RiskRuntime K) (days : Series Date K)
    (stateful : StatefulRiskInput K) : Prop :=
  ∀ currency request response series start stop buckets,
    buildStatefulSourceRequest (stateful.withCurrency currency) = .ok request →
    request.window.Asks stateful.asOfDate start stop →
    runtime.performanceClient.getReturnsSeries request = .ok response →
    getEntry response "series" = .dict series →
    resampleReturns (days.between start stop) stateful.options.frequency = .ok buckets →
    ∀ point, (∃ row ∈ producerRows (getEntry series "portfolio_returns"),
        ReadFrom runtime.texts runtime.float stateful.options.frequency row point) ↔
      (point.date, point.value) ∈ buckets.points

omit [Field K] [LinearOrder K] in
/-- The admitted window ends where the requested one does. -/
theorem windowDate_end {texts : PyTexts K} {resolvedWindow : List (String × PyValue K)}
    {window : ReturnsSeriesWindow} (hiso : ∀ d : Date, texts.fromisoformat d.isoformat = some d)
    (hasks : window.Asks asOf start stop)
    (h : window.ResolvesTo texts resolvedWindow asOf startDate endDate) :
    windowDate texts resolvedWindow "end_date" = some stop := by
  cases window with
  | explicit fromDate toDate =>
    obtain ⟨rfl, rfl⟩ := hasks
    rw [windowDate_of_text h.2.1, hiso]
  | relative period =>
    obtain ⟨rfl, rfl⟩ := hasks
    rw [h.2.2.1, h.2.2.2.1]

variable [FloorRing K] {source : StatefulRiskSource K}

/-- The points of a source are the buckets it is answered with, the last dated in the window. -/
theorem mem_portfolioPoints
    (hiso : ∀ d : Date, runtime.texts.fromisoformat d.isoformat = some d)
    (hanswers : AnswersBuckets runtime days stateful)
    (hwindow : buildReturnsSeriesWindow stateful.periods stateful.asOfDate = .ok window)
    (hasks : window.Asks stateful.asOfDate start stop)
    (hbuckets : resampleReturns (days.between start stop) stateful.options.frequency = .ok buckets)
    (h : Sourced runtime (stateful.withCurrency currency) source sourceResponse series
      returnedPoints) :
    ∀ point, point ∈ source.portfolioPoints ↔
      ∃ q ∈ buckets.points, point = ⟨min q.1 stop, q.2⟩ := by
  have hpayload : source.sourcePayload.window = window := by
    obtain ⟨_, hwindow', hdone⟩ := bind_eq_ok.1 h.request
    cases hwindow.symm.trans hwindow'
    rw [← Except.ok.inj hdone]
  have hrange : source.sourcePayload.window.Asks stateful.asOfDate start stop := by
    rw [hpayload]
    exact hasks
  obtain ⟨hseries, _, hpoints⟩ := extractRequiredPortfolioReturns_spec h.returns
  have hreturned : ∀ point, point ∈ returnedPoints ↔
      (point.date, point.value) ∈ buckets.points := by
    intro point
    exact hpoints.mem_iff.trans (hanswers currency source.sourcePayload sourceResponse series start
      stop buckets h.request hrange h.response hseries hbuckets point)
  obtain ⟨_, hvalid, hnormalized⟩ := bind_eq_ok.1 h.normalized
  split at hnormalized
  · rename_i hdaily
    cases hnormalized
    have hfrequency : stateful.options.frequency = .daily := hdaily
    rw [hfrequency] at hbuckets
    cases (resampleReturns_daily _).symm.trans hbuckets
    intro point
    rw [hreturned]
    constructor
    · intro hpoint
      refine ⟨_, hpoint, ?_⟩
      rw [min_eq_left (Series.mem_between.1 hpoint).2.2]
    · rintro ⟨q, hq, rfl⟩
      rw [min_eq_left (Series.mem_between.1 hq).2.2]
      exact hq
  · have hreturns : extractRequiredPortfolioReturns runtime.texts runtime.float sourceResponse
        (stateful.withCurrency currency).identity.frequency = .ok (series, returnedPoints) :=
      h.returns
    obtain ⟨startDate, endDate, hresolved, _⟩ := admittedReturns_of_ordered hreturns h.admitted
    rw [windowDate_end hiso hrange hresolved] at hnormalized
    rw [← Except.ok.inj hnormalized]
    intro point
    rw [List.mem_map]
    constructor
    · rintro ⟨point, hpoint, rfl⟩
      exact ⟨_, (hreturned point).1 hpoint, rfl⟩
    · rintro ⟨q, hq, rfl⟩
      exact ⟨⟨q.1, q.2⟩, (hreturned _).2 hq, rfl⟩

end Answers

section Reports

variable {K : Type} [Field K] [LinearOrder K] [FloorRing K] {runtime : RiskRuntime K}
  {days buckets : Series Date K} {stateful : StatefulRiskInput K} {source : StatefulRiskSource K}

def StatefulRiskInput.withFrequency (stateful : StatefulRiskInput K) (frequency : Frequency) :
    StatefulRiskInput K := { stateful with options := stateful.options.withFrequency frequency }

/-- The request at a frequency, with other options of the value at risk. -/
def StatefulRiskInput.sampledBy (stateful : StatefulRiskInput K) (frequency : Frequency)
    (useLogReturns : Bool) (var : VaROptions K) : StatefulRiskInput K :=
  { stateful with
    options :=
      { stateful.options with frequency := frequency, useLogReturns := useLogReturns, var := var } }

/-- The value at risk that a stateful run reports of a period. -/
def statefulVar (runtime : RiskRuntime K) (stateful : StatefulRiskInput K)
    (period : RiskRequestPeriod) : Option (RiskValue K) :=
  match calculateRiskStateful runtime stateful with
  | .ok results => reportedMetric results period .var
  | .error _ => none

/-- Its value and its expected shortfall. -/
def statefulVarNumbers (runtime : RiskRuntime K) (stateful : StatefulRiskInput K)
    (period : RiskRequestPeriod) : Option (Option K × Option (DetailValue K)) :=
  (statefulVar runtime stateful period).map varNumbers

/-- The returns of a period are its sourced buckets: none is dated before the open date. -/
theorem readsBuckets_of_source {request : StatelessRiskInput K}
    (hne : source.portfolioPoints ≠ [])
    (hpoints : ∀ point, point ∈ source.portfolioPoints ↔
      ∃ q ∈ buckets.points, point = ⟨min q.1 stop, q.2⟩)
    (hon : CalculatesOn runtime stateful source request) :
    ReadsBuckets stop first last buckets
      (request.window (max first request.portfolioOpenDate) last) := by
  intro p
  have hsource : (⟨p.1, p.2⟩ : ReturnPoint K) ∈ source.portfolioPoints ↔
      ∃ q ∈ buckets.points, p = (min q.1 stop, q.2) := by
    rw [hpoints]
    constructor
    · rintro ⟨q, hq, heq⟩
      rw [ReturnPoint.mk.injEq] at heq
      exact ⟨q, hq, Prod.ext heq.1 heq.2⟩
    · rintro ⟨q, hq, rfl⟩
      exact ⟨q, hq, rfl⟩
  rw [StatelessRiskInput.window, Series.mem_between, mem_returnsFrame, exists_datedValue,
    hon.returns, ← hsource]
  constructor
  · rintro ⟨hp, hstart, hlast⟩
    exact ⟨hp, (le_max_left _ _).trans hstart, hlast⟩
  · rintro ⟨hp, hfirst, hlast⟩
    refine ⟨hp, max_le hfirst ?_, hlast⟩
    rw [hon.portfolioOpenDate]
    exact (portfolioOpenDate_spec hne stateful.asOfDate).2 _ hp

variable [IsStrictOrderedRing K]

/-- A run reports the value at risk of the buckets that it sources, as that of days. -/
theorem statefulVarNumbers_eq
    (hiso : ∀ d : Date, runtime.texts.fromisoformat d.isoformat = some d)
    (hanswers : AnswersBuckets runtime days stateful) (hperiod : period ∈ stateful.periods)
    (hvar : .var ∈ stateful.metrics)
    (hwindow : buildReturnsSeriesWindow stateful.periods stateful.asOfDate = .ok window)
    (hasks : window.Asks stateful.asOfDate start stop)
    (hbuckets : resampleReturns (days.between start stop) stateful.options.frequency = .ok buckets)
    (hrange : resolvePeriod period stateful.asOfDate dateMin = .ok (first, last))
    (h : calculateRiskStateful runtime stateful = .ok results) :
    statefulVarNumbers runtime stateful period =
      some (sampledNumbers runtime.math stateful.options.useLogReturns stateful.options.var
        (sampleWithin stop first last buckets)) := by
  obtain ⟨currency, source, request, _, hsource, hon, hrisk⟩ := calculateRiskStateful_ok h
  obtain ⟨sourceResponse, series, returnedPoints, hsourced⟩ := fetchStatefulRiskSource_ok hsource
  have hpoints := mem_portfolioPoints hiso hanswers hwindow hasks hbuckets hsourced
  have hne : request.returns ≠ [] := by
    rw [hon.returns]
    exact hsourced.nonempty
  have hmember : period ∈ request.periods := by
    rw [hon.periods]
    exact hperiod
  obtain ⟨rates, start', last', result, _, _, hrange', hresult, hget⟩ :=
    period_of_calculateRisk hrisk hne hmember
  obtain ⟨first', hfirst', rfl⟩ := resolvePeriod_openDate hrange'
  rw [hon.asOfDate] at hfirst'
  cases hrange.symm.trans hfirst'
  have hreads : ReadsBuckets stop first last buckets
      (request.window (max first request.portfolioOpenDate) last) :=
    readsBuckets_of_source hsourced.nonempty hpoints hon
  obtain ⟨out, hout⟩ := hreads.resampled hbuckets
  have hrequested : .var ∈ request.metrics := by
    rw [hon.metrics]
    exact hvar
  obtain ⟨v, hv, hentry⟩ := var_of_period hresult hrequested
  obtain ⟨mode, rate, hfields⟩ :=
    optionsWithSourcedRiskFree_fields stateful.options source.riskFreePoints
  have hoptions : request.options = _ := hon.options.trans hfields
  change varReport runtime.math request.options
    (request.window (max first request.portfolioOpenDate) last) = .ok v at hv
  rw [hoptions] at hv
  have hdaily := (varReport_of_resampled runtime.math _ hout).symm.trans hv
  rw [statefulVarNumbers, statefulVar, h]
  change Option.map varNumbers (reportedMetric results period .var) = _
  rw [reportedMetric_eq hget hentry, Option.map_some, varNumbers_varReport rfl hdaily,
    hreads.values_eq (bucketsOf_resampled hbuckets)]
  rfl

omit [FloorRing K] [IsStrictOrderedRing K] in
theorem optionsWithSourcedRiskFree_sampled (options : RiskOptions K)
    (points : List (ReturnPoint K)) :
    optionsWithSourcedRiskFree { options with useLogReturns := useLogReturns, var := var } points =
      { optionsWithSourcedRiskFree options points with
        useLogReturns := useLogReturns
        var := var } := by
  have hfactor : annualizationFactorForOptions
      { options with useLogReturns := useLogReturns, var := var } =
        annualizationFactorForOptions options := rfl
  rw [optionsWithSourcedRiskFree, optionsWithSourcedRiskFree, hfactor]
  split
  · rfl
  · rfl

omit [IsStrictOrderedRing K] in
/-- The input for a calculation depends on the periods and the source. -/
theorem exists_statelessInput (stateful stateful' : StatefulRiskInput K)
    (hperiods : stateful'.periods = stateful.periods)
    (h : buildStatefulStatelessRiskInput stateful source = .ok request) :
    ∃ request', buildStatefulStatelessRiskInput stateful' source = .ok request' := by
  rw [buildStatefulStatelessRiskInput] at h
  split at h
  · cases h
  · rename_i hvalid
    rw [← hperiods] at hvalid
    rw [buildStatefulStatelessRiskInput]
    split
    · rename_i hinvalid
      cases hvalid.symm.trans hinvalid
    · exact ⟨_, rfl⟩

omit [FloorRing K] [IsStrictOrderedRing K] in
theorem beyondFloat_factor {options : RiskOptions K}
    (hfactor : ∀ factor ∈ options.annualizationFactor, beyondFloat factor = false) :
    beyondFloat (annualizationFactorForOptions options) = false := by
  have hdefault : ∀ frequency : Frequency, beyondFloat frequency.annualizationFactor = false := by
    intro frequency
    cases frequency <;> decide +kernel
  rw [annualizationFactorForOptions]
  cases hoverride : options.annualizationFactor with
  | none => exact hdefault options.frequency
  | some factor => exact hfactor factor hoverride

omit [IsStrictOrderedRing K] in
/-- A run that succeeds with some options of the value at risk succeeds with all whose horizon has
a square root. -/
theorem exists_sampledRun
    (hfactor : ∀ factor ∈ stateful.options.annualizationFactor, beyondFloat factor = false)
    (h : calculateRiskStateful runtime (stateful.withFrequency frequency) = .ok results)
    (useLogReturns : Bool) {var : VaROptions K} (hscales : var.Scales) :
    ∃ results, calculateRiskStateful runtime (stateful.sampledBy frequency useLogReturns var) =
      .ok results := by
  obtain ⟨currency, hcurrency, h⟩ := bind_eq_ok.1 h
  obtain ⟨source, hsource, h⟩ := bind_eq_ok.1 h
  obtain ⟨request, hrequest, hrisk⟩ := bind_eq_ok.1 h
  have hbuilt := SourceException.ofPython_eq_ok.1 hrequest
  have hon : CalculatesOn runtime ((stateful.withFrequency frequency).withCurrency currency)
      source request := buildStatefulStatelessRiskInput_ok hbuilt
  obtain ⟨sourceResponse, series, returnedPoints, hsourced⟩ := fetchStatefulRiskSource_ok hsource
  -- what is sourced does not depend on the options of the value at risk
  have hsource' : fetchStatefulRiskSource runtime
      ((stateful.sampledBy frequency useLogReturns var).withCurrency currency) = .ok source :=
    hsource
  obtain ⟨request', hbuilt'⟩ := exists_statelessInput
    ((stateful.withFrequency frequency).withCurrency currency)
    ((stateful.sampledBy frequency useLogReturns var).withCurrency currency) rfl hbuilt
  have hon' : CalculatesOn runtime
      ((stateful.sampledBy frequency useLogReturns var).withCurrency currency) source request' :=
    buildStatefulStatelessRiskInput_ok hbuilt'
  have hoptions : request'.options =
      { request.options with useLogReturns := useLogReturns, var := var } := by
    rw [hon'.options, hon.options, ← optionsWithSourcedRiskFree_sampled]
    rfl
  have hsame : annualizationFactorForOptions request'.options =
      annualizationFactorForOptions request.options := by
    rw [hoptions]
    rfl
  have hscaled : beyondFloat (annualizationFactorForOptions request'.options) = false := by
    obtain ⟨mode, rate, hfields⟩ := optionsWithSourcedRiskFree_fields
      (stateful.sampledBy frequency useLogReturns var).options source.riskFreePoints
    have hfields' : request'.options = _ := hon'.options.trans hfields
    rw [hfields']
    exact beyondFloat_factor hfactor
  obtain ⟨⟨rates, hrates⟩, hranges⟩ :=
    resolves_of_calculateRisk (hon.returns ▸ hsourced.nonempty) hrisk
  have hresolves : (∃ rates, resolvePeriodicRates runtime.math.pow request'.options
      (annualizationFactorForOptions request'.options) = .ok rates) ∧
      ∀ period ∈ request'.periods, ∃ range,
        resolvePeriod period request'.asOfDate request'.portfolioOpenDate = .ok range := by
    rw [hsame, hoptions, hon'.periods, hon'.asOfDate, hon'.portfolioOpenDate]
    rw [hon.periods, hon.asOfDate, hon.portfolioOpenDate] at hranges
    exact ⟨⟨rates, hrates⟩, hranges⟩
  obtain ⟨results', hrisk'⟩ := (exists_calculateRisk (hon'.returns ▸ hsourced.nonempty)
    ⟨hscaled, by rw [hoptions]; exact hscales⟩).2 hresolves
  exact ⟨results', bind_eq_ok.2 ⟨currency, hcurrency, bind_eq_ok.2 ⟨source, hsource',
    bind_eq_ok.2 ⟨request', SourceException.ofPython_eq_ok.2 hbuilt', hrisk'⟩⟩⟩⟩

/-- Under all options whose horizon has a square root, a request reports the sample of its
frequency. -/
theorem statefulVarNumbers_sampledBy
    (hiso : ∀ d : Date, runtime.texts.fromisoformat d.isoformat = some d)
    (hfactor : ∀ factor ∈ stateful.options.annualizationFactor, beyondFloat factor = false)
    (hanswers : AnswersBuckets runtime days (stateful.withFrequency frequency))
    (hperiod : period ∈ stateful.periods) (hvar : .var ∈ stateful.metrics)
    (hwindow : buildReturnsSeriesWindow stateful.periods stateful.asOfDate = .ok window)
    (hasks : window.Asks stateful.asOfDate start stop)
    (hrange : resolvePeriod period stateful.asOfDate dateMin = .ok (first, last))
    (hbuckets : resampleReturns (days.between start stop) frequency = .ok buckets)
    (hruns : calculateRiskStateful runtime (stateful.withFrequency frequency) = .ok results)
    (useLogReturns : Bool) {var : VaROptions K} (hscales : var.Scales) :
    statefulVarNumbers runtime (stateful.sampledBy frequency useLogReturns var) period =
      some (sampledNumbers runtime.math useLogReturns var
        (sampleWithin stop first last buckets)) := by
  obtain ⟨_, hsampled⟩ := exists_sampledRun hfactor hruns useLogReturns hscales
  exact statefulVarNumbers_eq hiso hanswers hperiod hvar hwindow hasks hbuckets hrange hsampled

end Reports

section Weeks

/-- The row of a return, as a ratio. -/
def bucketReturnRow (p : Date × ℚ) : PyValue ℚ :=
  returnRow p.1 (.float (.finite (fromPercent p.2)))

/-- Services that compound the days of a window into the buckets of the requested frequency. -/
def compoundingPerformance (days : Series Date ℚ) : LotusPerformanceClient ℚ where
  getReturnsSeries request :=
    match (isoDate request.asOfDate).bind (fun asOf => windowBounds asOf request.window) with
    | some (start, stop) =>
      match resampleReturns (days.between start stop) request.frequency with
      | .ok buckets =>
        .ok (seriesResponse request start stop (buckets.points.map bucketReturnRow) [])
      | .error _ => .error unavailable
    | none => .error unavailable

def compoundingRuntime (days : Series Date ℚ) : RiskRuntime ℚ where
  texts := plainTexts
  float := PyNumber.finite
  coercions := plainCoercions
  math := symmetricMath
  performanceClient := compoundingPerformance days
  coreClient := none

theorem fromisoformat_plainTexts [FloatOps K] (d : Date) :
    (plainTexts : PyTexts K).fromisoformat d.isoformat = some d := by
  simp only [plainTexts, isoDate_isoformat]

theorem inPercent_fromPercent (value : ℚ) : inPercent (fromPercent value) = value :=
  div_mul_cancel₀ value (by norm_num)

/-- A row of a bucket is read as its return. -/
theorem readFrom_bucketReturnRow (h : dateMatchesFrequency p.1 frequency = true) :
    ReadFrom plainTexts PyNumber.finite frequency (bucketReturnRow p) point ↔
      (point.date, point.value) = p := by
  have hdate : countedDate plainTexts frequency (bucketReturnRow p) = some p.1 := by
    have hentry : getEntry [("date", PyValue.str p.1.isoformat),
        ("return_value", .float (.finite (fromPercent p.2)))] "date" = .str p.1.isoformat := rfl
    simp only [countedDate, bucketReturnRow, returnRow, hentry]
    rw [fromisoformat_plainTexts, Option.filter_some, if_pos h]
  have hrow : ∃ entries, bucketReturnRow p = .dict entries ∧
      plainTexts.toDecimal (getEntry entries "return_value") =
        some (.finite (fromPercent p.2)) := ⟨_, rfl, rfl⟩
  obtain ⟨entries, hentries, hvalue⟩ := hrow
  rw [ReadFrom, hdate, hentries]
  constructor
  · rintro ⟨hd, entries', x, hsame, hx, hpoint⟩
    rw [← PyValue.dict.inj hsame, hvalue] at hx
    rw [← PyNumber.finite.inj (Option.some.inj hx), inPercent_fromPercent] at hpoint
    exact Prod.ext (Option.some.inj hd).symm (PyNumber.finite.inj hpoint).symm
  · rintro rfl
    exact ⟨rfl, entries, _, rfl, hvalue, congrArg PyNumber.finite (inPercent_fromPercent _)⟩

theorem answersBuckets_compounding {days : Series Date ℚ} {stateful : StatefulRiskInput ℚ}
    (htrading : ∀ d ∈ days.index, isTradingDay d = true) :
    AnswersBuckets (compoundingRuntime days) days stateful := by
  intro currency request response series start stop buckets hrequest hasks hresponse hseries
    hbuckets point
  obtain ⟨_, _, hdone⟩ := bind_eq_ok.1 hrequest
  have hasOf : request.asOfDate = stateful.asOfDate.isoformat := by
    rw [← Except.ok.inj hdone]
    rfl
  have hfrequency : request.frequency = stateful.options.frequency := by
    rw [← Except.ok.inj hdone]
    rfl
  simp only [compoundingRuntime, compoundingPerformance, hasOf, isoDate_isoformat, Option.bind_some,
    windowBounds_of_asks hasks, hfrequency, hbuckets] at hresponse
  cases hresponse
  cases hseries
  have hmatches : ∀ p ∈ buckets.points, dateMatchesFrequency p.1 stateful.options.frequency =
      true := by
    intro p hp
    rw [dateMatchesFrequency_iff]
    refine ⟨(bucketsOf_resampled hbuckets).dated p hp, ?_⟩
    intro hdaily
    rw [hdaily] at hbuckets
    cases (resampleReturns_daily _).symm.trans hbuckets
    exact htrading _ (Series.mem_index (Series.mem_between.1 hp).1)
  change (∃ row ∈ buckets.points.map bucketReturnRow, ReadFrom plainTexts PyNumber.finite
    stateful.options.frequency row point) ↔ _
  constructor
  · rintro ⟨row, hrow, hread⟩
    obtain ⟨p, hp, rfl⟩ := List.mem_map.1 hrow
    rw [(readFrom_bucketReturnRow (hmatches p hp)).1 hread]
    exact hp
  · intro hp
    exact ⟨_, List.mem_map_of_mem hp, (readFrom_bucketReturnRow (hmatches _ hp)).2 rfl⟩

def secondFriday : Date := twoFridays.getD 1 firstMonday

/-- Two weeks to a Friday. -/
def twoWeeksPeriod : RiskRequestPeriod :=
  explicitPeriod "TWO_WEEKS" firstMonday secondFriday

theorem twoWeeksPeriod_named :
    ([twoWeeksPeriod].map RiskRequestPeriod.resolvedName).Nodup := List.nodup_singleton _

/-- Two days of each week. -/
def fourDays : List Date := twoWeeks ++ [⟨2026, 1, 13, by decide⟩]

/-- A loss of a tenth on each day. -/
def fallingWeeks : Series Date ℚ where
  index := fourDays
  values := [-10, -10, -10, -10]
  length_values := rfl
  ascending := by decide

def mondays : List Date := [firstMonday, twoWeeks.getD 2 firstMonday]

/-- A return on one day of each week. -/
def mondayReturns : Series Date ℚ where
  index := mondays
  values := [-10, 5]
  length_values := rfl
  ascending := by decide

def twoWeeksRequest : StatefulRiskInput ℚ where
  portfolioId := "P1"
  asOfDate := secondFriday
  reportingCurrency := some "USD"
  benchmarkId := none
  netOrGross := .net
  periods := [twoWeeksPeriod]
  metrics := [.var]
  options := defaultRiskOptions
  names_unique := twoWeeksPeriod_named

def gaussianVar : VaROptions ℚ := { defaultVarOptions with method := .gaussian }

def twoWeeksInput : StatefulRiskInput ℚ := twoWeeksRequest.sampledBy .daily false gaussianVar

/-- The value that is reported of a period, and the sampling that it is said to have. -/
def reportedSampling (days : Series Date ℚ) (frequency : Frequency) :
    Option (Option ℚ × Option (DetailValue ℚ)) :=
  (statefulVar (compoundingRuntime days) (twoWeeksInput.withFrequency frequency)
    twoWeeksPeriod).map fun v =>
      (v.value, v.details.bind fun details => details.get? "sampling_frequency")

end Weeks

end LotusRisk
