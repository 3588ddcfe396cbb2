import LotusRisk.Risk.MandateHealth
import LotusRisk.Rolling.Engine

/-! The rolling metrics against a benchmark, and the risk calculation of the days of a window. -/

namespace LotusRisk
set_option autoImplicit true

open Relational Raising TrailingWindows

section Values

variable {K : Type} [Field K] [LinearOrder K] (math : PyMath K)

/-- The value at a window of decimal returns beside those of the benchmark. -/
def windowMetric (basis : Nat) : BenchmarkMetric → List (K × K) → Option K
  | .beta, w => quotient (windowCov w) (windowVar w)
  | .trackingError, w =>
    (windowStd math (w.map activeReturn)).map fun value => value * math.sqrt basis
  | .informationRatio, w =>
    (quotient (windowMean (w.map activeReturn)) (windowStd math (w.map activeReturn))).map
      fun value => value * math.sqrt basis

variable {math} {context : RollingMetricCalculationContext K}

theorem quotient_none_none : quotient (none : Option K) none = none := rfl

theorem annualized_none : annualized math context none = none := rfl

/-- The values of the aligned returns. -/
theorem aligned_values (math : PyMath K) (hvalid : validateRolling context = .ok ())
    (aligned : Series Date (K × K)) (metric : BenchmarkMetric) :
    ∃ result, calculateAlignedRollingBenchmarkMetric math context aligned metric = .ok result ∧
      result.1.index = aligned.index ∧ result.1.values =
        rollingList context (windowMetric math context.annualizationBasis metric)
          aligned.values := by
  cases metric with
  | beta =>
    rw [calculateAlignedRollingBenchmarkMetric, rollingBetaMetric, hvalid]
    exact ⟨_, rfl, rfl, zipWith_rolling quotient_none_none _ _ _⟩
  | trackingError =>
    rw [calculateAlignedRollingBenchmarkMetric, rollingTrackingError, rollingVolatility, hvalid]
    refine ⟨_, rfl, rfl, ?_⟩
    change ((rolling _ _ _ (aligned.values.map activeReturn)).map _) = _
    rw [rolling_map, map_rolling annualized_none]
    rfl
  | informationRatio =>
    rw [calculateAlignedRollingBenchmarkMetric, rollingInformationRatio, rollingActiveRatio, hvalid]
    refine ⟨_, rfl, rfl, ?_⟩
    change ((List.zipWith quotient (rolling _ _ _ (aligned.values.map activeReturn))
      (rolling _ _ _ (aligned.values.map activeReturn))).map _) = _
    rw [rolling_map, rolling_map, zipWith_rolling quotient_none_none, map_rolling annualized_none]
    rfl

/-- A benchmark metric rolls over the returns of the days on both sides. -/
theorem benchmark_values (math : PyMath K) (context : RollingMetricCalculationContext K)
    (hvalid : validateRolling context = .ok ()) (metric : BenchmarkMetric) :
    ∃ calculation, calculateRollingMetricValues math context (.benchmark metric) = .ok calculation ∧
      calculation.values.index =
        (context.portfolioDecimal.innerJoin context.benchmarkDecimal).index ∧
      calculation.values.values =
        rollingList context (windowMetric math context.annualizationBasis metric)
          (context.portfolioDecimal.innerJoin context.benchmarkDecimal).values := by
  rw [calculateRollingMetricValues, calculateRollingBenchmarkMetricValues]
  cases hempty : (context.portfolioDecimal.innerJoin context.benchmarkDecimal).isEmpty with
  | true =>
    have hindex : (context.portfolioDecimal.innerJoin context.benchmarkDecimal).index = [] :=
      List.isEmpty_iff.1 hempty
    have hvalues : (context.portfolioDecimal.innerJoin context.benchmarkDecimal).values = [] := by
      rw [← List.length_eq_zero_iff, Series.length_values, hindex]
      rfl
    refine ⟨_, rfl, hindex.symm, ?_⟩
    rw [hvalues]
    rfl
  | false =>
    obtain ⟨result, hresult, hindex, hvalues⟩ := aligned_values math hvalid
      (context.portfolioDecimal.innerJoin context.benchmarkDecimal) metric
    rw [if_neg Bool.false_ne_true, hresult]
    exact ⟨_, rfl, hindex, hvalues⟩

end Values

section Scale

variable {K : Type} [Field K] [LinearOrder K] {math : PyMath K}

omit [LinearOrder K] in
/-- Two returns in percentage points, as decimals. -/
def decimals (p : K × K) : K × K := (fromPercent p.1, fromPercent p.2)

omit [LinearOrder K] in
/-- A reported metric of returns in percentage points, as one of decimals. -/
def BenchmarkMetric.ofReport : BenchmarkMetric → K → K
  | .trackingError, y => fromPercent y
  | _, y => y

omit [LinearOrder K] in
theorem fromPercent_eq (x : K) : fromPercent x = 1 / 100 * x := by rw [fromPercent]; ring

omit [LinearOrder K] in
theorem mean_fromPercent (w : List (K × K)) (f : K × K → K) :
    mean (w.map fun p => fromPercent (f p)) = fromPercent (mean (w.map f)) := by
  simp only [fromPercent_eq, mean, List.sum_map_mul_left, List.length_map, mul_div_assoc]

omit [LinearOrder K] in
theorem sampleCovariance_fromPercent (w : List (K × K)) (f g : K × K → K) :
    sampleCovariance (w.map fun p => fromPercent (f p)) (w.map fun p => fromPercent (g p)) =
      fromPercent (fromPercent (sampleCovariance (w.map f) (w.map g))) := by
  simp only [sampleCovariance_pairs, fromPercent_eq]
  rw [Sampling.covariance_mul_left, Sampling.covariance_comm, Sampling.covariance_mul_left,
    Sampling.covariance_comm]

omit [LinearOrder K] in
theorem active_decimals (w : List (K × K)) :
    (w.map decimals).map activeReturn = w.map fun p => fromPercent (activeReturn p) := by
  rw [List.map_map]
  apply List.map_congr_left
  intro p _
  exact (sub_div p.1 p.2 100).symm

variable [IsStrictOrderedRing K]

/-- The square root is the number that squares to it. -/
theorem sqrt_unique (hsqrt : math.IsSquareRoot) (hx : 0 ≤ x) (hy : 0 ≤ y) (h : y * y = x) :
    math.sqrt x = y :=
  (mul_self_inj (math.sqrt_nonneg x) hy).1 ((hsqrt x hx).trans h.symm)

theorem sampleStd_fromPercent (hsqrt : math.IsSquareRoot) {w : List (K × K)} (hne : w ≠ [])
    (f : K × K → K) : sampleStd math (w.map fun p => fromPercent (f p)) =
      fromPercent (sampleStd math (w.map f)) := by
  have hvariance : 0 ≤ sampleCovariance (w.map f) (w.map f) := by
    rw [sampleCovariance_pairs]
    exact Sampling.covariance_self_nonneg w f hne
  have hpercent : (0 : K) ≤ 100 := by norm_num
  rw [sampleStd, sampleCovariance_fromPercent]
  apply sqrt_unique hsqrt
  · exact div_nonneg (div_nonneg hvariance hpercent) hpercent
  · exact div_nonneg (math.sqrt_nonneg _) hpercent
  · rw [fromPercent, fromPercent, fromPercent, div_mul_div_comm, sampleStd, hsqrt _ hvariance,
      div_div]

theorem fromPercent_ne_zero {x : K} (h : x ≠ 0) : fromPercent x ≠ 0 :=
  div_ne_zero h (by norm_num)

theorem fromPercent_div (x y : K) : fromPercent x / fromPercent y = x / y :=
  div_div_div_cancel_right₀ (by norm_num) x y

/-- What the risk calculation reports of a window is the rolling value of its decimals. -/
theorem windowMetric_of_report (hsqrt : math.IsSquareRoot) {w : List (K × K)}
    (hlength : 2 ≤ w.length) (h : calculateBenchmarkMetric math (w.map Prod.fst) (w.map Prod.snd)
      basis metric = .ok v) :
    ∃ y, v.value = some y ∧
      windowMetric math basis metric (w.map decimals) = some (metric.ofReport y) := by
  have hlong : ¬(w.map decimals).length < 2 := by rw [List.length_map]; exact not_lt.2 hlength
  have hactive : ¬((w.map decimals).map activeReturn).length < 2 := by
    rw [List.length_map]
    exact hlong
  have hne : w ≠ [] := List.ne_nil_of_length_pos (by omega)
  have hfst : (w.map decimals).map Prod.fst = w.map fun p => fromPercent p.1 := List.map_map
  have hsnd : (w.map decimals).map Prod.snd = w.map fun p => fromPercent p.2 := List.map_map
  cases metric with
  | beta =>
    obtain ⟨_, hraise, hdone⟩ := bind_eq_ok.1 h
    cases hdone
    have hvariance : fromPercent (fromPercent (sampleCovariance (w.map Prod.snd)
        (w.map Prod.snd))) ≠ 0 :=
      fromPercent_ne_zero (fromPercent_ne_zero (ne_zero_of_not_close (not_close_of_raiseIf hraise)))
    refine ⟨_, rfl, ?_⟩
    rw [windowMetric, windowCov, windowVar, if_neg hlong, if_neg hlong, hfst, hsnd,
      sampleCovariance_fromPercent, sampleCovariance_fromPercent, quotient, if_neg hvariance,
      fromPercent_div, fromPercent_div]
    rfl
  | trackingError =>
    obtain ⟨active, hzip, hvalue, _⟩ := trackingError_of_ok h
    rw [active_eq_map] at hzip
    subst hzip
    refine ⟨_, hvalue, ?_⟩
    rw [windowMetric, windowStd, if_neg hactive, active_decimals, sampleStd_fromPercent hsqrt hne,
      Option.map_some, BenchmarkMetric.ofReport, fromPercent, fromPercent, div_mul_eq_mul_div]
  | informationRatio =>
    obtain ⟨active, hzip, hclose, hvalue, _⟩ := informationRatio_of_ok h
    rw [active_eq_map] at hzip
    subst hzip
    have hdeviation := fromPercent_ne_zero (ne_zero_of_not_close hclose)
    refine ⟨_, hvalue, ?_⟩
    rw [windowMetric, windowMean, windowStd, if_neg hactive, active_decimals, mean_fromPercent,
      sampleStd_fromPercent hsqrt hne, if_neg, quotient, if_neg hdeviation, fromPercent_div]
    · rfl
    · rw [List.isEmpty_iff, List.map_eq_nil_iff]
      exact hne

end Scale

section Ranges

theorem range_dates (start stop : Date) (_ : PeriodType.explicit = .explicit) :
    (some start).isSome ∧ (some stop).isSome := ⟨rfl, rfl⟩

theorem explicit_not_year (h : PeriodType.explicit = .year) : (none : Option Int).isSome := by
  cases h

/-- The days from one date to another. -/
def rangePeriod (start stop : Date) : RiskRequestPeriod where
  type := .explicit
  name := none
  fromDate := some start
  toDate := some stop
  year := none
  explicit_dates := range_dates start stop
  year_given := explicit_not_year

theorem resolve_range (start stop asOf : Date) :
    resolvePeriod (rangePeriod start stop) asOf start = .ok (start, stop) := by
  have hresolved : resolvePeriod (rangePeriod start stop) asOf start =
      .ok (max start start, stop) := rfl
  rw [hresolved, max_self]

theorem RollingOptions.basis_pos (options : RollingOptions) : 0 < options.annualizationBasis := by
  have hfields := (modelValidation_eq_ok options.accepted).1
  rw [RollingOptionsFields.fieldErrors, List.append_eq_nil_iff] at hfields
  by_contra hzero
  have hlow : options.annualizationBasis < 1 := by omega
  rw [if_pos hlow] at hfields
  cases hfields.2

variable {K : Type} [Field K] [LinearOrder K] [IsStrictOrderedRing K]

theorem RollingOptions.annualization_pos (options : RollingOptions) :
    ∀ factor ∈ some options.annualizationBasis, 0 < factor := by
  intro factor hfactor
  cases hfactor
  exact options.basis_pos

/-- The options of a daily risk calculation with the basis of rolling metrics. -/
def RollingOptions.riskOptions (options : RollingOptions) : RiskOptions K :=
  { (defaultRiskOptions : RiskOptions K) with
    annualizationFactor := some options.annualizationBasis
    annualization_pos := options.annualization_pos }

theorem range_names (start stop : Date) :
    ([rangePeriod start stop].map RiskRequestPeriod.resolvedName).Nodup := List.nodup_singleton _

omit [Field K] [LinearOrder K] [IsStrictOrderedRing K] in
theorem RollingStatelessInput.distinct_returns (request : RollingStatelessInput K) :
    (request.returns.map ReturnPoint.date).Nodup := request.admitted.returns_unique

omit [Field K] [LinearOrder K] [IsStrictOrderedRing K] in
theorem RollingStatelessInput.distinct_benchmark (request : RollingStatelessInput K) :
    (request.benchmarkReturns.map ReturnPoint.date).Nodup := request.admitted.benchmark_unique

/-- The risk calculation of a metric over a range of days, on the returns of a rolling request. -/
def rangeRequest (request : RollingStatelessInput K) (metric : BenchmarkMetric)
    (start stop : Date) : StatelessRiskInput K where
  asOfDate := stop
  periods := [rangePeriod start stop]
  metrics := [.benchmark metric]
  options := request.rollingOptions.riskOptions
  portfolioOpenDate := start
  returns := request.returns
  benchmarkReturns := request.benchmarkReturns
  names_unique := range_names start stop
  returns_unique := request.distinct_returns
  benchmark_unique := request.distinct_benchmark

theorem range_calculates [FloorRing K] (math : PyMath K) {request : RollingStatelessInput K}
    (hne : request.returns ≠ [])
    (hbasis : beyondFloat request.rollingOptions.annualizationBasis = false)
    (metric : BenchmarkMetric) (start stop : Date)
    (hlength : 2 ≤ ((rangeRequest request metric start stop).alignedReturns start stop).length) :
    ∃ results v, calculateRisk math (rangeRequest request metric start stop) = .ok results ∧
      reportedMetric results (rangePeriod start stop) (.benchmark metric) = some v ∧
      catchValueError (calculateBenchmarkMetric math
        (((rangeRequest request metric start stop).alignedReturns start stop).map Prod.fst)
        (((rangeRequest request metric start stop).alignedReturns start stop).map Prod.snd)
        request.rollingOptions.annualizationBasis metric) metricError = .ok v := by
  have hscales : (rangeRequest request metric start stop).HasScales := ⟨hbasis, day_scales⟩
  obtain ⟨results, hresults⟩ : ∃ results,
      calculateRisk math (rangeRequest request metric start stop) = .ok results := by
    refine (exists_calculateRisk hne hscales).2
      ⟨resolvePeriodicRates_zero math.pow rfl rfl _, ?_⟩
    intro period hperiod
    rw [List.mem_singleton.1 hperiod]
    exact ⟨_, resolve_range start stop stop⟩
  obtain ⟨rates, start', stop', result, _, hfactor, hrange, hresult, hget⟩ :=
    period_of_calculateRisk hresults hne (List.mem_singleton_self _)
  cases (resolve_range start stop stop).symm.trans hrange
  obtain ⟨v, hreport, hentry⟩ := benchmark_of_period hresult (List.mem_singleton_self _)
  rcases alignedPeriodReturns_daily math (rangeRequest request metric start stop) rfl rfl rates
    start stop with ⟨hshort, _⟩ | ⟨_, haligned⟩
  · omega
  · rw [haligned, show (periodCalculation (rangeRequest request metric start stop) rates start
      stop).annualFactor = request.rollingOptions.annualizationBasis from hfactor] at hreport
    exact ⟨results, v, hresults, reportedMetric_eq hget hentry, hreport⟩

end Ranges

section Windows

variable {K : Type} [Field K] [LinearOrder K]

/-- The days of a rolling request with returns on both sides. -/
def commonDays (request : RollingStatelessInput K) : Series Date (K × K) :=
  (buildRollingInputFrames request).portfolio.innerJoin (buildRollingInputFrames request).benchmark

omit [LinearOrder K] in
theorem dependencyPeriod_eq (frame : Series Date K) (start stop : Date) :
    dependencyPeriod frame start stop = (frame.between start stop).map fromPercent := by
  rw [dependencyPeriod]
  split
  · rename_i hempty
    apply Series.ext_points
    rw [Series.points_map, Series.points_between_of_isEmpty hempty]
    rfl
  · rfl

omit [LinearOrder K] in
/-- The decimal returns of a period on both sides. -/
theorem aligned_of_period {request : RollingStatelessInput K}
    (h : rollingPeriodSeries (buildRollingInputFrames request) request period openDate =
      .ok periodSeries) :
    periodSeries.portfolioDecimal.innerJoin periodSeries.benchmarkDecimal =
      ((commonDays request).between periodSeries.start periodSeries.stop).map decimals := by
  obtain ⟨⟨start, stop⟩, _, hdone⟩ := bind_eq_ok.1 h
  cases hdone
  change ((_ : Series Date K).map fromPercent).innerJoin (dependencyPeriod _ start stop) = _
  rw [dependencyPeriod_eq, Series.innerJoin_map, ← Series.between_innerJoin]
  rfl

omit [Field K] [LinearOrder K] in
theorem label_between {s : Series Date α} (hi : i < (s.between first last).index.length) :
    first ≤ (s.between first last).index[i] ∧ (s.between first last).index[i] ≤ last := by
  have hlabel : (s.between first last).index[i] ∈ (s.between first last).points.map Prod.fst := by
    rw [Series.map_fst_points]
    exact List.getElem_mem hi
  obtain ⟨p, hp, heq⟩ := List.mem_map.1 hlabel
  rw [← heq]
  exact (Series.mem_between.1 hp).2

/-- The days from the first of a window to its last are those of the window. -/
theorem values_of_window {s : Series Date α} {width : Nat}
    (hi : i < (s.between first last).index.length)
    (hj : i + 1 - width < (s.between first last).index.length) :
    (s.between (s.between first last).index[i + 1 - width]
      (s.between first last).index[i]).values = window width (s.between first last).values i := by
  rw [← Series.between_between s (label_between hj).1 (label_between hi).2,
    ← Series.map_snd_points, Series.points_between_index hj hi, List.map_drop, List.map_take,
    Series.map_snd_points]
  rfl

/-- A period has as many days up to a position as the position says. -/
theorem length_up_to {s : Series Date α} (hi : i < (s.between first last).index.length) :
    (s.between first (s.between first last).index[i]).values.length = i + 1 := by
  have hzero : 0 < (s.between first last).index.length := Nat.zero_lt_of_lt hi
  have hsame : s.between first (s.between first last).index[i] =
      (s.between first last).between (s.between first last).index[0]
        (s.between first last).index[i] := by
    rw [Series.between_between s (label_between hzero).1 (label_between hi).2]
    apply Series.ext_mem
    intro p
    rw [Series.mem_between, Series.mem_between]
    constructor
    · rintro ⟨hp, hfirst, hday⟩
      refine ⟨hp, ?_, hday⟩
      have hmem : p ∈ (s.between first last).points :=
        Series.mem_between.2 ⟨hp, hfirst, hday.trans (label_between hi).2⟩
      obtain ⟨k, hk, rfl⟩ := List.getElem_of_mem hmem
      have hindex : k < (s.between first last).index.length := by rwa [Series.length_points] at hk
      rw [Series.getElem_points hindex ((s.between first last).length_values ▸ hindex),
        Series.index_le_iff hzero hindex]
      exact Nat.zero_le k
    · rintro ⟨hp, hzero', hday⟩
      exact ⟨hp, (label_between hzero).1.trans hzero', hday⟩
  rw [hsame, Series.length_values, ← Series.length_points, Series.points_between_index hzero hi,
    List.drop_zero, List.length_take, Series.length_points]
  omega

variable [IsStrictOrderedRing K]

/-- The aligned returns of a range are those of its common days. -/
theorem alignedReturns_range (request : RollingStatelessInput K) (metric : BenchmarkMetric)
    (start stop : Date) : (rangeRequest request metric start stop).alignedReturns start stop =
      ((commonDays request).between start stop).values := by
  rw [StatelessRiskInput.alignedReturns, alignedBenchmarkSeries_eq, ← Series.between_innerJoin]
  rfl

omit [Field K] [LinearOrder K] [IsStrictOrderedRing K] in
theorem length_common (request : RollingStatelessInput K) (start stop : Date) :
    (commonReturns request.returns request.benchmarkReturns start stop).length =
      ((commonDays request).between start stop).values.length := by
  rw [length_commonReturns request.admitted.returns_unique request.admitted.benchmark_unique,
    Series.length_values]
  rfl

variable [FloorRing K]

/-- The rolling value of a day agrees with the risk calculation from the first day of its window:
the window holds the last days of the period with returns on both sides, and where they are enough
a number that the calculation reports is the value. -/
structure AgreesFrom (math : PyMath K) (request : RollingStatelessInput K)
    (metric : BenchmarkMetric) (first : Date) (windowLength : Int) (day : Date) (value : Option K)
    (start : Date) : Prop where
  inside : first ≤ start ∧ start ≤ day
  length : (commonReturns request.returns request.benchmarkReturns start day).length =
    min windowLength.toNat (commonReturns request.returns request.benchmarkReturns first day).length
  short : ((commonReturns request.returns request.benchmarkReturns start day).length : Int) <
    minObservations windowLength request.rollingOptions.minObservationsPolicy → value = none
  reported : minObservations windowLength request.rollingOptions.minObservationsPolicy ≤
      (commonReturns request.returns request.benchmarkReturns start day).length →
    ∃ results v, calculateRisk math (rangeRequest request metric start day) = .ok results ∧
      reportedMetric results (rangePeriod start day) (.benchmark metric) = some v ∧
      (∀ y, v.value = some y → value = some (metric.ofReport y)) ∧ (value = none → v.value = none)

omit [FloorRing K] [IsStrictOrderedRing K] in
theorem two_le_minObservations {windowLength : Int} (h : 1 < windowLength)
    (policy : MinObservationsPolicy) : (2 : Int) ≤ minObservations windowLength policy := by
  cases policy with
  | strict => exact h
  | allowPartial => exact le_rfl

omit [Field K] [LinearOrder K] [FloorRing K] [IsStrictOrderedRing K] in
theorem returns_ne_nil {request : RollingStatelessInput K}
    (hi : i < ((commonDays request).between first last).index.length) : request.returns ≠ [] := by
  intro hnil
  have hportfolio : (buildRollingInputFrames request).portfolio.points = [] :=
    Series.isEmpty_iff_points.1
      ((isEmpty_returnsFrame request.returns request.admitted.returns_unique).2 hnil)
  rw [← Series.length_points] at hi
  have hmem := (Series.mem_between.1 (List.getElem_mem hi)).1
  have hpoint := (Series.mem_innerJoin.1 hmem).1
  rw [hportfolio] at hpoint
  cases hpoint

/-- The value at a position of a period, from the window that ends there. -/
theorem agreesFrom_position {math : PyMath K} (hsqrt : math.IsSquareRoot)
    (request : RollingStatelessInput K)
    (hbasis : beyondFloat request.rollingOptions.annualizationBasis = false)
    (metric : BenchmarkMetric) {windowLength : Int}
    (hlong : 1 < windowLength)
    (hi : i < ((commonDays request).between first last).index.length)
    (hj : i + 1 - windowLength.toNat < ((commonDays request).between first last).index.length) :
    AgreesFrom math request metric first windowLength
      ((commonDays request).between first last).index[i]
      (if (window windowLength.toNat ((commonDays request).between first last).values i).length <
          (minObservations windowLength request.rollingOptions.minObservationsPolicy).toNat then
          none
        else windowMetric math request.rollingOptions.annualizationBasis metric
          ((window windowLength.toNat ((commonDays request).between first last).values i).map
            decimals))
      ((commonDays request).between first last).index[i + 1 - windowLength.toNat] := by
  have hminimum := two_le_minObservations hlong request.rollingOptions.minObservationsPolicy
  have hvalues := values_of_window (s := commonDays request) hi hj
  have hi' : i < ((commonDays request).between first last).values.length := by
    rw [Series.length_values]
    exact hi
  have hlength : (window windowLength.toNat ((commonDays request).between first last).values
      i).length = min windowLength.toNat (i + 1) := length_window hi'
  constructor
  · exact ⟨(label_between hj).1, (Series.index_le_iff hj hi).2 (by omega)⟩
  · rw [length_common, length_common, hvalues, hlength, length_up_to hi]
  · intro hshort
    rw [length_common, hvalues] at hshort
    rw [if_pos (by omega)]
  · intro henough
    rw [length_common, hvalues] at henough
    rw [if_neg (by omega)]
    have haligned := alignedReturns_range request metric
      ((commonDays request).between first last).index[i + 1 - windowLength.toNat]
      ((commonDays request).between first last).index[i]
    rw [hvalues] at haligned
    obtain ⟨results, v, hresults, hreported, hcaught⟩ := range_calculates math (returns_ne_nil hi)
      hbasis metric _ _ (by rw [haligned]; omega)
    rw [haligned] at hcaught
    refine ⟨results, v, hresults, hreported, ?_⟩
    rcases catchValueError_eq_ok.1 hcaught with hreport | ⟨message, _, rfl⟩
    · obtain ⟨y, hy, hvalue⟩ := windowMetric_of_report hsqrt (by omega) hreport
      rw [hvalue, hy]
      constructor
      · intro y' hy'
        cases hy'
        rfl
      · intro hnone
        cases hnone
    · constructor
      · intro _ hy
        cases hy
      · intro _
        rfl

/-- A rolling metric against the benchmark is, at every day of a period, what the risk calculation
reports for the days of its window. -/
theorem rolling_agrees_with_risk {math : PyMath K} (hsqrt : math.IsSquareRoot)
    (request : RollingStatelessInput K)
    (hbasis : beyondFloat request.rollingOptions.annualizationBasis = false)
    (hseries : rollingPeriodSeries (buildRollingInputFrames request) request period openDate =
      .ok periodSeries)
    (hwindow : windowLength ∈ request.rollingOptions.windowLengths) (metric : BenchmarkMetric) :
    ∃ calculation, calculateRollingMetricValues math
        (windowContext periodSeries request.rollingOptions windowLength) (.benchmark metric) =
          .ok calculation ∧
      ∀ day value, (day, value) ∈ calculation.values.points →
        ∃ start,
          AgreesFrom math request metric periodSeries.start windowLength day value start := by
  have hlong := request.rollingOptions.one_lt_window hwindow
  have hvalid : validateRolling (windowContext periodSeries request.rollingOptions windowLength) =
      .ok () := validateRolling_minObservations hlong rfl
  obtain ⟨calculation, hcalculation, hindex, hvalues⟩ :=
    benchmark_values math _ hvalid metric
  refine ⟨calculation, hcalculation, ?_⟩
  intro day value hpoint
  rw [windowContext, aligned_of_period hseries] at hindex hvalues
  obtain ⟨i, hi, heq⟩ := List.getElem_of_mem hpoint
  have hcount : i < calculation.values.index.length := by rwa [Series.length_points] at hi
  have hvalue : i < calculation.values.values.length := by rwa [Series.length_values]
  have hday : i < ((commonDays request).between periodSeries.start
      periodSeries.stop).index.length := by
    rw [hindex] at hcount
    exact hcount
  have hdate : calculation.values.index[i] = ((commonDays request).between periodSeries.start
      periodSeries.stop).index[i] := List.getElem_of_eq hindex hcount
  have hnumber : calculation.values.values[i] = _ :=
    (List.getElem_of_eq hvalues hvalue).trans (getElem_rolling _)
  rw [Series.getElem_points hcount hvalue, hdate, hnumber] at heq
  cases heq
  have hagrees := agreesFrom_position hsqrt request hbasis metric hlong hday (by omega)
  rw [Series.map, Series.values_withValues, window_map, List.length_map]
  exact ⟨_, hagrees⟩

end Windows

section Real

theorem betaOptions_accepted : RollingOptionsFields.validate {
    windowLengths := [2]
    metrics := [.benchmark .beta]
    annualizationBasis := 252
    minObservationsPolicy := .strict
    includeTimeSeries := false } = .ok () := by decide

def betaOptions : RollingOptions where
  windowLengths := [2]
  metrics := [.benchmark .beta]
  annualizationBasis := 252
  minObservationsPolicy := .strict
  includeTimeSeries := false
  accepted := betaOptions_accepted

/-- Two days on which a portfolio returns twice what its benchmark does. -/
noncomputable def doubledFields : RollingStatelessFields ℝ where
  asOfDate := firstMonday
  periods := [yearPeriod 2026]
  returns := doubledRequest.returns
  benchmarkReturns := doubledRequest.benchmarkReturns
  riskFreeReturns := []
  rollingOptions := betaOptions

theorem doubledFields_accepted : doubledFields.validate = .ok () := by rfl

noncomputable def doubledRolling : RollingStatelessInput ℝ :=
  ⟨doubledFields, doubledFields_accepted⟩

set_option maxRecDepth 8000 in
theorem rolling_agrees_with_risk_doubled : ∃ periodSeries calculation,
    rollingPeriodSeries (buildRollingInputFrames doubledRolling) doubledRolling (yearPeriod 2026)
      firstMonday = .ok periodSeries ∧
    calculateRollingMetricValues realMath (windowContext periodSeries betaOptions 2)
      (.benchmark .beta) = .ok calculation ∧ calculation.values.index = firstWeek.take 2 ∧
    ∀ day value, (day, value) ∈ calculation.values.points →
      ∃ start, AgreesFrom realMath doubledRolling .beta periodSeries.start 2 day value start := by
  have hseries : rollingPeriodSeries (buildRollingInputFrames doubledRolling) doubledRolling
      (yearPeriod 2026) firstMonday = .ok _ := bind_eq_ok.2 ⟨_, range_year, rfl⟩
  obtain ⟨calculation, hcalculation, hagrees⟩ := rolling_agrees_with_risk realMath_isSquareRoot
    doubledRolling year_scales hseries (List.mem_singleton_self 2) .beta
  refine ⟨_, calculation, hseries, hcalculation, ?_, hagrees⟩
  obtain ⟨_, hsame, hindex, _⟩ := benchmark_values realMath
    (windowContext _ betaOptions 2) rfl .beta
  cases hcalculation.symm.trans hsame
  rw [hindex]
  rfl

end Real

end LotusRisk
