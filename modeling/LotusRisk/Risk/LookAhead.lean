import LotusRisk.Risk.Engine
import LotusRisk.Risk.ValueAtRisk

/-! Observations after the as-of date, and the periods they enter. -/

namespace LotusRisk
set_option autoImplicit true

open Relational

variable {K : Type} [Field K] [LinearOrder K]

section Windows

/-- Two lists of points have the same points up to a date. -/
def AgreeUntil (asOf : Date) (points points' : List (ReturnPoint K)) : Prop :=
  ∀ point, point.date ≤ asOf → (point ∈ points ↔ point ∈ points')

omit [Field K] [LinearOrder K] in
theorem mem_returnsFrame {points : List (ReturnPoint K)} {h} :
    p ∈ (returnsFrame points h).points ↔ ∃ point ∈ points, datedValue point = p := by
  rw [returnsFrame, Series.mem_sorted, List.mem_map]

omit [Field K] [LinearOrder K] in
/-- A window that ends by the date has the same points in both. -/
theorem between_returnsFrame {points points' : List (ReturnPoint K)} {h h'}
    (hagree : AgreeUntil asOf points points') (hstop : stop ≤ asOf) :
    (returnsFrame points h).between start stop = (returnsFrame points' h').between start stop := by
  apply Series.ext_mem
  intro p
  rw [Series.mem_between, Series.mem_between, mem_returnsFrame, mem_returnsFrame]
  apply and_congr_left
  rintro ⟨_, hle⟩
  constructor
  · rintro ⟨point, hpoint, rfl⟩
    exact ⟨point, (hagree point (hle.trans hstop)).1 hpoint, rfl⟩
  · rintro ⟨point, hpoint, rfl⟩
    exact ⟨point, (hagree point (hle.trans hstop)).2 hpoint, rfl⟩

omit [Field K] [LinearOrder K] in
theorem isEmpty_returnsFrame (points : List (ReturnPoint K)) (h) :
    (returnsFrame points h).isEmpty = true ↔ points = [] := by
  have hlength : (returnsFrame points h).index.length = points.length := by
    rw [← Series.map_fst_points, List.length_map, returnsFrame, Series.sorted,
      Series.points_ofPoints, List.length_insertionSort, List.length_map]
  rw [Series.isEmpty, List.isEmpty_iff, ← List.length_eq_zero_iff, hlength, List.length_eq_zero_iff]

end Windows

section PeriodCongruence

variable [FloorRing K] {math : PyMath K}

omit [FloorRing K] in
/-- Of the benchmark a period reads its window, and whether there is one at all. -/
theorem alignAndResampleBenchmark_congr {benchmark benchmark' : Series Date K}
    {options : RiskOptions K} (hempty : benchmark.isEmpty = benchmark'.isEmpty)
    (hwindow : benchmark.between start stop = benchmark'.between start stop) :
    alignAndResampleBenchmark math benchmark start stop options =
      alignAndResampleBenchmark math benchmark' start stop options := by
  rw [alignAndResampleBenchmark, alignAndResampleBenchmark, hempty, hwindow]

omit [FloorRing K] in
theorem calculateBenchmarkPeriodMetrics_congr {request : PeriodMetricCalculationRequest K}
    {benchmark : Series Date K} {metricSeries : Series Date K} {metrics : List BenchmarkMetric}
    (hempty : request.benchmark.isEmpty = benchmark.isEmpty)
    (hwindow : request.benchmark.between request.start request.stop =
      benchmark.between request.start request.stop) :
    calculateBenchmarkPeriodMetrics math request metricSeries metrics =
      calculateBenchmarkPeriodMetrics math { request with benchmark := benchmark } metricSeries
        metrics := by
  have havailable : availableBenchmarkPeriodMetrics math request metricSeries metrics =
      availableBenchmarkPeriodMetrics math { request with benchmark := benchmark } metricSeries
        metrics := by
    rw [availableBenchmarkPeriodMetrics, availableBenchmarkPeriodMetrics,
      alignAndResampleBenchmark_congr hempty hwindow]
  rw [calculateBenchmarkPeriodMetrics, calculateBenchmarkPeriodMetrics, havailable, hempty]

/-- The result of a period is that of its windows. -/
theorem calculatePeriodResult_congr (math : PyMath K) (request : PeriodMetricCalculationRequest K)
    (benchmark : Series Date K)
    (hempty : requestedBenchmarkMetrics request.metrics ≠ [] →
      request.benchmark.isEmpty = benchmark.isEmpty)
    (hwindow : request.benchmark.between request.start request.stop =
      benchmark.between request.start request.stop) :
    calculatePeriodResult math request =
      calculatePeriodResult math { request with benchmark := benchmark } := by
  by_cases hnone : requestedBenchmarkMetrics request.metrics = []
  · have hskip : ∀ b : Series Date K, ∀ nonBenchmark,
        periodBenchmarkMetrics math { request with benchmark := b } nonBenchmark = .ok none := by
      intro b nonBenchmark
      rw [periodBenchmarkMetrics, hnone]
      rfl
    simp only [calculatePeriodResult, hskip request.benchmark, hskip benchmark]
    rfl
  · have hempty := hempty hnone
    have hbenchmark : ∀ nonBenchmark, periodBenchmarkMetrics math request nonBenchmark =
        periodBenchmarkMetrics math { request with benchmark := benchmark } nonBenchmark := by
      intro nonBenchmark
      rw [periodBenchmarkMetrics, periodBenchmarkMetrics, hempty,
        calculateBenchmarkPeriodMetrics_congr hempty hwindow]
    simp only [calculatePeriodResult, hbenchmark, hempty]
    rfl

end PeriodCongruence

section LookAhead

variable [FloorRing K]

/-- Requests that differ in their observations only. -/
structure SameTerms (request request' : StatelessRiskInput K) : Prop where
  asOfDate : request.asOfDate = request'.asOfDate
  periods : request.periods = request'.periods
  metrics : request.metrics = request'.metrics
  options : request.options = request'.options
  portfolioOpenDate : request.portfolioOpenDate = request'.portfolioOpenDate

/-- The calendar year of the period, if it is one, has ended by the as-of date. -/
def RiskRequestPeriod.YearEnded (period : RiskRequestPeriod) (asOf : Date) : Prop :=
  period.type = .year → ∀ year, period.year = some year →
    year < asOf.year ∨ year = asOf.year ∧ asOf.month = 12 ∧ asOf.day = 31

theorem stop_le_asOf {period : RiskRequestPeriod} (htype : period.type ≠ .explicit)
    (hended : period.YearEnded asOf) (h : resolvePeriod period asOf openDate = .ok (start, stop)) :
    stop ≤ asOf := by
  obtain ⟨bounds, hbounds, hdone⟩ := bind_eq_ok.1 h
  cases hdone
  rcases end_of_resolvePeriodBounds htype hbounds with heq | ⟨hyear, year, hgiven, heq, hm, hd⟩
  · exact heq.le
  · apply not_lt.1
    intro hlt
    have hfields := Date.lt_iff_fields.1 hlt
    rcases hended hyear year hgiven with hbefore | ⟨hsame, hm', hd'⟩
    · omega
    · omega

/-- Windows that end by the as-of date have the same results in requests that agree until it. -/
theorem periodCalculation_congr {request request' : StatelessRiskInput K} (math : PyMath K)
    (hterms : SameTerms request request')
    (hreturns : AgreeUntil request.asOfDate request.returns request'.returns)
    (hbenchmark : AgreeUntil request.asOfDate request.benchmarkReturns request'.benchmarkReturns)
    (hempty : requestedBenchmarkMetrics request.metrics ≠ [] →
      (request.benchmarkReturns = [] ↔ request'.benchmarkReturns = []))
    (hstop : stop ≤ request.asOfDate) (rates : SharedRates K) (start : Date) :
    calculatePeriodResult math (periodCalculation request rates start stop) =
      calculatePeriodResult math (periodCalculation request' rates start stop) := by
  have hframe : (returnsFrame request.returns request.returns_unique).between start stop =
      (returnsFrame request'.returns request'.returns_unique).between start stop :=
    between_returnsFrame hreturns hstop
  have hwindow : (returnsFrame request.benchmarkReturns request.benchmark_unique).between
      start stop =
      (returnsFrame request'.benchmarkReturns request'.benchmark_unique).between start stop :=
    between_returnsFrame hbenchmark hstop
  rw [calculatePeriodResult_congr math (periodCalculation request rates start stop)
    (returnsFrame request'.benchmarkReturns request'.benchmark_unique) _ hwindow]
  · rw [periodCalculation, periodCalculation, hframe, hterms.metrics, hterms.options]
  · intro hne
    rw [Bool.eq_iff_iff]
    exact (isEmpty_returnsFrame request.benchmarkReturns request.benchmark_unique).trans
      ((hempty hne).trans
        (isEmpty_returnsFrame request'.benchmarkReturns request'.benchmark_unique).symm)

theorem buildSinglePeriodResult_congr {request request' : StatelessRiskInput K} (math : PyMath K)
    (hterms : SameTerms request request')
    (hreturns : AgreeUntil request.asOfDate request.returns request'.returns)
    (hbenchmark : AgreeUntil request.asOfDate request.benchmarkReturns request'.benchmarkReturns)
    (hempty : requestedBenchmarkMetrics request.metrics ≠ [] →
      (request.benchmarkReturns = [] ↔ request'.benchmarkReturns = []))
    (hstop : ∀ start stop, resolvePeriod period request.asOfDate request.portfolioOpenDate =
      .ok (start, stop) → stop ≤ request.asOfDate) (rates : SharedRates K) :
    buildSinglePeriodResult math request rates period =
      buildSinglePeriodResult math request' rates period := by
  rw [buildSinglePeriodResult, buildSinglePeriodResult, ← hterms.asOfDate,
    ← hterms.portfolioOpenDate]
  cases hwindow : resolvePeriod period request.asOfDate request.portfolioOpenDate with
  | error e => rfl
  | ok window =>
    have hcongr := periodCalculation_congr math hterms hreturns hbenchmark hempty
      (hstop window.1 window.2 hwindow) rates window.1
    exact congrArg (fun result => result >>= fun value => .ok (period.resolvedName, value)) hcongr

omit [Field K] [LinearOrder K] [FloorRing K] in
theorem mapM_congr {f g : α → Except ε β} {as : List α} (h : ∀ a ∈ as, f a = g a) :
    as.mapM f = as.mapM g := by
  induction as with
  | nil => rfl
  | cons a as ih =>
    rw [List.mapM_cons, List.mapM_cons, h a List.mem_cons_self,
      ih (fun a ha => h a (List.mem_cons_of_mem _ ha))]

/-- Where no requested calendar year is still running, observations after the as-of date change no
result: both requests have returns, or neither, and the same of a benchmark that is read. -/
theorem no_look_ahead (math : PyMath K) (request request' : StatelessRiskInput K)
    (hterms : SameTerms request request')
    (htypes : ∀ period ∈ request.periods, period.type ≠ .explicit)
    (hyears : ∀ period ∈ request.periods, period.YearEnded request.asOfDate)
    (hreturns : AgreeUntil request.asOfDate request.returns request'.returns)
    (hbenchmark : AgreeUntil request.asOfDate request.benchmarkReturns request'.benchmarkReturns)
    (hsome : request.returns = [] ↔ request'.returns = [])
    (hsomeBenchmark : requestedBenchmarkMetrics request.metrics ≠ [] →
      (request.benchmarkReturns = [] ↔ request'.benchmarkReturns = [])) :
    calculateRisk math request = calculateRisk math request' := by
  have hresults : ∀ rates, buildPeriodResults math request rates =
      buildPeriodResults math request' rates := by
    intro rates
    rw [buildPeriodResults, buildPeriodResults, ← hterms.periods]
    have hperiods : request.periods.mapM (buildSinglePeriodResult math request rates) =
        request.periods.mapM (buildSinglePeriodResult math request' rates) := by
      apply mapM_congr
      intro period hperiod
      apply buildSinglePeriodResult_congr math hterms hreturns hbenchmark hsomeBenchmark
      intro start stop hwindow
      exact stop_le_asOf (htypes period hperiod) (hyears period hperiod) hwindow
    rw [hperiods]
  have hisEmpty : request.returns.isEmpty = request'.returns.isEmpty := by
    rw [Bool.eq_iff_iff, List.isEmpty_iff, List.isEmpty_iff]
    exact hsome
  rw [calculateRisk, calculateRisk, ← hterms.options, hisEmpty]
  simp only [hresults]

section RunningYear

/-- Equal returns on the first days of 2026. -/
def firstReturns (n : Nat) : List (ReturnPoint ℚ) := (firstWeek.take n).map (fun d => ⟨d, 1⟩)

theorem firstReturns_unique (n : Nat) : ((firstReturns n).map ReturnPoint.date).Nodup := by
  rw [firstReturns, List.map_map]
  change ((firstWeek.take n).map id).Nodup
  rw [List.map_id]
  exact (firstWeek_ascending.imp ne_of_lt).sublist (List.take_sublist n firstWeek)

/-- The volatility of a year, asked for on the first Monday of 2026. -/
def yearRequest (year : Int) (n : Nat) : StatelessRiskInput ℚ where
  asOfDate := firstMonday
  periods := [yearPeriod year]
  metrics := [.volatility]
  options := defaultRiskOptions
  portfolioOpenDate := firstMonday
  returns := firstReturns n
  benchmarkReturns := []
  names_unique := List.nodup_singleton _
  returns_unique := firstReturns_unique n
  benchmark_unique := List.nodup_nil

/-- Whether the year has a volatility. -/
def hasVolatility (request : StatelessRiskInput ℚ) : Bool :=
  match calculateRisk rationalMath request with
  | .ok results =>
    (((results.get? "YEAR").bind (fun r => r.metrics.get? "VOLATILITY")).bind RiskValue.value).isSome
  | .error _ => false

theorem sameTerms_yearRequest (year : Int) (m n : Nat) :
    SameTerms (yearRequest year m) (yearRequest year n) := ⟨rfl, rfl, rfl, rfl, rfl⟩

theorem yearRequest_types (year : Int) (n : Nat) :
    ∀ period ∈ (yearRequest year n).periods, period.type ≠ .explicit := by
  intro period hperiod
  rw [List.mem_singleton.1 hperiod]
  nofun

omit [Field K] [LinearOrder K] [FloorRing K] in
/-- Returns and the same with later ones. -/
theorem agreeUntil_append {returns later : List (ReturnPoint K)}
    (hlater : ∀ point ∈ later, ¬ point.date ≤ asOf) :
    AgreeUntil asOf returns (returns ++ later) := by
  intro point hle
  rw [List.mem_append]
  constructor
  · exact .inl
  · rintro (hpoint | hpoint)
    · exact hpoint
    · exact absurd hle (hlater point hpoint)

theorem firstReturns_agree : AgreeUntil firstMonday (firstReturns 1) (firstReturns 2) := by
  have htuesday : ∀ point ∈ (firstReturns 2).drop 1, ¬ point.date ≤ firstMonday := by decide
  exact agreeUntil_append htuesday

/-- The year that is still running takes in the return of the next day. -/
theorem running_year_looks_ahead :
    SameTerms (yearRequest 2026 1) (yearRequest 2026 2) ∧
    (∀ period ∈ (yearRequest 2026 1).periods, period.type ≠ .explicit) ∧
    AgreeUntil (yearRequest 2026 1).asOfDate (yearRequest 2026 1).returns
      (yearRequest 2026 2).returns ∧
    (yearRequest 2026 1).benchmarkReturns = (yearRequest 2026 2).benchmarkReturns ∧
    calculateRisk rationalMath (yearRequest 2026 1) ≠
      calculateRisk rationalMath (yearRequest 2026 2) := by
  refine ⟨sameTerms_yearRequest 2026 1 2, yearRequest_types 2026 1, firstReturns_agree, rfl, ?_⟩
  intro heq
  have hone : hasVolatility (yearRequest 2026 1) = false := by decide +kernel
  have htwo : hasVolatility (yearRequest 2026 2) = true := by decide +kernel
  rw [hasVolatility, heq, ← hasVolatility, htwo] at hone
  cases hone

end RunningYear

section RunningMonth

/-- A week that ends in a crash. -/
def crashReturns (n : Nat) : List (ReturnPoint ℚ) :=
  (firstWeek.take n).zipWith ReturnPoint.mk [1, -2, 3, -50]

theorem crashReturns_unique {n : Nat} (h : n ≤ 4) :
    ((crashReturns n).map ReturnPoint.date).Nodup := by
  interval_cases n <;> decide

def monthToDate : RiskRequestPeriod where
  type := .mtd
  name := none
  fromDate := none
  toDate := none
  year := none
  explicit_dates := nofun
  year_given := nofun

def firstWednesday : Date := firstWeek.get ⟨2, by decide⟩

/-- The drawdown of the month and of the last year, asked for on the day before the crash. -/
def monthRequest (n : Nat) (h : n ≤ 4) : StatelessRiskInput ℚ where
  asOfDate := firstWednesday
  periods := [monthToDate, yearPeriod 2025]
  metrics := [.drawdown]
  options := defaultRiskOptions
  portfolioOpenDate := firstMonday
  returns := crashReturns n
  benchmarkReturns := []
  names_unique := by decide
  returns_unique := crashReturns_unique h
  benchmark_unique := List.nodup_nil

/-- The drawdown that is reported of the month. -/
def monthDrawdown (request : StatelessRiskInput ℚ) : Option ℚ :=
  match calculateRisk rationalMath request with
  | .ok results =>
    ((results.get? "MTD").bind (fun r => r.metrics.get? "DRAWDOWN")).bind RiskValue.value
  | .error _ => none

theorem no_look_ahead_month : monthDrawdown (monthRequest 3 (by decide)) = some (-2) ∧
    calculateRisk rationalMath (monthRequest 3 (by decide)) =
      calculateRisk rationalMath (monthRequest 4 (by decide)) := by
  refine ⟨by decide +kernel, ?_⟩
  have hcrash : ∀ point ∈ (crashReturns 4).drop 3, ¬ point.date ≤ firstWednesday := by decide
  apply no_look_ahead rationalMath (monthRequest 3 (by decide)) (monthRequest 4 (by decide))
    ⟨rfl, rfl, rfl, rfl, rfl⟩ (by decide) _ (agreeUntil_append hcrash)
    (fun _ _ => Iff.rfl) (by decide) (fun _ => Iff.rfl)
  intro period hperiod htype year hyear
  rcases List.mem_pair.1 hperiod with rfl | rfl
  · cases htype
  · cases hyear
    exact .inl (by decide)

end RunningMonth

end LookAhead

end LotusRisk
