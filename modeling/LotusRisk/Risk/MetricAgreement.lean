import LotusRisk.Risk.Engine

/-! Two calculations of a period on the same returns, against benchmarks of which one is part of
the other, and what their metrics have in common. -/

namespace LotusRisk
set_option autoImplicit true

open Relational

variable {K : Type} [Field K] [LinearOrder K]

section Numbers

omit [Field K] [LinearOrder K] in
/-- Both results are the same, or both are errors without a number. -/
inductive SameNumbers : RiskValue K → RiskValue K → Prop
  | same (v : RiskValue K) : SameNumbers v v
  | errors (message message' : String) : SameNumbers (metricError message) (metricError message')

omit [Field K] [LinearOrder K] in
theorem RiskMetric.text_injective {metric metric' : RiskMetric}
    (h : metric.text = metric'.text) : metric = metric' := by
  cases metric with
  | benchmark b =>
    cases metric' with
    | benchmark b' => cases b <;> cases b' <;> first | rfl | exact absurd h (by decide)
    | _ => cases b <;> exact absurd h (by decide)
  | _ =>
    cases metric' with
    | benchmark b' => cases b' <;> exact absurd h (by decide)
    | _ => first | rfl | exact absurd h (by decide)

/-- Entries of one key, with the same numbers if it is the key in question. -/
def AgreeAt (key : String) (e e' : String × RiskValue K) : Prop :=
  e.1 = e'.1 ∧ (e.1 = key → SameNumbers e.2 e'.2)

omit [Field K] [LinearOrder K] in
theorem AgreeAt.refl (key : String) (e : String × RiskValue K) : AgreeAt key e e :=
  ⟨rfl, fun _ => .same e.2⟩

omit [Field K] [LinearOrder K] in
theorem agreeAt_refl (key : String) (l : List (String × RiskValue K)) :
    List.Forall₂ (AgreeAt key) l l := List.forall₂_same.2 fun e _ => AgreeAt.refl key e

omit [Field K] [LinearOrder K] in
theorem agreeAt_errors (key message message' : String) (metrics : List BenchmarkMetric) :
    List.Forall₂ (AgreeAt key) (benchmarkMetricErrors (K := K) metrics message)
      (benchmarkMetricErrors metrics message') := by
  rw [benchmarkMetricErrors, benchmarkMetricErrors, List.forall₂_map_left_iff,
    List.forall₂_map_right_iff]
  exact List.forall₂_same.2 fun metric _ => ⟨rfl, fun _ => .errors message message'⟩

end Numbers

section Calculators

omit [Field K] [LinearOrder K] in
/-- Calculators of the same metrics, equal where the metric has the key. -/
def SameAt (key : String) (c c' : RiskMetric × Except PyException (RiskValue K)) : Prop :=
  c.1 = c'.1 ∧ (c.1.text = key → c.2 = c'.2)

omit [Field K] [LinearOrder K] in
theorem agreeAt_calculated {c c' : RiskMetric × Except PyException (RiskValue K)}
    (hsame : SameAt key c c') (h : calculated c = .ok e) (h' : calculated c' = .ok e') :
    AgreeAt key e e' := by
  obtain ⟨hmetric, hvalue⟩ := hsame
  rw [calculated] at h h'
  have hkey : e.1 = c.1.text := by
    cases hcaught : catchValueError c.2 metricError with
    | error _ => rw [hcaught] at h; cases h
    | ok v => rw [hcaught] at h; cases h; rfl
  have hkey' : e'.1 = c'.1.text := by
    cases hcaught : catchValueError c'.2 metricError with
    | error _ => rw [hcaught] at h'; cases h'
    | ok v => rw [hcaught] at h'; cases h'; rfl
  refine ⟨by rw [hkey, hkey', hmetric], ?_⟩
  intro heq
  rw [← hvalue (hkey.symm.trans heq), ← hmetric, h] at h'
  cases h'
  exact .same e.2

omit [Field K] [LinearOrder K] in
theorem sameAt_filter {calculators calculators' : List (RiskMetric ×
      Except PyException (RiskValue K))} (p : RiskMetric → Bool)
    (h : List.Forall₂ (SameAt key) calculators calculators') :
    List.Forall₂ (SameAt key) (calculators.filter (fun c => p c.1))
      (calculators'.filter (fun c => p c.1)) := by
  apply List.rel_filter _ h
  intro c c' hsame
  simp only [hsame.1]

omit [Field K] [LinearOrder K] in
theorem agreeAt_mapM {calculators calculators' : List (RiskMetric ×
      Except PyException (RiskValue K))}
    (hsame : List.Forall₂ (SameAt key) calculators calculators')
    (h : calculators.mapM calculated = .ok l) (h' : calculators'.mapM calculated = .ok l') :
    List.Forall₂ (AgreeAt key) l l' := by
  have hall := mapM_eq_ok.1 h
  have hall' := mapM_eq_ok.1 h'
  clear h h'
  induction hsame generalizing l l' with
  | nil =>
    cases hall
    cases hall'
    exact .nil
  | cons hhead _ ih =>
    cases hall with
    | cons he hes =>
      cases hall' with
      | cons he' hes' => exact .cons (agreeAt_calculated hhead he he') (ih hes hes')

omit [Field K] [LinearOrder K] in
theorem agreeAt_requested {calculators calculators' : List (RiskMetric ×
      Except PyException (RiskValue K))}
    (hsame : List.Forall₂ (SameAt key) calculators calculators')
    (h : calculateRequestedNonBenchmarkMetrics metrics calculators = .ok l)
    (h' : calculateRequestedNonBenchmarkMetrics metrics calculators' = .ok l') :
    List.Forall₂ (AgreeAt key) l l' :=
  agreeAt_mapM (sameAt_filter (fun metric => decide (metric ∈ metrics)) hsame) h h'

end Calculators

section Periods

variable [FloorRing K] {math : PyMath K}

/-- Calculations on the same returns of a period that end on the same day; they may differ in the
risk-free rate, and in the first day and the benchmark. -/
structure SameReturns (request request' : PeriodMetricCalculationRequest K) : Prop where
  metrics : request.metrics = request'.metrics
  frequency : request.options.frequency = request'.options.frequency
  useLogReturns : request.options.useLogReturns = request'.options.useLogReturns
  marAnnualRate : request.options.marAnnualRate = request'.options.marAnnualRate
  var : request.options.var = request'.options.var
  annualFactor : request.annualFactor = request'.annualFactor
  periodicMar : request.periodicMar = request'.periodicMar
  periodReturns : request.periodReturns = request'.periodReturns
  stop : request.stop = request'.stop

theorem sameAt_calculators (math : PyMath K) {request request' : PeriodMetricCalculationRequest K}
    (h : SameReturns request request') (hrate : key = RiskMetric.sharpe.text →
      request.periodicRf = request'.periodicRf) (metricSeries varSeries : Series Date K) :
    List.Forall₂ (SameAt key) (buildNonBenchmarkCalculators math metricSeries varSeries request)
      (buildNonBenchmarkCalculators math metricSeries varSeries request') := by
  rw [buildNonBenchmarkCalculators, buildNonBenchmarkCalculators, h.annualFactor, h.periodReturns,
    h.periodicMar, h.marAnnualRate, h.var]
  refine .cons ⟨rfl, fun _ => rfl⟩ (.cons ⟨rfl, fun _ => rfl⟩ (.cons ⟨rfl, ?_⟩
    (.cons ⟨rfl, fun _ => rfl⟩ (.cons ⟨rfl, fun _ => rfl⟩ .nil))))
  intro hkey
  rw [hrate hkey.symm]

/-- The metrics without a benchmark read the returns of the period, and one reads the risk-free
rate. -/
theorem nonBenchmark_agree {request request' : PeriodMetricCalculationRequest K}
    (hsame : SameReturns request request') (hrate : key = RiskMetric.sharpe.text →
      request.periodicRf = request'.periodicRf)
    (h : periodNonBenchmarkMetrics math request = .ok m)
    (h' : periodNonBenchmarkMetrics math request' = .ok m') :
    m.metricSeries = m'.metricSeries ∧ m.metricSeriesError = m'.metricSeriesError ∧
      List.Forall₂ (AgreeAt key) m.metricMap m'.metricMap := by
  obtain ⟨metricSeries, hmetric, h⟩ := bind_eq_ok.1 h
  obtain ⟨varSeries, hvar, h⟩ := bind_eq_ok.1 h
  obtain ⟨metricSeries', hmetric', h'⟩ := bind_eq_ok.1 h'
  obtain ⟨varSeries', hvar', h'⟩ := bind_eq_ok.1 h'
  rw [← hsame.periodReturns, ← hsame.frequency, ← hsame.useLogReturns, hmetric] at hmetric'
  rw [← hsame.periodReturns, ← hsame.useLogReturns, hvar] at hvar'
  cases hmetric'
  cases hvar'
  have hcalculators := sameAt_calculators math hsame hrate metricSeries.series
    varSeries.series
  cases herror : metricSeries.error with
  | some message =>
    simp only [herror] at h h'
    obtain ⟨drawdown, hdrawdown, h⟩ := bind_eq_ok.1 h
    obtain ⟨drawdown', hdrawdown', h'⟩ := bind_eq_ok.1 h'
    rw [drawdownMetricMap, ← hsame.metrics, ← hsame.periodReturns, ← drawdownMetricMap,
      hdrawdown] at hdrawdown'
    cases hdrawdown'
    cases h
    cases h'
    refine ⟨rfl, rfl, ?_⟩
    rw [hsame.metrics]
    exact agreeAt_refl key _
  | none =>
    simp only [herror] at h h'
    cases hvarError : varSeries.error with
    | some message =>
      simp only [hvarError] at h h'
      obtain ⟨metricMap, hmap, h⟩ := bind_eq_ok.1 h
      obtain ⟨metricMap', hmap', h'⟩ := bind_eq_ok.1 h'
      cases h
      cases h'
      refine ⟨rfl, rfl, ?_⟩
      rw [← hsame.metrics] at hmap' ⊢
      have hothers := sameAt_filter (fun metric => decide (metric ≠ .var)) hcalculators
      exact List.rel_append (agreeAt_requested hothers hmap hmap') (agreeAt_refl key _)
    | none =>
      simp only [hvarError] at h h'
      obtain ⟨metricMap, hmap, h⟩ := bind_eq_ok.1 h
      obtain ⟨metricMap', hmap', h'⟩ := bind_eq_ok.1 h'
      cases h
      cases h'
      rw [← hsame.metrics] at hmap'
      exact ⟨rfl, rfl, agreeAt_requested hcalculators hmap hmap'⟩

end Periods

section Benchmark

variable {math : PyMath K} {metricSeries : Series Date K} {metrics : List BenchmarkMetric}

/-- A return as a daily metric reads it. -/
def metricValue (math : PyMath K) (useLogReturns : Bool) (r : K) : K :=
  if useLogReturns then inPercent (math.log1p (fromPercent r)) else r

/-- A return has no logarithm, and logarithms are taken. -/
def logsUndefined (useLogReturns : Bool) (returns : Series Date K) : Bool :=
  useLogReturns && returns.values.any (fun r => decide (r ≤ -((100 : Nat) : K)))

/-- The series of a metric has the resampled returns, as it reads them. -/
theorem metricReturnSeries_of_resampled {returns : Series Date K}
    (h : resampleReturns returns frequency = .ok out) :
    metricReturnSeries math returns frequency useLogReturns =
      if logsUndefined useLogReturns out then .error (.valueError logReturnUndefinedError)
      else .ok (out.map (metricValue math useLogReturns)) := by
  rw [metricReturnSeries, h]
  cases useLogReturns with
  | true => rfl
  | false =>
    have hsame : out.map (metricValue math false) = out := by
      apply Series.ext_points
      rw [Series.points_map]
      exact List.map_id _
    rw [hsame]
    rfl

theorem metricReturnSeries_daily (math : PyMath K) (returns : Series Date K)
    (useLogReturns : Bool) : metricReturnSeries math returns .daily useLogReturns =
      if logsUndefined useLogReturns returns then .error (.valueError logReturnUndefinedError)
      else .ok (returns.map (metricValue math useLogReturns)) := by
  apply metricReturnSeries_of_resampled
  rw [resampleReturns, if_pos (.inr rfl)]

omit [Field K] [LinearOrder K] in
theorem aligned_congr {benchmark benchmark' : Series Date K}
    (h : ∀ d ∈ metricSeries.index, benchmark.loc d = benchmark'.loc d) :
    alignedBenchmarkSeries metricSeries benchmark =
      alignedBenchmarkSeries metricSeries benchmark' := by
  apply List.filterMap_congr
  intro p hp
  rw [h p.1 (Series.mem_index hp)]

omit [Field K] [LinearOrder K] in
theorem loc_of_isEmpty {returns : Series Date K} (h : returns.isEmpty = true) (d : Date) :
    returns.loc d = none := by
  have hindex : returns.index = [] := List.isEmpty_iff.1 h
  rw [Series.loc, Series.points, hindex]
  rfl

/-- The benchmark metrics of a window of daily returns. -/
theorem availableBenchmarkPeriodMetrics_ok {request : PeriodMetricCalculationRequest K}
    (hdaily : request.options.frequency = .daily) (hsome : request.benchmark.isEmpty = false)
    (h : availableBenchmarkPeriodMetrics math request metricSeries metrics = .ok r) :
    let window := request.benchmark.between request.start request.stop
    (logsUndefined request.options.useLogReturns window = true ∧
      r.metricMap = benchmarkMetricErrors metrics logReturnUndefinedError) ∨
    (logsUndefined request.options.useLogReturns window = false ∧
      ∃ count, calculateAlignedBenchmarkMetrics math metricSeries
        (window.map (metricValue math request.options.useLogReturns)) metrics
        request.annualFactor = .ok (r.metricMap, count)) := by
  intro window
  rw [availableBenchmarkPeriodMetrics, alignAndResampleBenchmark, hsome,
    if_neg Bool.false_ne_true, hdaily, metricReturnSeries_daily] at h
  cases hlogs : logsUndefined request.options.useLogReturns window with
  | true =>
    rw [hlogs] at h
    cases h
    exact .inl ⟨rfl, rfl⟩
  | false =>
    rw [hlogs] at h
    refine .inr ⟨rfl, ?_⟩
    simp only [Bool.false_eq_true, if_false] at h
    split at h
    · rename_i hempty
      cases h
      have haligned : alignedBenchmarkSeries metricSeries
          (window.map (metricValue math request.options.useLogReturns)) = [] := by
        apply List.filterMap_eq_nil_iff.2
        intro p _
        rw [loc_of_isEmpty hempty]
        rfl
      refine ⟨0, ?_⟩
      rw [calculateAlignedBenchmarkMetrics, haligned]
      rfl
    · obtain ⟨⟨metricMap, count⟩, haligned, hdone⟩ := bind_eq_ok.1 h
      cases hdone
      exact ⟨count, haligned⟩

/-- Benchmarks of which the second is part of the first, and the same on the returns of the
period. -/
structure NarrowerBenchmark (request request' : PeriodMetricCalculationRequest K) : Prop where
  empty : request.benchmark.isEmpty = true → request'.benchmark.isEmpty = true
  window : request'.benchmark.isEmpty = true →
    (request.benchmark.between request.start request.stop).isEmpty = true
  loc : ∀ d ∈ request.periodReturns.index,
    (request.benchmark.between request.start request.stop).loc d =
      (request'.benchmark.between request'.start request'.stop).loc d

omit [Field K] [LinearOrder K] in
theorem keys_benchmarkMetricErrors (metrics : List BenchmarkMetric) (message : String) :
    (benchmarkMetricErrors (K := K) metrics message).map Prod.fst =
      metrics.map BenchmarkMetric.text := by
  rw [benchmarkMetricErrors, List.map_map]
  rfl

theorem keys_calculateAlignedBenchmarkMetrics {benchmark : Series Date K}
    (h : calculateAlignedBenchmarkMetrics math metricSeries benchmark metrics annualFactor =
      .ok (metricMap, count)) : metricMap.map Prod.fst = metrics.map BenchmarkMetric.text := by
  rw [calculateAlignedBenchmarkMetrics] at h
  split at h
  · cases h
    exact keys_benchmarkMetricErrors metrics _
  · obtain ⟨values, hvalues, hdone⟩ := bind_eq_ok.1 h
    cases hdone
    refine map_of_mapM_ok ?_ hvalues
    intro metric entry hentry
    cases hcaught : catchValueError (calculateBenchmarkMetric math
        ((alignedBenchmarkSeries metricSeries benchmark).map Prod.fst)
        ((alignedBenchmarkSeries metricSeries benchmark).map Prod.snd) annualFactor metric)
        metricError with
    | error _ =>
      rw [hcaught] at hentry
      cases hentry
    | ok v =>
      rw [hcaught] at hentry
      cases hentry
      rfl

omit [Field K] [LinearOrder K] in
/-- Entries of the same benchmark metrics agree at any other key. -/
theorem agreeAt_of_keys {l l' : List (String × RiskValue K)}
    (h : l.map Prod.fst = metrics.map BenchmarkMetric.text)
    (h' : l'.map Prod.fst = metrics.map BenchmarkMetric.text)
    (hkey : ¬∃ metric : BenchmarkMetric, metric.text = key) : List.Forall₂ (AgreeAt key) l l' := by
  have hkeys : List.Forall₂ (fun e e' => e.1 = e'.1) l l' := by
    rw [← h'] at h
    exact List.forall₂_map_left_iff.1 (List.forall₂_map_right_iff.1 (List.forall₂_eq_eq_eq ▸ h))
  have hbenchmark : ∀ e ∈ l, ∃ metric : BenchmarkMetric, metric.text = e.1 := by
    intro e he
    have hmem : e.1 ∈ metrics.map BenchmarkMetric.text := by
      rw [← h]
      exact List.mem_map_of_mem he
    obtain ⟨metric, _, htext⟩ := List.mem_map.1 hmem
    exact ⟨metric, htext⟩
  clear h h'
  induction hkeys with
  | nil => exact .nil
  | cons hhead _ ih =>
    apply List.Forall₂.cons
    · refine ⟨hhead, ?_⟩
      intro heq
      obtain ⟨metric, htext⟩ := hbenchmark _ List.mem_cons_self
      exact absurd ⟨metric, htext.trans heq⟩ hkey
    · exact ih (fun e he => hbenchmark e (List.mem_cons_of_mem _ he))

theorem logsUndefined_of_isEmpty {returns : Series Date K} (h : returns.isEmpty = true) :
    logsUndefined useLogReturns returns = false := by
  have hvalues : returns.values = [] := by
    rw [← List.length_eq_zero_iff, returns.length_values, List.length_eq_zero_iff]
    exact List.isEmpty_iff.1 h
  rw [logsUndefined, hvalues, List.any_nil, Bool.and_false]

variable {request request' : PeriodMetricCalculationRequest K}

/-- Against narrower benchmarks the metrics are the same. -/
theorem available_agree (hsame : SameReturns request request')
    (hdaily : request.options.frequency = .daily) (hnarrow : NarrowerBenchmark request request')
    (hlogs : (∃ metric : BenchmarkMetric, metric.text = key) →
      logsUndefined request.options.useLogReturns
        (request.benchmark.between request.start request.stop) =
      logsUndefined request.options.useLogReturns
        (request'.benchmark.between request'.start request'.stop))
    (hindex : ∀ d ∈ metricSeries.index, d ∈ request.periodReturns.index)
    (hsome : request.benchmark.isEmpty = false) (hsome' : request'.benchmark.isEmpty = false)
    (h : availableBenchmarkPeriodMetrics math request metricSeries metrics = .ok r)
    (h' : availableBenchmarkPeriodMetrics math request' metricSeries metrics = .ok r') :
    List.Forall₂ (AgreeAt key) r.metricMap r'.metricMap := by
  have hcase := availableBenchmarkPeriodMetrics_ok hdaily hsome h
  have hcase' := availableBenchmarkPeriodMetrics_ok (hsame.frequency.symm.trans hdaily) hsome' h'
  rw [← hsame.useLogReturns, ← hsame.annualFactor] at hcase'
  rcases hcase with ⟨hundefined, hmap⟩ | ⟨hdefined, count, hmap⟩
  · rcases hcase' with ⟨_, hmap'⟩ | ⟨hdefined', count', hmap'⟩
    · rw [hmap, hmap']
      exact agreeAt_refl key _
    · apply agreeAt_of_keys (hmap ▸ keys_benchmarkMetricErrors metrics _)
        (keys_calculateAlignedBenchmarkMetrics hmap')
      intro hkey
      rw [hlogs hkey, hdefined'] at hundefined
      cases hundefined
  · rcases hcase' with ⟨hundefined', hmap'⟩ | ⟨_, count', hmap'⟩
    · apply agreeAt_of_keys (keys_calculateAlignedBenchmarkMetrics hmap)
        (hmap' ▸ keys_benchmarkMetricErrors metrics _)
      intro hkey
      rw [hlogs hkey, hundefined'] at hdefined
      cases hdefined
    · have haligned : alignedBenchmarkSeries metricSeries
          ((request.benchmark.between request.start request.stop).map
            (metricValue math request.options.useLogReturns)) =
          alignedBenchmarkSeries metricSeries
            ((request'.benchmark.between request'.start request'.stop).map
              (metricValue math request.options.useLogReturns)) := by
        apply aligned_congr
        intro d hd
        rw [Series.loc_map, Series.loc_map, hnarrow.loc d (hindex d hd)]
      rw [calculateAlignedBenchmarkMetrics, haligned, ← calculateAlignedBenchmarkMetrics,
        hmap', Except.ok.injEq, Prod.mk.injEq] at hmap
      rw [hmap.1]
      exact agreeAt_refl key _

theorem calculateBenchmarkPeriodMetrics_ok
    (h : calculateBenchmarkPeriodMetrics math request metricSeries metrics = .ok b) :
    (request.benchmark.isEmpty = true ∧ b.1.metricMap = benchmarkMetricErrors metrics
      "Benchmark returns required for benchmark-dependent metric") ∨
    (request.benchmark.isEmpty = false ∧
      availableBenchmarkPeriodMetrics math request metricSeries metrics = .ok b.1) := by
  rw [calculateBenchmarkPeriodMetrics] at h
  cases hempty : request.benchmark.isEmpty with
  | true =>
    simp only [hempty, if_true] at h
    cases h
    exact .inl ⟨rfl, rfl⟩
  | false =>
    simp only [hempty, Bool.false_eq_true, if_false] at h
    obtain ⟨r, hr, hdone⟩ := bind_eq_ok.1 h
    cases hdone
    exact .inr ⟨rfl, hr⟩

/-- Against narrower benchmarks the metrics are the same, or both are errors for want of them. -/
theorem calculateBenchmarkPeriodMetrics_agree (hsame : SameReturns request request')
    (hdaily : request.options.frequency = .daily) (hnarrow : NarrowerBenchmark request request')
    (hlogs : (∃ metric : BenchmarkMetric, metric.text = key) →
      logsUndefined request.options.useLogReturns
        (request.benchmark.between request.start request.stop) =
      logsUndefined request.options.useLogReturns
        (request'.benchmark.between request'.start request'.stop))
    (hindex : ∀ d ∈ metricSeries.index, d ∈ request.periodReturns.index)
    (h : calculateBenchmarkPeriodMetrics math request metricSeries metrics = .ok b)
    (h' : calculateBenchmarkPeriodMetrics math request' metricSeries metrics = .ok b') :
    List.Forall₂ (AgreeAt key) b.1.metricMap b'.1.metricMap := by
  rcases calculateBenchmarkPeriodMetrics_ok h with ⟨hempty, hmap⟩ | ⟨hsome, hr⟩
  · rcases calculateBenchmarkPeriodMetrics_ok h' with ⟨_, hmap'⟩ | ⟨hsome', _⟩
    · rw [hmap, hmap']
      exact agreeAt_refl key _
    · rw [hnarrow.empty hempty] at hsome'
      cases hsome'
  · rcases calculateBenchmarkPeriodMetrics_ok h' with ⟨hempty', hmap'⟩ | ⟨hsome', hr'⟩
    · have hwindow := hnarrow.window hempty'
      rcases availableBenchmarkPeriodMetrics_ok hdaily hsome hr with
        ⟨hundefined, _⟩ | ⟨_, count, hmap⟩
      · rw [logsUndefined_of_isEmpty hwindow] at hundefined
        cases hundefined
      · have haligned : alignedBenchmarkSeries metricSeries
            ((request.benchmark.between request.start request.stop).map
              (metricValue math request.options.useLogReturns)) = [] := by
          apply List.filterMap_eq_nil_iff.2
          intro p _
          rw [Series.loc_map, loc_of_isEmpty hwindow]
          rfl
        simp only [calculateAlignedBenchmarkMetrics, haligned, List.length_nil, Nat.zero_lt_two,
          if_true, Except.ok.injEq, Prod.mk.injEq] at hmap
        rw [← hmap.1, hmap']
        exact agreeAt_errors key _ _ metrics
    · exact available_agree hsame hdaily hnarrow hlogs hindex hsome hsome' hr hr'

end Benchmark

section Results

omit [Field K] [LinearOrder K] in
theorem map_eq_ok {x : Except ε α} {f : α → β} : x.map f = .ok b ↔ ∃ a, x = .ok a ∧ f a = b := by
  cases x with
  | error e => exact iff_of_false nofun nofun
  | ok a =>
    constructor
    · intro h
      cases h
      exact ⟨a, rfl, rfl⟩
    · rintro ⟨_, ha, rfl⟩
      cases ha
      rfl

variable [FloorRing K] {math : PyMath K} {request request' : PeriodMetricCalculationRequest K}

/-- A daily metric is on days of the period. -/
theorem index_of_periodNonBenchmarkMetrics (hdaily : request.options.frequency = .daily)
    (h : periodNonBenchmarkMetrics math request = .ok m) :
    ∀ d ∈ m.metricSeries.index, d ∈ request.periodReturns.index := by
  obtain ⟨metricSeries, hmetric, h⟩ := bind_eq_ok.1 h
  have hindex : ∀ d ∈ metricSeries.series.index, d ∈ request.periodReturns.index := by
    rw [hdaily, resolveMetricReturnSeries, metricReturnSeries_daily] at hmetric
    split at hmetric
    · cases hmetric
      nofun
    · cases hmetric
      exact fun _ hd => hd
  obtain ⟨varSeries, _, h⟩ := bind_eq_ok.1 h
  cases herror : metricSeries.error with
  | some message =>
    simp only [herror] at h
    obtain ⟨_, _, hdone⟩ := bind_eq_ok.1 h
    cases hdone
    exact hindex
  | none =>
    simp only [herror] at h
    cases hvar : varSeries.error with
    | some message =>
      simp only [hvar] at h
      obtain ⟨_, _, hdone⟩ := bind_eq_ok.1 h
      cases hdone
      exact hindex
    | none =>
      simp only [hvar] at h
      obtain ⟨_, _, hdone⟩ := bind_eq_ok.1 h
      cases hdone
      exact hindex

/-- Daily results on the same returns have the same numbers, up to the risk-free rate and to
benchmark returns without a logarithm. -/
theorem calculatePeriodResult_agree (hsame : SameReturns request request')
    (hdaily : request.options.frequency = .daily) (hnarrow : NarrowerBenchmark request request')
    (hrate : key = RiskMetric.sharpe.text → request.periodicRf = request'.periodicRf)
    (hlogs : (∃ metric : BenchmarkMetric, metric.text = key) →
      logsUndefined request.options.useLogReturns
        (request.benchmark.between request.start request.stop) =
      logsUndefined request.options.useLogReturns
        (request'.benchmark.between request'.start request'.stop))
    (h : calculatePeriodResult math request = .ok result)
    (h' : calculatePeriodResult math request' = .ok result') :
    Option.Rel SameNumbers (result.metrics.get? key) (result'.metrics.get? key) := by
  obtain ⟨nonBenchmark, hnonBenchmark, h⟩ := bind_eq_ok.1 h
  obtain ⟨benchmark, hbenchmark, hdone⟩ := bind_eq_ok.1 h
  obtain ⟨nonBenchmark', hnonBenchmark', h'⟩ := bind_eq_ok.1 h'
  obtain ⟨benchmark', hbenchmark', hdone'⟩ := bind_eq_ok.1 h'
  cases hdone
  cases hdone'
  obtain ⟨hseries, herror, hmap⟩ := nonBenchmark_agree hsame hrate hnonBenchmark hnonBenchmark'
  apply Dict.rel_get?_ofList
  apply List.rel_append hmap
  rw [periodBenchmarkMetrics] at hbenchmark hbenchmark'
  rw [← hsame.metrics, ← herror, ← hseries] at hbenchmark'
  by_cases hnone : (requestedBenchmarkMetrics request.metrics).isEmpty = true
  · simp only [hnone, if_true] at hbenchmark hbenchmark'
    cases hbenchmark
    cases hbenchmark'
    exact .nil
  · simp only [hnone] at hbenchmark hbenchmark'
    cases hinvalid : nonBenchmark.metricSeriesError with
    | some message =>
      simp only [hinvalid] at hbenchmark hbenchmark'
      cases hbenchmark
      cases hbenchmark'
      exact agreeAt_refl key _
    | none =>
      simp only [hinvalid] at hbenchmark hbenchmark'
      obtain ⟨b, hb, rfl⟩ := map_eq_ok.1 hbenchmark
      obtain ⟨b', hb', rfl⟩ := map_eq_ok.1 hbenchmark'
      exact calculateBenchmarkPeriodMetrics_agree hsame hdaily hnarrow hlogs
        (index_of_periodNonBenchmarkMetrics hdaily hnonBenchmark) hb hb'

end Results

end LotusRisk
