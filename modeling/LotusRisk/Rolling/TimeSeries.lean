import LotusRisk.Lib.Raising
import LotusRisk.Risk.ValueAtRisk
import LotusRisk.Rolling.Engine

/-! The emitted time series hold the computed values once each, and their number is bounded by the
workload that was admitted. -/

namespace LotusRisk
set_option autoImplicit true

open Relational

section Points

variable {K : Type} {metricSeriesMap : Dict RollingMetric (RollingValues K)}

/-- The values of the points, with their date and metric. -/
def emittedValues (points : List (RollingMetricSeriesPoint K)) :
    List (Date × RollingMetric × Option K) :=
  points.flatMap fun point => Pivot.rowEntries point.date point.metricValues

/-- The cell of a value: no two values of a computed series map share it. -/
def valueCell (value : Date × RollingMetric × Option K) : Date × RollingMetric :=
  (value.1, value.2.1)

theorem nodup_seriesEntries (metricSeriesMap : Dict RollingMetric (RollingValues K)) :
    ((seriesEntries metricSeriesMap).map valueCell).Nodup := by
  rw [seriesEntries, List.map_flatMap, List.nodup_flatMap]
  refine ⟨?_, ?_⟩
  · intro m _
    have hdates : (m.2.points.map Prod.fst).Nodup := by
      rw [Series.map_fst_points]
      exact m.2.ascending.imp ne_of_lt
    rw [List.map_map]
    apply List.Nodup.of_map Prod.fst
    rw [List.map_map]
    exact hdates
  · apply (List.pairwise_map.1 metricSeriesMap.unique).imp
    intro m m' hne
    rw [Function.onFun, List.disjoint_left]
    intro cell hcell hcell'
    rw [List.map_map] at hcell hcell'
    obtain ⟨_, _, rfl⟩ := List.mem_map.1 hcell
    obtain ⟨_, _, heq⟩ := List.mem_map.1 hcell'
    exact hne (congrArg Prod.snd heq).symm

theorem mem_seriesEntries : (day, metric, value) ∈ seriesEntries metricSeriesMap ↔
    ∃ values, metricSeriesMap.get? metric = some values ∧ (day, value) ∈ values.points := by
  rw [seriesEntries, List.mem_flatMap]
  constructor
  · intro h
    obtain ⟨⟨metric', values⟩, hm, hmem⟩ := h
    obtain ⟨p, hp, heq⟩ := List.mem_map.1 hmem
    cases heq
    exact ⟨values, Dict.get?_eq_some.2 hm, hp⟩
  · intro h
    obtain ⟨values, hvalues, hmem⟩ := h
    exact ⟨(metric, values), Dict.get?_eq_some.1 hvalues, List.mem_map.2 ⟨(day, value), hmem, rfl⟩⟩

/-- The dates of the points are those of the pivot, in order. -/
theorem dates_rollingMetricSeriesPoints (metricSeriesMap : Dict RollingMetric (RollingValues K)) :
    (rollingMetricSeriesPoints metricSeriesMap).map RollingMetricSeriesPoint.date =
      (Pivot.pivot (seriesEntries metricSeriesMap)).keys.insertionSort (· ≤ ·) := by
  rw [rollingMetricSeriesPoints]
  split
  · rename_i hempty
    rw [seriesEntries, List.isEmpty_iff.1 hempty]
    rfl
  · rw [List.map_map]
    exact List.map_id _

theorem dates_ascending (metricSeriesMap : Dict RollingMetric (RollingValues K)) :
    ((rollingMetricSeriesPoints metricSeriesMap).map RollingMetricSeriesPoint.date).Pairwise
      (· < ·) := by
  rw [dates_rollingMetricSeriesPoints]
  have hnodup := (List.perm_insertionSort (· ≤ ·)
    (Pivot.pivot (seriesEntries metricSeriesMap)).keys).nodup_iff.2 (Table.unique _)
  apply ((List.pairwise_insertionSort (· ≤ ·) _).and hnodup).imp
  intro d d' h
  exact lt_of_le_of_ne h.1 h.2

/-- Nothing is dropped, repeated or made up. -/
theorem emittedValues_perm (metricSeriesMap : Dict RollingMetric (RollingValues K)) :
    (emittedValues (rollingMetricSeriesPoints metricSeriesMap)).Perm
      (seriesEntries metricSeriesMap) := by
  have hkept := Pivot.entries_pivot (nodup_seriesEntries metricSeriesMap)
  rw [Pivot.entries_eq_keys] at hkept
  refine List.Perm.trans ?_ hkept
  rw [rollingMetricSeriesPoints]
  split
  · rename_i hempty
    rw [seriesEntries, List.isEmpty_iff.1 hempty]
    exact .refl _
  · rw [emittedValues, List.flatMap_map]
    exact (List.perm_insertionSort (· ≤ ·) _).flatMap_right _

/-- A date is emitted where some metric has it. -/
theorem mem_dates {day : Date}
    (h : day ∈ (rollingMetricSeriesPoints metricSeriesMap).map RollingMetricSeriesPoint.date) :
    ∃ metric values, metricSeriesMap.get? metric = some values ∧ day ∈ values.index := by
  rw [dates_rollingMetricSeriesPoints, (List.perm_insertionSort _ _).mem_iff,
    Pivot.mem_keys_pivot] at h
  obtain ⟨⟨_, metric, value⟩, hmem, rfl⟩ := List.mem_map.1 h
  obtain ⟨values, hvalues, hpoint⟩ := mem_seriesEntries.1 hmem
  exact ⟨metric, values, hvalues, Series.mem_index hpoint⟩

theorem length_points_le {dates : List Date}
    (h : ∀ metric values, metricSeriesMap.get? metric = some values →
      values.index.Sublist dates) :
    (rollingMetricSeriesPoints metricSeriesMap).length ≤ dates.length := by
  have hnodup := (dates_ascending metricSeriesMap).imp ne_of_lt
  have hsubset : (rollingMetricSeriesPoints metricSeriesMap).map RollingMetricSeriesPoint.date ⊆
      dates := by
    intro day hday
    obtain ⟨metric, values, hvalues, hmem⟩ := mem_dates hday
    exact (h metric values hvalues).subset hmem
  have hlength := (List.Nodup.subperm hnodup hsubset).length_le
  rwa [List.length_map] at hlength

end Points

section Windows

variable {K : Type} [Field K] [LinearOrder K] {math : PyMath K}

/-- A value of the series that a requested metric computes. -/
def ComputedValue (math : PyMath K) (context : RollingMetricCalculationContext K)
    (metrics : List RollingMetric) (day : Date) (metric : RollingMetric) (value : Option K) :
    Prop :=
  metric ∈ metrics ∧ ∃ calculation,
    calculateRollingMetricValues math context metric = .ok calculation ∧
      (day, value) ∈ calculation.values.points

/-- The points hold the computed values of every requested metric, each of them once. -/
structure EmitsComputed (math : PyMath K) (context : RollingMetricCalculationContext K)
    (metrics : List RollingMetric) (points : List (RollingMetricSeriesPoint K)) : Prop where
  dates_ascending : (points.map RollingMetricSeriesPoint.date).Pairwise (· < ·)
  values_once : ((emittedValues points).map valueCell).Nodup
  complete : ∀ day metric value, (day, metric, value) ∈ emittedValues points ↔
    ComputedValue math context metrics day metric value

/-- The map holds the values of the metrics read so far. -/
def HoldsComputed (math : PyMath K) (context : RollingMetricCalculationContext K)
    (seen : List RollingMetric) (aggregate : RollingWindowMetricAggregate K) : Prop :=
  ∀ metric values, aggregate.metricSeriesMap.get? metric = some values ↔
    metric ∈ seen ∧ ∃ calculation,
      calculateRollingMetricValues math context metric = .ok calculation ∧
        calculation.values = values

theorem HoldsComputed.step {context : RollingMetricCalculationContext K}
    (h : HoldsComputed math context seen aggregate)
    (hstep : calculateWindowMetric math context aggregate metric = .ok aggregate') :
    HoldsComputed math context (seen ++ [metric]) aggregate' := by
  rw [calculateWindowMetric] at hstep
  obtain ⟨calculation, hcalculation, hstep⟩ := bind_eq_ok.1 hstep
  cases hstep
  intro metric' values
  simp only [RollingWindowMetricAggregate.addMetric, Dict.get?_set, List.mem_append,
    List.mem_singleton]
  by_cases hmetric : metric = metric'
  · subst hmetric
    rw [if_pos rfl, Option.some.injEq, hcalculation]
    constructor
    · intro hvalues
      exact ⟨.inr rfl, calculation, rfl, hvalues⟩
    · intro hmem
      obtain ⟨_, _, heq, hvalues⟩ := hmem
      cases heq
      exact hvalues
  · rw [if_neg hmetric, h, or_iff_left (Ne.symm hmetric)]

theorem holdsComputed {context : RollingMetricCalculationContext K}
    (h : calculateWindowMetricAggregate math context metrics = .ok aggregate) :
    HoldsComputed math context metrics aggregate := by
  have hempty : HoldsComputed math context []
      (⟨Table.empty, [], 0, 0⟩ : RollingWindowMetricAggregate K) := by
    intro metric values
    rw [Dict.get?_empty]
    constructor
    · intro hnone
      cases hnone
    · intro hmem
      cases hmem.1
  exact Raising.foldlM_trace (HoldsComputed math context)
    (fun _ _ _ _ hseen hstep => hseen.step hstep) [] hempty h

theorem HoldsComputed.emits {context : RollingMetricCalculationContext K}
    (h : HoldsComputed math context metrics aggregate) :
    EmitsComputed math context metrics (rollingMetricSeriesPoints aggregate.metricSeriesMap) := by
  have hperm := emittedValues_perm aggregate.metricSeriesMap
  refine ⟨dates_ascending _, ?_, ?_⟩
  · rw [(hperm.map valueCell).nodup_iff]
    exact nodup_seriesEntries _
  · intro day metric value
    rw [hperm.mem_iff, mem_seriesEntries, ComputedValue]
    constructor
    · intro hmem
      obtain ⟨values, hvalues, hpoint⟩ := hmem
      obtain ⟨hmetric, calculation, hcalculation, rfl⟩ := (h metric values).1 hvalues
      exact ⟨hmetric, calculation, hcalculation, hpoint⟩
    · intro hcomputed
      obtain ⟨hmetric, calculation, hcalculation, hpoint⟩ := hcomputed
      exact ⟨_, (h metric _).2 ⟨hmetric, calculation, hcalculation, rfl⟩, hpoint⟩

variable [FloorRing K]

/-- The window emits the series that its metrics compute from the period. -/
def EmitsWindow (math : PyMath K) (periodSeries : RollingPeriodSeries K) (options : RollingOptions)
    (window : RollingWindowResult K) : Prop :=
  ∃ points, window.metricSeries = some points ∧
    EmitsComputed math (windowContext periodSeries options window.windowLength) options.metrics
      points

def RollingWindowResult.emittedPointCount (window : RollingWindowResult K) : Nat :=
  (window.metricSeries.getD []).length

theorem calculateWindowResult_emits {options : RollingOptions}
    (hinclude : options.includeTimeSeries = true) (hwindow : windowLength ∈ options.windowLengths)
    (h : calculateWindowResult math periodSeries options windowLength = .ok calculation) :
    calculation.windowResult.windowLength = windowLength ∧
      EmitsWindow math periodSeries options calculation.windowResult ∧
      calculation.windowResult.emittedPointCount ≤ periodSeries.portfolioDecimal.index.length := by
  rw [calculateWindowResult] at h
  obtain ⟨aggregate, haggregate, h⟩ := bind_eq_ok.1 h
  cases h
  have hholds := holdsComputed haggregate
  have hvalid : validateRolling (windowContext periodSeries options windowLength) = .ok () :=
    validateRolling_minObservations (options.one_lt_window hwindow) rfl
  have hpoints : (rollingWindowResult aggregate options windowLength
      (windowContext periodSeries options windowLength).minObs).metricSeries =
        some (rollingMetricSeriesPoints aggregate.metricSeriesMap) := by
    rw [rollingWindowResult, if_pos hinclude]
  refine ⟨rfl, ⟨_, hpoints, hholds.emits⟩, ?_⟩
  rw [RollingWindowResult.emittedPointCount, hpoints, Option.getD_some]
  apply length_points_le
  intro metric values hvalues
  obtain ⟨_, calculation, hcalculation, rfl⟩ := (hholds metric values).1 hvalues
  obtain ⟨_, heq, hrolls⟩ := calculateRollingMetricValues_returns hvalid metric
  rw [hcalculation] at heq
  cases heq
  exact hrolls.dates

theorem windowLength_calculateWindowResult
    (h : calculateWindowResult math periodSeries options windowLength = .ok calculation) :
    calculation.windowResult.windowLength = windowLength := by
  rw [calculateWindowResult] at h
  obtain ⟨aggregate, _, h⟩ := bind_eq_ok.1 h
  cases h
  rfl

end Windows

section Periods

theorem sum_map_le {α : Type u} {l : List α} {f : α → Nat} (h : ∀ a ∈ l, f a ≤ n) :
    (l.map f).sum ≤ l.length * n := by
  induction l with
  | nil => exact Nat.zero_le _
  | cons a l ih =>
    rw [List.map_cons, List.sum_cons, List.length_cons, Nat.succ_mul, Nat.add_comm]
    exact Nat.add_le_add (ih fun b hb => h b (List.mem_cons_of_mem _ hb)) (h a List.mem_cons_self)

variable {K : Type} [Field K] [LinearOrder K] [FloorRing K] {math : PyMath K}

/-- Each requested window of a period with two or more observations emits its series. -/
structure EmitsPeriod (math : PyMath K) (periodSeries : RollingPeriodSeries K)
    (options : RollingOptions) (result : RollingPeriodResult K) : Prop where
  windows : result.windowResults.map RollingWindowResult.windowLength =
    if periodSeries.portfolioPp.index.length < 2 then [] else options.windowLengths
  emits : ∀ window ∈ result.windowResults, EmitsWindow math periodSeries options window

def RollingPeriodResult.emittedPointCount (result : RollingPeriodResult K) : Nat :=
  (result.windowResults.map RollingWindowResult.emittedPointCount).sum

theorem calculateRollingPeriodResult_emits {options : RollingOptions}
    (hinclude : options.includeTimeSeries = true)
    (h : calculateRollingPeriodResult math periodSeries options = .ok result) :
    EmitsPeriod math periodSeries options result ∧ result.emittedPointCount ≤
      options.windowLengths.length * periodSeries.portfolioDecimal.index.length := by
  rw [calculateRollingPeriodResult] at h
  split at h
  · rename_i hfew
    cases h
    refine ⟨⟨by rw [if_pos hfew]; rfl, ?_⟩, Nat.zero_le _⟩
    intro window hwindow
    cases hwindow
  · rename_i hfew
    obtain ⟨aggregate, haggregate, h⟩ := bind_eq_ok.1 h
    cases h
    rw [rollingPeriodWindowAggregate] at haggregate
    obtain ⟨calculations, hcalculations, haggregate⟩ := bind_eq_ok.1 haggregate
    cases haggregate
    have hlengths := map_of_mapM_ok (fun windowLength calculation =>
      windowLength_calculateWindowResult) hcalculations
    have hwindow : ∀ window ∈ calculations.map RollingWindowCalculation.windowResult,
        EmitsWindow math periodSeries options window ∧
          window.emittedPointCount ≤ periodSeries.portfolioDecimal.index.length := by
      intro window hmem
      obtain ⟨calculation, hcalculation, rfl⟩ := List.mem_map.1 hmem
      obtain ⟨windowLength, hlength, hok⟩ :=
        exists_of_mem_right (mapM_eq_ok.1 hcalculations) hcalculation
      exact (calculateWindowResult_emits hinclude hlength hok).2
    refine ⟨⟨?_, fun window hmem => (hwindow window hmem).1⟩, ?_⟩
    · rw [if_neg hfew, calculatedRollingPeriodResult, List.map_map]
      exact hlengths.trans (List.map_id _)
    · have hcount : calculations.length = options.windowLengths.length := by
        simpa using congrArg List.length hlengths
      have hsum := sum_map_le (fun window hmem => (hwindow window hmem).2)
      rwa [List.length_map, hcount] at hsum

omit [Field K] [LinearOrder K] [FloorRing K] in
theorem length_returnsFrame (points : List (ReturnPoint K)) (h) :
    (returnsFrame points h).index.length = points.length := by
  rw [returnsFrame, Series.sorted, Series.ofPoints, List.length_map, List.length_insertionSort,
    List.length_map]

omit [LinearOrder K] [FloorRing K] in
/-- A period has no more observations than the request. -/
theorem length_portfolioDecimal_le {request : RollingStatelessInput K}
    (h : rollingPeriodSeries (buildRollingInputFrames request) request period openDate =
      .ok periodSeries) :
    periodSeries.name = period.resolvedName ∧
      periodSeries.portfolioDecimal.index.length ≤ request.returns.length := by
  rw [rollingPeriodSeries] at h
  obtain ⟨window, _, h⟩ := bind_eq_ok.1 h
  cases h
  have hlength := (Series.index_between_sublist
    (buildRollingInputFrames request).portfolio window.1 window.2).length_le
  rw [buildRollingInputFrames, length_returnsFrame] at hlength
  exact ⟨rfl, hlength⟩

/-- The result of a name is that of the series of a requested period with this name. -/
def EmitsEntry (math : PyMath K) (request : RollingStatelessInput K) (openDate : Date)
    (name : String) (result : RollingPeriodResult K) : Prop :=
  ∃ period ∈ request.periods, ∃ periodSeries, name = period.resolvedName ∧
    rollingPeriodSeries (buildRollingInputFrames request) request period openDate =
      .ok periodSeries ∧
    EmitsPeriod math periodSeries request.rollingOptions result

theorem rollingPeriodEntry_emits {request : RollingStatelessInput K}
    (hinclude : request.rollingOptions.includeTimeSeries = true) (hperiod : period ∈ request.periods)
    (h : rollingPeriodEntry math request openDate period = .ok entry) :
    EmitsEntry math request openDate entry.1 entry.2 ∧ entry.2.emittedPointCount ≤
      request.rollingOptions.windowLengths.length * request.returns.length := by
  rw [rollingPeriodEntry] at h
  obtain ⟨periodSeries, hseries, h⟩ := bind_eq_ok.1 h
  obtain ⟨result, hresult, h⟩ := bind_eq_ok.1 h
  cases h
  obtain ⟨hname, hlength⟩ := length_portfolioDecimal_le hseries
  obtain ⟨hemits, hcount⟩ := calculateRollingPeriodResult_emits hinclude hresult
  exact ⟨⟨period, hperiod, periodSeries, hname, hseries, hemits⟩,
    hcount.trans (Nat.mul_le_mul_left _ hlength)⟩

theorem name_rollingPeriodEntry {request : RollingStatelessInput K} (period)
    (entry : String × RollingPeriodResult K)
    (h : rollingPeriodEntry math request openDate period = .ok entry) :
    entry.1 = period.resolvedName := by
  rw [rollingPeriodEntry] at h
  obtain ⟨periodSeries, hseries, h⟩ := bind_eq_ok.1 h
  obtain ⟨result, _, h⟩ := bind_eq_ok.1 h
  cases h
  exact (length_portfolioDecimal_le hseries).1

end Periods

section Response

variable {K : Type} [Field K] [LinearOrder K] [FloorRing K] {math : PyMath K}

/-- The points of all periods and windows. -/
def emittedPointCount (results : Dict String (RollingPeriodResult K)) : Nat :=
  (results.items.map fun m => m.2.emittedPointCount).sum

/-- The series of a response: one result a period, complete series in every result, and no more
points in all than the limit. -/
structure TimeSeriesComplete (math : PyMath K) (request : RollingStatelessInput K)
    (results : Dict String (RollingPeriodResult K)) : Prop where
  reported : request.returns ≠ [] →
    results.keys = request.periods.map RiskRequestPeriod.resolvedName
  emits : ∀ name result, (name, result) ∈ results.items → ∃ openDate,
    (buildRollingInputFrames request).portfolio.index.min? = some openDate ∧
      EmitsEntry math request openDate name result
  bounded : emittedPointCount results ≤ rollingMaxTimeSeriesPoints

theorem rollingPeriodResults_complete {request : RollingStatelessInput K}
    (hinclude : request.rollingOptions.includeTimeSeries = true)
    (hopen : (buildRollingInputFrames request).portfolio.index.min? = some openDate)
    (h : rollingPeriodResults math request openDate = .ok results) :
    TimeSeriesComplete math request results := by
  rw [rollingPeriodResults] at h
  obtain ⟨entries, hentries, h⟩ := bind_eq_ok.1 h
  cases h
  have hnames := map_of_mapM_ok name_rollingPeriodEntry hentries
  have hitems : (Dict.ofList entries).items = entries := by
    apply Dict.items_ofList
    rw [hnames]
    exact request.admitted.names_unique
  have hentry : ∀ entry ∈ entries, EmitsEntry math request openDate entry.1 entry.2 ∧
      entry.2.emittedPointCount ≤
        request.rollingOptions.windowLengths.length * request.returns.length := by
    intro entry hmem
    obtain ⟨period, hperiod, hok⟩ := exists_of_mem_right (mapM_eq_ok.1 hentries) hmem
    exact rollingPeriodEntry_emits hinclude hperiod hok
  refine ⟨?_, ?_, ?_⟩
  · intro _
    rw [Dict.keys]
    exact (congrArg (List.map Prod.fst) hitems).trans hnames
  · intro name result hmem
    rw [hitems] at hmem
    exact ⟨openDate, hopen, (hentry _ hmem).1⟩
  · rw [emittedPointCount, hitems]
    have hcount : entries.length = request.periods.length := by
      simpa using congrArg List.length hnames
    calc
      (entries.map fun m => m.2.emittedPointCount).sum
        ≤ entries.length * (request.rollingOptions.windowLengths.length * request.returns.length) :=
        sum_map_le fun entry hmem => (hentry entry hmem).2
      _ = request.periods.length * request.rollingOptions.windowLengths.length *
          request.returns.length := by
        rw [hcount, Nat.mul_assoc]
      _ ≤ rollingMaxTimeSeriesPoints := request.admitted.workload hinclude

theorem calculateRollingMetrics_complete {request : RollingStatelessInput K}
    (hinclude : request.rollingOptions.includeTimeSeries = true)
    (h : calculateRollingMetrics math request = .ok results) :
    TimeSeriesComplete math request results := by
  rw [calculateRollingMetrics] at h
  cases hopen : (buildRollingInputFrames request).portfolio.index.min? with
  | none =>
    rw [hopen] at h
    cases h
    refine ⟨?_, ?_, Nat.zero_le _⟩
    · intro hne
      have hindex : (buildRollingInputFrames request).portfolio.index = [] :=
        List.min?_eq_none_iff.1 hopen
      have hlength := length_returnsFrame request.returns request.admitted.returns_unique
      rw [buildRollingInputFrames] at hindex
      rw [hindex] at hlength
      exact absurd (List.length_eq_zero_iff.1 hlength.symm) hne
    · intro name result hmem
      cases hmem
  | some openDate =>
    rw [hopen] at h
    exact rollingPeriodResults_complete hinclude hopen h

/-- In both modes a response with time series holds every computed value once, at dates that
ascend, and no more points than the limit. -/
theorem rolling_time_series_complete (math : PyMath K) :
    (∀ request : RollingStatelessInput K, request.rollingOptions.includeTimeSeries = true →
      ∀ results, calculateRollingMetrics math request = .ok results →
        TimeSeriesComplete math request results) ∧
    ∀ resolved : ResolvedStatefulRollingInputs K,
      resolved.stateful.rollingOptions.includeTimeSeries = true →
      ∀ results, calculateStatefulResponse math resolved = .ok results →
        ∃ request, buildStatelessRequest resolved = .ok request ∧
          request.returns = resolved.portfolioPoints ∧
          request.periods = resolved.stateful.periods ∧
          request.rollingOptions = resolved.stateful.rollingOptions ∧
          TimeSeriesComplete math request results := by
  refine ⟨fun request hinclude results h => calculateRollingMetrics_complete hinclude h, ?_⟩
  intro resolved hinclude results h
  rw [calculateStatefulResponse] at h
  obtain ⟨request, hrequest, hresults⟩ := bind_eq_ok.1 h
  have hbuilt := hrequest
  rw [buildStatelessRequest] at hbuilt
  obtain ⟨_, _, hbuilt⟩ := bind_eq_ok.1 hbuilt
  have hfields := RollingStatelessInput.ofFields_eq_ok hbuilt
  have hoptions : request.rollingOptions = resolved.stateful.rollingOptions :=
    congrArg RollingStatelessFields.rollingOptions hfields
  refine ⟨request, hrequest, congrArg RollingStatelessFields.returns hfields,
    congrArg RollingStatelessFields.periods hfields, hoptions, ?_⟩
  apply calculateRollingMetrics_complete _ hresults
  rw [hoptions]
  exact hinclude

end Response

section TwoDays

def twoDayFields : RollingStatelessFields ℚ where
  asOfDate := ⟨2026, 3, 31, by decide⟩
  periods := [yearPeriod 2026]
  returns := [⟨⟨2026, 3, 2, by decide⟩, 1⟩, ⟨⟨2026, 3, 3, by decide⟩, -1⟩]
  benchmarkReturns := []
  riskFreeReturns := []
  rollingOptions :=
    { windowLengths := [2, 3]
      metrics := [.rollingMaxDrawdown, .rollingVolatility]
      annualizationBasis := 1
      minObservationsPolicy := .strict
      includeTimeSeries := true
      accepted := by decide }

theorem twoDayFields_accepted : twoDayFields.validate = .ok () := by decide +kernel

def twoDayRequest : RollingStatelessInput ℚ := ⟨twoDayFields, twoDayFields_accepted⟩

theorem rolling_time_series_complete_two_days : ∃ results,
    calculateRollingMetrics rationalMath twoDayRequest = .ok results ∧
      TimeSeriesComplete rationalMath twoDayRequest results := by
  have hreturns : (calculateRollingMetrics rationalMath twoDayRequest).toOption.isSome = true := by
    decide +kernel
  obtain ⟨results, h⟩ := ok_of_isSome hreturns
  exact ⟨results, h, (rolling_time_series_complete rationalMath).1 twoDayRequest rfl results h⟩

/-- Two windows of two dates; the window of three holds no value. -/
example : (calculateRollingMetrics rationalMath twoDayRequest).toOption.map emittedPointCount =
    some 4 := by
  decide +kernel

end TwoDays

end LotusRisk
