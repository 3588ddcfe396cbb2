import LotusRisk.Lib.Pivot
import LotusRisk.Quantile
import LotusRisk.Rolling.MetricSeries

/-! The summary of a rolling metric, and the metrics of a window as points by date. -/

namespace LotusRisk
set_option autoImplicit true

open Relational

section Summary

variable {K : Type} [Field K] [LinearOrder K] [FloorRing K]

structure RollingMetricSummary (K : Type) where
  totalPointCount : Int
  computedPointCount : Int
  coverageRatio : K
  minObservationsRequired : Int
  warmupPointCount : Int
  nonComputedPointCount : Int
  postWarmupGapPointCount : Int
  latestObservationDate : Option Date
  latest : Option K
  average : Option K
  minimum : Option K
  maximum : Option K
  p05 : Option K
  p50 : Option K
  p95 : Option K

structure RollingMetricSummaryCounts where
  totalPointCount : Int
  computedPointCount : Int
  warmupPointCount : Int
  nonComputedPointCount : Int
  postWarmupGapPointCount : Int

omit [Field K] [LinearOrder K] [FloorRing K] in
def rollingMetricSummaryCounts (values : RollingValues K) (clean : Series Date K) (minObs : Int) :
    RollingMetricSummaryCounts :=
  let totalPointCount : Int := values.values.length
  let warmupPointCount := min totalPointCount (max (minObs - 1) 0)
  let computedPointCount : Int := clean.values.length
  let nonComputedPointCount := totalPointCount - computedPointCount
  { totalPointCount := totalPointCount
    computedPointCount := computedPointCount
    warmupPointCount := warmupPointCount
    nonComputedPointCount := nonComputedPointCount
    postWarmupGapPointCount := max (nonComputedPointCount - warmupPointCount) 0 }

omit [LinearOrder K] [FloorRing K] in
def RollingMetricSummaryCounts.coverageRatio (counts : RollingMetricSummaryCounts) : K :=
  if counts.totalPointCount = 0 then 0
  else (counts.computedPointCount : K) / (counts.totalPointCount : K)

omit [LinearOrder K] [FloorRing K] in
def emptyRollingMetricSummary (counts : RollingMetricSummaryCounts) (minObs : Int) :
    RollingMetricSummary K where
  totalPointCount := counts.totalPointCount
  computedPointCount := 0
  coverageRatio := 0
  minObservationsRequired := minObs
  warmupPointCount := counts.warmupPointCount
  nonComputedPointCount := counts.nonComputedPointCount
  postWarmupGapPointCount := counts.postWarmupGapPointCount
  latestObservationDate := none
  latest := none
  average := none
  minimum := none
  maximum := none
  p05 := none
  p50 := none
  p95 := none

def rollingMetricSummary (values : RollingValues K) (minObs : Int) : RollingMetricSummary K :=
  let clean := values.dropna
  let counts := rollingMetricSummaryCounts values clean minObs
  if clean.isEmpty then emptyRollingMetricSummary counts minObs
  else
    { totalPointCount := counts.totalPointCount
      computedPointCount := counts.computedPointCount
      coverageRatio := counts.coverageRatio
      minObservationsRequired := minObs
      warmupPointCount := counts.warmupPointCount
      nonComputedPointCount := counts.nonComputedPointCount
      postWarmupGapPointCount := counts.postWarmupGapPointCount
      latestObservationDate := clean.index.getLast?
      latest := clean.values.getLast?
      average := some (mean clean.values)
      minimum := clean.values.min?
      maximum := clean.values.max?
      p05 := quantile clean.values (1 / (20 : Nat))
      p50 := quantile clean.values (1 / (2 : Nat))
      p95 := quantile clean.values ((19 : Nat) / (20 : Nat)) }

end Summary

section Points

variable {K : Type}

structure RollingMetricSeriesPoint (K : Type) where
  date : Date
  metricValues : Dict RollingMetric (Option K)

/-- The values of each metric's series, in the order of the two loops. -/
def seriesEntries (metricSeriesMap : Dict RollingMetric (RollingValues K)) :
    List (Date × RollingMetric × Option K) :=
  metricSeriesMap.items.flatMap fun m => m.2.points.map fun p => (p.1, m.1, p.2)

def rollingMetricSeriesPoints (metricSeriesMap : Dict RollingMetric (RollingValues K)) :
    List (RollingMetricSeriesPoint K) :=
  if metricSeriesMap.items.isEmpty then []
  else
    let pointsByDate := Pivot.pivot (seriesEntries metricSeriesMap)
    let orderedDates := pointsByDate.keys.insertionSort (· ≤ ·)
    orderedDates.map fun day => ⟨day, pointsByDate.getD day Table.empty⟩

structure RollingMetricSeriesContext where
  requested : Bool
  included : Bool
  emittedPointCount : Nat
  reason : String
deriving DecidableEq

def rollingMetricSeriesContext (includeTimeSeries : Bool)
    (metricPoints : Option (List (RollingMetricSeriesPoint K))) : RollingMetricSeriesContext :=
  let emittedPointCount := (metricPoints.getD []).length
  if !includeTimeSeries then ⟨false, false, 0, "OMITTED_BY_REQUEST"⟩
  else if emittedPointCount = 0 then ⟨true, false, 0, "NO_METRIC_SERIES"⟩
  else ⟨true, true, emittedPointCount, "INCLUDED"⟩

end Points

end LotusRisk
