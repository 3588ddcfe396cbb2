import LotusRisk.DateTexts
import LotusRisk.Drawdown.Summary
import LotusRisk.Lib.Ranking
import LotusRisk.Risk.Engine

/-! The drawdown analysis of the periods of a request. -/

namespace LotusRisk
set_option autoImplicit true

open Relational

variable {K : Type} [Field K] [LinearOrder K]

section Contracts

/-- The options of a drawdown request in full. -/
structure DrawdownReportOptions (K : Type) [Field K] [LinearOrder K] extends
    DrawdownAnalysisOptions K where
  includeUnderwaterSeries : Bool
  includeEpisodeList : Bool
  topNEpisodes : Nat
  minimumEpisodeDepthBps : K
  top_bounds : 1 ≤ topNEpisodes ∧ topNEpisodes ≤ 50
  depth_nonneg : 0 ≤ minimumEpisodeDepthBps

/-- The fields of its scope but the as-of date are not read. -/
structure DrawdownStatelessInput (K : Type) where
  asOfDate : Date
  periods : List RiskRequestPeriod
  returns : List (ReturnPoint K)
  benchmarkReturns : List (ReturnPoint K)
  names_unique : (periods.map RiskRequestPeriod.resolvedName).Nodup
  returns_unique : (returns.map ReturnPoint.date).Nodup
  benchmark_unique : (benchmarkReturns.map ReturnPoint.date).Nodup

structure DrawdownEpisode (K : Type) extends EpisodeRecord K where
  episodeId : String
deriving DecidableEq

structure RelativeDrawdownSummary (K : Type) where
  maxDrawdown : Option K
  maxDrawdownPeakDate : Option Date
  maxDrawdownTroughDate : Option Date
  maxDrawdownRecoveryDate : Option Date
  isRecovered : Bool
  daysToTrough : Option Nat
  daysToRecovery : Option Nat
  timeUnderWaterDays : Nat
deriving DecidableEq

inductive RelativeDrawdownReason where
  | notRequested
  | benchmarkUnavailable
  | noAlignedObservations
  | applied
deriving DecidableEq, Repr

structure RelativeDrawdownContext where
  requested : Bool
  applied : Bool
  reason : RelativeDrawdownReason
  alignedObservationCount : Nat
deriving DecidableEq, Repr

structure DrawdownPeriodResult (K : Type) where
  startDate : Date
  endDate : Date
  portfolioObservationCount : Nat
  benchmarkObservationCount : Nat
  summary : Option (DrawdownSummary K)
  episodes : List (DrawdownEpisode K)
  relativeToBenchmark : Option (RelativeDrawdownSummary K)
  relativeToBenchmarkContext : RelativeDrawdownContext
  underwaterSeries : Option (List (Date × K))
  error : Option String
deriving DecidableEq

end Contracts

section PeriodSeries

structure DrawdownInputFrames (K : Type) where
  portfolio : Series Date K
  benchmark : Series Date K

structure DrawdownPeriodSeries (K : Type) where
  name : String
  start : Date
  stop : Date
  portfolioReturns : Series Date K
  benchmarkReturns : Series Date K
  benchmarkAvailable : Bool

omit [Field K] [LinearOrder K] in
def buildInputFrames (request : DrawdownStatelessInput K) : DrawdownInputFrames K where
  portfolio := returnsFrame request.returns request.returns_unique
  benchmark := returnsFrame request.benchmarkReturns request.benchmark_unique

omit [Field K] [LinearOrder K] in
def drawdownPeriodSeries (frames : DrawdownInputFrames K) (request : DrawdownStatelessInput K)
    (period : RiskRequestPeriod) (openDate : Date) :
    Except PyException (DrawdownPeriodSeries K) := do
  let (start, stop) ← resolvePeriod period request.asOfDate openDate
  .ok {
    name := period.resolvedName
    start := start
    stop := stop
    portfolioReturns := frames.portfolio.between start stop
    benchmarkReturns :=
      if !frames.benchmark.isEmpty then frames.benchmark.between start stop else emptySeries
    benchmarkAvailable := !frames.benchmark.isEmpty }

end PeriodSeries

section Relative

variable [FloorRing K] (sqrt : K → K)

structure RelativeBenchmarkResult (K : Type) where
  summary : Option (RelativeDrawdownSummary K)
  context : RelativeDrawdownContext

def relativeBenchmarkContext (includeBenchmark : Option Bool) (benchmarkAvailable : Bool)
    (alignedObservationCount : Option Nat) : RelativeDrawdownContext :=
  let requested := includeBenchmark = some true
  match alignedObservationCount with
  | some count => {
      requested := requested
      applied := 0 < count
      reason := if 0 < count then .applied else .noAlignedObservations
      alignedObservationCount := count }
  | none => {
      requested := requested
      applied := false
      reason :=
        if benchmarkAvailable then .noAlignedObservations
        else if requested then .benchmarkUnavailable else .notRequested
      alignedObservationCount := 0 }

omit [Field K] [LinearOrder K] [FloorRing K] in
def relativeDrawdownSummary (activeSummary : DrawdownSummary K) : RelativeDrawdownSummary K where
  maxDrawdown := activeSummary.maxDrawdown
  maxDrawdownPeakDate := activeSummary.maxDrawdownPeakDate
  maxDrawdownTroughDate := activeSummary.maxDrawdownTroughDate
  maxDrawdownRecoveryDate := activeSummary.maxDrawdownRecoveryDate
  isRecovered := activeSummary.isRecovered
  daysToTrough := activeSummary.daysToTrough
  daysToRecovery := activeSummary.daysToRecovery
  timeUnderWaterDays := activeSummary.timeUnderWaterDays

/-- The summary and the episodes of a path; there is always one, so that there is no error. -/
def summaryOfPath (options : DrawdownAnalysisOptions K) (drawdown : Series Date K) :
    Except PyException (DrawdownSummary K × List (EpisodeRecord K)) :=
  match drawdownSummary sqrt drawdown options.cdarAlpha options.durationUnit with
  | some result => .ok result
  | none => .error (.valueError "drawdown")

/-- The returns over the benchmark on the common days. -/
def activeReturns (series : DrawdownPeriodSeries K) : Series Date K :=
  (series.portfolioReturns.innerJoin series.benchmarkReturns).map fun pair => pair.1 - pair.2

def activeDrawdownSummary (options : DrawdownAnalysisOptions K) (aligned : Series Date K) :
    Except PyException (DrawdownSummary K) := do
  let (activeSummary, _) ← summaryOfPath sqrt options (drawdownFromReturns aligned)
  .ok activeSummary

def relativeBenchmarkResult (series : DrawdownPeriodSeries K) (includeBenchmark : Option Bool)
    (options : DrawdownAnalysisOptions K) : Except PyException (RelativeBenchmarkResult K) :=
  if series.benchmarkReturns.isEmpty then
    .ok ⟨none, relativeBenchmarkContext includeBenchmark series.benchmarkAvailable none⟩
  else
    let aligned := activeReturns series
    let relativeContext := relativeBenchmarkContext includeBenchmark series.benchmarkAvailable
      (some aligned.index.length)
    if aligned.isEmpty then .ok ⟨none, relativeContext⟩
    else do
      let activeSummary ← activeDrawdownSummary sqrt options aligned
      .ok ⟨some (relativeDrawdownSummary activeSummary), relativeContext⟩

end Relative

section Periods

variable (sqrt : K → K)

def insufficientPeriodResult (series : DrawdownPeriodSeries K) (includeBenchmark : Option Bool) :
    DrawdownPeriodResult K where
  startDate := series.start
  endDate := series.stop
  portfolioObservationCount := 0
  benchmarkObservationCount := 0
  summary := none
  episodes := []
  relativeToBenchmark := none
  relativeToBenchmarkContext := {
    requested := includeBenchmark = some true
    applied := false
    reason := if includeBenchmark = some true then .benchmarkUnavailable else .notRequested
    alignedObservationCount := 0 }
  underwaterSeries := none
  error := some "Insufficient data"

def episodeModel (episode : EpisodeRecord K) (index : Nat) : DrawdownEpisode K :=
  { episode with episodeId := "dd_" ++ zeroPadded 4 (index + 1) }

def episodeModels (episodes : List (EpisodeRecord K)) (options : DrawdownReportOptions K) :
    List (DrawdownEpisode K) :=
  let minDepth := options.minimumEpisodeDepthBps / (10000 : Nat)
  let filteredEpisodes := episodes.filter fun episode => decide (minDepth ≤ |episode.depth|)
  let filteredEpisodes :=
    (Ranking.ranked EpisodeRecord.depth filteredEpisodes).take options.topNEpisodes
  if !options.includeEpisodeList then []
  else filteredEpisodes.mapIdx fun index episode => episodeModel episode index

variable [FloorRing K]

def calculatePeriodDrawdown (series : DrawdownPeriodSeries K) (options : DrawdownReportOptions K)
    (includeBenchmark : Option Bool) : Except PyException (DrawdownPeriodResult K) :=
  if series.portfolioReturns.index.length < 1 then
    .ok (insufficientPeriodResult series includeBenchmark)
  else do
    let drawdown := drawdownFromReturns series.portfolioReturns
    let (summary, episodes) ← summaryOfPath sqrt options.toDrawdownAnalysisOptions drawdown
    let relative ← relativeBenchmarkResult sqrt series includeBenchmark
      options.toDrawdownAnalysisOptions
    .ok {
      startDate := series.start
      endDate := series.stop
      portfolioObservationCount := series.portfolioReturns.index.length
      benchmarkObservationCount := series.benchmarkReturns.index.length
      summary := some summary
      episodes := episodeModels episodes options
      relativeToBenchmark := relative.summary
      relativeToBenchmarkContext := relative.context
      underwaterSeries :=
        if options.includeUnderwaterSeries then some drawdown.points else none
      error := none }

def drawdownPeriodEntry (request : DrawdownStatelessInput K) (options : DrawdownReportOptions K)
    (includeBenchmark : Option Bool) (openDate : Date) (period : RiskRequestPeriod) :
    Except PyException (String × DrawdownPeriodResult K) := do
  let series ← drawdownPeriodSeries (buildInputFrames request) request period openDate
  let result ← calculatePeriodDrawdown sqrt series options includeBenchmark
  .ok (series.name, result)

def drawdownPeriodResults (request : DrawdownStatelessInput K)
    (options : DrawdownReportOptions K) (includeBenchmark : Option Bool) (openDate : Date) :
    Except PyException (Dict String (DrawdownPeriodResult K)) := do
  let results ← request.periods.mapM
    (drawdownPeriodEntry sqrt request options includeBenchmark openDate)
  .ok (Dict.ofList results)

/-- The results of `calculate_drawdown`; the first date is that of a frame with rows. -/
def calculateDrawdownResults (request : DrawdownStatelessInput K)
    (options : DrawdownReportOptions K) (includeBenchmark : Option Bool) :
    Except PyException (Dict String (DrawdownPeriodResult K)) :=
  match (buildInputFrames request).portfolio.index.min? with
  | none => .ok Table.empty
  | some openDate => drawdownPeriodResults sqrt request options includeBenchmark openDate

end Periods

end LotusRisk
