import LotusRisk.Calendar
import LotusRisk.Lib.MaximalRuns
import LotusRisk.Lib.Series

namespace LotusRisk
open MaximalRuns
set_option autoImplicit true

section Model

variable {α : Type} [LinearOrder α] [Zero α]

structure EpisodeRecord (α : Type) where
  peakDate : Option Date
  troughDate : Date
  recoveryDate : Option Date
  depth : α
  daysToTrough : Option Nat
  daysToRecovery : Option Nat
  totalDays : Option Nat
  isRecovered : Bool
deriving DecidableEq

structure DrawdownExtremeFields (α : Type) where
  maxDrawdown : α
  peakDate : Option Date
  troughDate : Option Date
  recoveryDate : Option Date
  isRecovered : Bool
  daysToTrough : Option Nat
  daysToRecovery : Option Nat
deriving DecidableEq

/-- `_EpisodeBuildContext`. -/
structure EpisodeBuildContext (α : Type) where
  dates : List Date
  values : List α
  durationUnit : DurationUnit

/-- `_episode_peak_date`. The outer `none` stands for an `IndexError`. -/
def episodePeakDate (dates : List Date) (index : Nat) : Option (Option Date) :=
  if index > 0 then (dates[index - 1]?).map some else some none

/-- `none` stands for an `IndexError`, or the `ValueError` of an empty segment. -/
def episodeRecordFromSegment (dates : List Date) (values : List α) (startIndex : Nat)
    (peakDate : Option Date) (durationUnit : DurationUnit) (recoveryIndex : Option Nat) :
    Option (EpisodeRecord α) := do
  let endIndex := recoveryIndex.getD (values.length - 1)
  let segmentValues := (values.take (endIndex + 1)).drop startIndex
  let troughIndex := startIndex + Series.argmin segmentValues
  let troughDate ← dates[troughIndex]?
  let recoveryDate ← match recoveryIndex with
    | some index => (dates[index]?).map some
    | none => some none
  let lastDate ← dates.getLast?
  let terminalDate := recoveryDate.getD lastDate
  let depth ← segmentValues.min?
  some {
    peakDate := peakDate
    troughDate := troughDate
    recoveryDate := recoveryDate
    depth := depth
    daysToTrough := peakDate.map (fun peak => durationDays peak troughDate durationUnit)
    daysToRecovery := recoveryDate.map (fun recovery =>
      durationDays troughDate recovery durationUnit)
    totalDays := peakDate.map (fun peak => durationDays peak terminalDate durationUnit)
    isRecovered := recoveryDate.isSome }

/-- The variables of the scanning loop. -/
structure EpisodeScan (α : Type) where
  episodes : List (EpisodeRecord α)
  inEpisode : Bool
  startIndex : Nat
  peakDate : Option Date

/-- `_append_episode_record`. -/
def appendEpisodeRecord (context : EpisodeBuildContext α) (scan : EpisodeScan α)
    (recoveryIndex : Option Nat) : Option (List (EpisodeRecord α)) := do
  let episode ← episodeRecordFromSegment context.dates context.values scan.startIndex
    scan.peakDate context.durationUnit recoveryIndex
  some (scan.episodes ++ [episode])

/-- One round of the scanning loop. -/
def scanEpisode (context : EpisodeBuildContext α) (scan : EpisodeScan α) (ddValue : α)
    (idx : Nat) : Option (EpisodeScan α) :=
  if !scan.inEpisode && decide (ddValue < 0) then do
    let peakDate ← episodePeakDate context.dates idx
    some { scan with inEpisode := true, startIndex := idx, peakDate := peakDate }
  else if scan.inEpisode && decide (0 ≤ ddValue) then do
    let episodes ← appendEpisodeRecord context scan (some idx)
    some { scan with episodes := episodes, inEpisode := false }
  else some scan

/-- The scanning loop from index `idx` on. -/
def scanEpisodes (context : EpisodeBuildContext α) (scan : EpisodeScan α) :
    List α → Nat → Option (EpisodeScan α)
  | [], _ => some scan
  | ddValue :: rest, idx => do
    let scan ← scanEpisode context scan ddValue idx
    scanEpisodes context scan rest (idx + 1)

def buildEpisodesFromValues (dates : List Date) (values : List α) (durationUnit : DurationUnit) :
    Option (List (EpisodeRecord α)) := do
  let context := { dates := dates, values := values, durationUnit := durationUnit }
  let firstDate ← dates[0]?
  let scan ← scanEpisodes context
    { episodes := [], inEpisode := false, startIndex := 0, peakDate := some firstDate } values 0
  if scan.inEpisode then appendEpisodeRecord context scan none else some scan.episodes

def drawdownExtremeFields (episodes : List (EpisodeRecord α)) : DrawdownExtremeFields α :=
  match Series.minBy EpisodeRecord.depth episodes with
  | none => {
      maxDrawdown := 0
      peakDate := none
      troughDate := none
      recoveryDate := none
      isRecovered := true
      daysToTrough := some 0
      daysToRecovery := some 0 }
  | some maxEpisode => {
      maxDrawdown := maxEpisode.depth
      peakDate := maxEpisode.peakDate
      troughDate := some maxEpisode.troughDate
      recoveryDate := maxEpisode.recoveryDate
      isRecovered := maxEpisode.isRecovered
      daysToTrough := maxEpisode.daysToTrough
      daysToRecovery := maxEpisode.daysToRecovery }

end Model

end LotusRisk
