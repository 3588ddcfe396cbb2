import LotusRisk.Drawdown.Episodes
import LotusRisk.Drawdown.Wealth
import LotusRisk.Statistics

namespace LotusRisk
set_option autoImplicit true

variable {K : Type} [Field K] [LinearOrder K]

structure DrawdownSummary (K : Type) where
  maxDrawdown : Option K
  maxDrawdownPeakDate : Option Date
  maxDrawdownTroughDate : Option Date
  maxDrawdownRecoveryDate : Option Date
  isRecovered : Bool
  daysToTrough : Option Nat
  daysToRecovery : Option Nat
  timeUnderWaterDays : Nat
  averageDrawdown : Option K
  ulcerIndex : Option K
  drawdownAtRisk95 : Option K
  conditionalDrawdownAtRisk95 : Option K
deriving DecidableEq

def emptyDrawdownSummary : DrawdownSummary K where
  maxDrawdown := none
  maxDrawdownPeakDate := none
  maxDrawdownTroughDate := none
  maxDrawdownRecoveryDate := none
  isRecovered := false
  daysToTrough := none
  daysToRecovery := none
  timeUnderWaterDays := 0
  averageDrawdown := none
  ulcerIndex := none
  drawdownAtRisk95 := none
  conditionalDrawdownAtRisk95 := none

/-- The options of a drawdown request that a summary reads. -/
structure DrawdownAnalysisOptions (K : Type) [Field K] where
  cdarAlpha : K
  durationUnit : DurationUnit
  alpha_allowed : cdarAlpha = 90 / 100 ∨ cdarAlpha = 95 / 100 ∨ cdarAlpha = 99 / 100

def buildEpisodes (drawdown : Series Date K) (durationUnit : DurationUnit) :
    Option (List (EpisodeRecord K)) :=
  if drawdown.values.isEmpty then some []
  else buildEpisodesFromValues drawdown.index drawdown.values durationUnit

def averageDrawdown (drawdown : Series Date K) : K :=
  let underwaterObservations := drawdown.values.filter (fun dd => dd < 0)
  if underwaterObservations.isEmpty then 0 else mean underwaterObservations

omit [LinearOrder K] in
/-- `sqrt` is `math.sqrt`. -/
def ulcerIndex (sqrt : K → K) (drawdown : Series Date K) : K :=
  sqrt (mean (drawdown.values.map (fun dd => dd * dd)))

variable [FloorRing K]

/-- The depth at the tail quantile, and the mean of the depths at or below it. -/
def tailDrawdownRisk (depths : List K) (alpha : K) : Option (Option K × Option K) :=
  if depths.isEmpty then some (none, none)
  else do
    let darMetric ← quantile depths (1 - alpha)
    let worstTail := depths.filter (fun depth => depth ≤ darMetric)
    some (some darMetric, if worstTail.isEmpty then none else some (mean worstTail))

def drawdownSummary (sqrt : K → K) (drawdown : Series Date K) (alpha : K)
    (durationUnit : DurationUnit) : Option (DrawdownSummary K × List (EpisodeRecord K)) :=
  if drawdown.isEmpty then some (emptyDrawdownSummary, [])
  else do
    let episodes ← buildEpisodes drawdown durationUnit
    let (darValue, cdarValue) ← tailDrawdownRisk (episodes.map EpisodeRecord.depth) alpha
    let extreme := drawdownExtremeFields episodes
    some ({
      maxDrawdown := some extreme.maxDrawdown
      maxDrawdownPeakDate := extreme.peakDate
      maxDrawdownTroughDate := extreme.troughDate
      maxDrawdownRecoveryDate := extreme.recoveryDate
      isRecovered := extreme.isRecovered
      daysToTrough := extreme.daysToTrough
      daysToRecovery := extreme.daysToRecovery
      timeUnderWaterDays := (drawdown.values.filter (fun dd => dd < 0)).length
      averageDrawdown := some (averageDrawdown drawdown)
      ulcerIndex := some (ulcerIndex sqrt drawdown)
      drawdownAtRisk95 := darValue
      conditionalDrawdownAtRisk95 := cdarValue }, episodes)

theorem exists_tailDrawdownRisk (depths : List K) (h₀ : 0 ≤ 1 - alpha) (h₁ : 1 - alpha ≤ 1) :
    ∃ risk, tailDrawdownRisk depths alpha = some risk := by
  unfold tailDrawdownRisk
  split
  · exact ⟨_, rfl⟩
  · obtain ⟨value, hvalue⟩ := exists_quantile depths h₀ h₁
    rw [hvalue]
    exact ⟨_, rfl⟩

/-- The summary of a non-empty series reports the extreme episode. -/
theorem drawdownSummary_eq (sqrt : K → K) (drawdown : Series Date K) (h : drawdown.index ≠ [])
    (h₀ : 0 ≤ 1 - alpha) (h₁ : 1 - alpha ≤ 1)
    (hepisodes : buildEpisodesFromValues drawdown.index drawdown.values durationUnit =
      some episodes) :
    ∃ summary, drawdownSummary sqrt drawdown alpha durationUnit = some (summary, episodes) ∧
      summary.maxDrawdown = some (drawdownExtremeFields episodes).maxDrawdown ∧
      summary.maxDrawdownPeakDate = (drawdownExtremeFields episodes).peakDate ∧
      summary.maxDrawdownTroughDate = (drawdownExtremeFields episodes).troughDate ∧
      summary.maxDrawdownRecoveryDate = (drawdownExtremeFields episodes).recoveryDate ∧
      summary.isRecovered = (drawdownExtremeFields episodes).isRecovered := by
  have hindex : ¬ drawdown.isEmpty = true := by simpa [Series.isEmpty] using h
  have hvalues : ¬ drawdown.values.isEmpty = true := by
    have hlen := drawdown.length_values
    rw [List.isEmpty_iff, ← List.length_eq_zero_iff, hlen, List.length_eq_zero_iff]
    exact h
  obtain ⟨risk, hrisk⟩ := exists_tailDrawdownRisk (episodes.map EpisodeRecord.depth) h₀ h₁
  simp only [drawdownSummary, if_neg hindex, buildEpisodes, if_neg hvalues, hepisodes, hrisk,
    Option.bind_eq_bind, Option.bind_some]
  exact ⟨_, rfl, rfl, rfl, rfl, rfl, rfl⟩

end LotusRisk
