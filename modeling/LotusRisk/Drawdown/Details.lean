import LotusRisk.Calendar
import LotusRisk.Drawdown.Wealth

namespace LotusRisk
open RunningPeak
set_option autoImplicit true

section Model

variable {K : Type} [Field K] [LinearOrder K]

structure DrawdownRecovery where
  recoveryDate : Option String
  isRecovered : Bool
  daysToRecovery : Option Int
  timeUnderWaterDays : Option Int
deriving DecidableEq, Repr

structure DrawdownDetails (K : Type) where
  maxDrawdown : K
  peakDate : Option String
  troughDate : Option String
  maxDrawdownDate : Option String
  recoveryDate : Option String
  isRecovered : Bool
  daysToTrough : Option Int
  daysToRecovery : Option Int
  timeUnderWaterDays : Option Int
deriving DecidableEq, Repr

def emptyDrawdownDetails : DrawdownDetails K where
  maxDrawdown := 0
  peakDate := none
  troughDate := none
  maxDrawdownDate := none
  recoveryDate := none
  isRecovered := true
  daysToTrough := none
  daysToRecovery := none
  timeUnderWaterDays := some 0

/-- `(end - start).days`. -/
def Date.daysUntil (start stop : Date) : Int := (stop.toordinal : Int) - start.toordinal

/-- `none` stands for the `IndexError` of an empty index. -/
def drawdownRecovery (wealth : Series Date K) (peakIdx : Option Date) (troughIdx : Date)
    (peakValue : K) : Option DrawdownRecovery := do
  let recoveryCandidates := (wealth.locFrom troughIdx).filter (fun p => peakValue ≤ p.2)
  match recoveryCandidates.head? with
  | none =>
    let lastIdx ← wealth.index.getLast?
    some {
      recoveryDate := none
      isRecovered := false
      daysToRecovery := none
      timeUnderWaterDays := peakIdx.map (fun peak => peak.daysUntil lastIdx) }
  | some (recoveryIdx, _) =>
    some {
      recoveryDate := some recoveryIdx.isoformat
      isRecovered := true
      daysToRecovery := some (troughIdx.daysUntil recoveryIdx)
      timeUnderWaterDays := peakIdx.map (fun peak => peak.daysUntil recoveryIdx) }

/-- `none` stands for a label that is not in the index. -/
def drawdownDetails (returns : Series Date K) : Option (DrawdownDetails K) :=
  let wealth := cumulativeWealth returns
  let peak := runningPeak wealth
  let drawdown := wealth.withValues (belowPeak wealth.values peak.values)
    (length_belowPeak wealth)
  if drawdown.isEmpty then some emptyDrawdownDetails
  else do
    let troughIdx ← drawdown.idxmin
    let peakValue ← peak.loc troughIdx
    let observedPeakCandidates := (wealth.locTo troughIdx).filter (fun p => peakValue ≤ p.2)
    let peakIdx := observedPeakCandidates.head?.map Prod.fst
    let maxDrawdown ← drawdown.loc troughIdx
    let recovery ← drawdownRecovery wealth peakIdx troughIdx peakValue
    some {
      maxDrawdown := inPercent maxDrawdown
      peakDate := peakIdx.map Date.isoformat
      troughDate := some troughIdx.isoformat
      maxDrawdownDate := some troughIdx.isoformat
      recoveryDate := recovery.recoveryDate
      isRecovered := recovery.isRecovered
      daysToTrough := peakIdx.map (fun peak => peak.daysUntil troughIdx)
      daysToRecovery := recovery.daysToRecovery
      timeUnderWaterDays := recovery.timeUnderWaterDays }

end Model

section Spec

variable {K : Type} [Field K] [LinearOrder K] {returns : Series Date K}

theorem length_drawdown (returns : Series Date K) :
    (drawdownFromReturns returns).values.length = returns.index.length := by
  rw [drawdownFromReturns_values, List.length_map, List.length_range, returns.length_values]

theorem getElem_drawdown (h : i < (drawdownFromReturns returns).values.length) :
    (drawdownFromReturns returns).values[i] = decline (wealthAt returns.values) (i + 1) := by
  simp only [drawdownFromReturns_values, List.getElem_map, List.getElem_range]

/-- The position of the maximum drawdown: the first of the deepest declines. -/
structure IsTrough (returns : Series Date K) (t : Nat) : Prop where
  inBounds : t < returns.index.length
  deepest : ∀ i < returns.index.length,
    decline (wealthAt returns.values) (t + 1) ≤ decline (wealthAt returns.values) (i + 1)
  first : ∀ i < t,
    decline (wealthAt returns.values) (t + 1) < decline (wealthAt returns.values) (i + 1)

theorem isTrough_argmin (h : returns.index ≠ []) :
    IsTrough returns (Series.argmin (drawdownFromReturns returns).values) := by
  have hne : (drawdownFromReturns returns).values ≠ [] := by
    intro hnil
    have hlen := length_drawdown returns
    rw [hnil] at hlen
    exact h (List.length_eq_zero_iff.1 hlen.symm)
  have hlt := Series.argmin_lt_length hne
  refine ⟨length_drawdown returns ▸ hlt, ?_, ?_⟩
  · intro i hi
    have hi' : i < (drawdownFromReturns returns).values.length := by
      rw [length_drawdown]
      exact hi
    have hle := Series.getElem_argmin_le hlt (List.getElem_mem hi')
    rwa [getElem_drawdown, getElem_drawdown] at hle
  · intro i hi
    have hle := Series.lt_of_lt_argmin hlt hi
    rwa [getElem_drawdown, getElem_drawdown] at hle

theorem IsTrough.unique (h : IsTrough returns t) (h' : IsTrough returns t') : t = t' := by
  rcases Nat.lt_trichotomy t t' with hlt | heq | hgt
  · exact absurd (h'.first t hlt) (not_lt.2 (h.deepest t' h'.inBounds))
  · exact heq
  · exact absurd (h.first t' hgt) (not_lt.2 (h'.deepest t h.inBounds))

theorem IsTrough.argmin_eq (h : IsTrough returns t) :
    Series.argmin (drawdownFromReturns returns).values = t := by
  have hne : returns.index ≠ [] := List.ne_nil_of_length_pos (Nat.zero_lt_of_lt h.inBounds)
  exact (isTrough_argmin hne).unique h

/-- The details read the wealth path around the trough. -/
theorem drawdownDetails_eq (h : IsTrough returns t) (ht : t < returns.index.length) :
    drawdownDetails returns =
      let trough := returns.index[t]
      let wealth := cumulativeWealth returns
      let peakValue := partialSups (wealthAt returns.values) (t + 1)
      let peak := ((wealth.locTo trough).filter (fun p => peakValue ≤ p.2)).head?.map Prod.fst
      (drawdownRecovery wealth peak trough peakValue).map (fun recovery => {
        maxDrawdown := inPercent (decline (wealthAt returns.values) (t + 1))
        peakDate := peak.map Date.isoformat
        troughDate := some trough.isoformat
        maxDrawdownDate := some trough.isoformat
        recoveryDate := recovery.recoveryDate
        isRecovered := recovery.isRecovered
        daysToTrough := peak.map (fun peak => peak.daysUntil trough)
        daysToRecovery := recovery.daysToRecovery
        timeUnderWaterDays := recovery.timeUnderWaterDays }) := by
  have hmin : (drawdownFromReturns returns).idxmin = some returns.index[t] := by
    rw [Series.idxmin, h.argmin_eq]
    exact List.getElem?_eq_getElem ht
  have hpeak : (runningPeak (cumulativeWealth returns)).loc returns.index[t] =
      some (partialSups (wealthAt returns.values) (t + 1)) := by
    have hloc := Series.loc_index (s := runningPeak (cumulativeWealth returns)) (i := t) ht
    rw [runningPeak_values] at hloc
    exact hloc.trans (by simp [returns.length_values, ht])
  have hdrawdown : (drawdownFromReturns returns).loc returns.index[t] =
      some (decline (wealthAt returns.values) (t + 1)) := by
    have hloc := Series.loc_index (s := drawdownFromReturns returns) (i := t) ht
    rw [drawdownFromReturns_values] at hloc
    exact hloc.trans (by simp [returns.length_values, ht])
  have hempty : (drawdownFromReturns returns).isEmpty = false := by
    cases hindex : returns.index with
    | nil => simp [hindex] at ht
    | cons d ds => simp [Series.isEmpty, drawdownFromReturns, cumulativeWealth, hindex]
  change (if (drawdownFromReturns returns).isEmpty = true then _ else
    (drawdownFromReturns returns).idxmin.bind _) = _
  rw [hempty, if_neg Bool.false_ne_true, hmin, Option.bind_some]
  change ((runningPeak (cumulativeWealth returns)).loc returns.index[t]).bind _ = _
  rw [hpeak, Option.bind_some]
  change ((drawdownFromReturns returns).loc returns.index[t]).bind _ = _
  rw [hdrawdown, Option.bind_some]
  simp only
  cases drawdownRecovery (cumulativeWealth returns) _ returns.index[t]
    (partialSups (wealthAt returns.values) (t + 1)) with
  | none => rfl
  | some recovery => rfl

omit [Field K] in
theorem exists_drawdownRecovery {wealth : Series Date K} (h : wealth.index ≠ []) :
    ∃ recovery, drawdownRecovery wealth peak trough value = some recovery := by
  unfold drawdownRecovery
  simp only
  split
  · obtain ⟨last, hlast⟩ : ∃ last, wealth.index.getLast? = some last :=
      ⟨_, List.getLast?_eq_some_getLast h⟩
    rw [hlast]
    exact ⟨_, rfl⟩
  · exact ⟨_, rfl⟩

/-- A non-empty series has details, and they report the deepest decline. -/
theorem exists_drawdownDetails (h : IsTrough returns t) : ∃ details,
    drawdownDetails returns = some details ∧
      details.maxDrawdown = inPercent (decline (wealthAt returns.values) (t + 1)) := by
  have hne : (cumulativeWealth returns).index ≠ [] :=
    List.ne_nil_of_length_pos (Nat.zero_lt_of_lt h.inBounds)
  rw [drawdownDetails_eq h h.inBounds]
  simp only
  obtain ⟨recovery, hrecovery⟩ := exists_drawdownRecovery hne
  rw [hrecovery]
  exact ⟨_, rfl, rfl⟩

end Spec

end LotusRisk
