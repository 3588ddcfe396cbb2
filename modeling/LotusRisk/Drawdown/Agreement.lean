import LotusRisk.Drawdown.Details
import LotusRisk.Drawdown.Partition
import LotusRisk.Drawdown.Summary

namespace LotusRisk
open RunningPeak MaximalRuns
set_option autoImplicit true

section Peak

variable {K : Type} [Field K] [LinearOrder K] {returns : Series Date K}

/-- On the date at `i`, up to the trough at `t`, the wealth stands at its running peak. -/
def AtPeak (returns : Series Date K) (t i : Nat) : Prop :=
  i ≤ t ∧ partialSups (wealthAt returns.values) (t + 1) ≤ wealthAt returns.values (i + 1)

omit [LinearOrder K] in
theorem getElem_wealth (hi : i < returns.index.length)
    (h : i < (cumulativeWealth returns).points.length) :
    (cumulativeWealth returns).points[i] =
      (returns.index[i], wealthAt returns.values (i + 1)) := by
  have hv : i < (cumulativeWealth returns).values.length :=
    (cumulativeWealth returns).length_values ▸ hi
  rw [Series.getElem_points (s := cumulativeWealth returns) hi hv h]
  simp only [cumulativeWealth_values, List.getElem_map, List.getElem_range]
  rfl

/-- The details name the first date at the peak. -/
theorem head?_peak_eq_some (ht : t < returns.index.length) (hi : AtPeak returns t i)
    (hfirst : ∀ j < i, ¬ AtPeak returns t j) :
    (((cumulativeWealth returns).locTo returns.index[t]).filter
      (fun p => partialSups (wealthAt returns.values) (t + 1) ≤ p.2)).head?.map Prod.fst =
      returns.index[i]? := by
  have hit : i < returns.index.length := by
    have h := hi.1
    omega
  have hp : i < (cumulativeWealth returns).points.length := by simpa using hit
  rw [Series.locTo, List.filter_filter, Series.head?_filter_eq_some hp, getElem_wealth hit,
    List.getElem?_eq_getElem hit]
  · rfl
  · rw [getElem_wealth hit]
    simp only [Bool.and_eq_true, decide_eq_true_eq]
    exact ⟨hi.2, (Series.index_le_iff hit ht).2 hi.1⟩
  · intro j hj
    have hnot := hfirst j hj
    have hij := hi.1
    rw [getElem_wealth (by omega)]
    simp only [Bool.and_eq_false_iff, decide_eq_false_iff_not]
    exact .inl (fun hle => hnot ⟨by omega, hle⟩)

theorem head?_peak_eq_none (ht : t < returns.index.length) (h : ∀ i, ¬ AtPeak returns t i) :
    (((cumulativeWealth returns).locTo returns.index[t]).filter
      (fun p => partialSups (wealthAt returns.values) (t + 1) ≤ p.2)).head?.map Prod.fst =
      none := by
  rw [Series.locTo, List.filter_filter, Series.head?_filter_eq_none]
  · rfl
  · intro i hi
    have hit : i < returns.index.length := by simpa using hi
    rw [getElem_wealth hit]
    simp only [Bool.and_eq_false_iff, decide_eq_false_iff_not]
    by_cases hle : i ≤ t
    · exact .inl (fun hpeak => h i ⟨hle, hpeak⟩)
    · exact .inr (fun hlabel => hle ((Series.index_le_iff hit ht).1 hlabel))

/-- The details name the first date from the trough on that is back at a value. -/
theorem exists_recovery {value : K} (peak : Option Date) (ht : t < returns.index.length)
    (hte : t ≤ e) (hbelow : ∀ j, t ≤ j → j < e → j < returns.index.length →
      wealthAt returns.values (j + 1) < value)
    (hback : e < returns.index.length → value ≤ wealthAt returns.values (e + 1)) :
    ∃ recovery, drawdownRecovery (cumulativeWealth returns) peak returns.index[t] value =
        some recovery ∧ recovery.recoveryDate = (returns.index[e]?).map Date.isoformat ∧
      recovery.isRecovered = decide (e < returns.index.length) := by
  have hother : ∀ j (hj : j < returns.index.length), j < e →
      (decide (value ≤ wealthAt returns.values (j + 1)) &&
        decide (returns.index[t] ≤ returns.index[j])) = false := by
    intro j hj hje
    rw [Bool.and_eq_false_iff, decide_eq_false_iff_not, decide_eq_false_iff_not]
    by_cases hle : t ≤ j
    · exact .inl (not_le.2 (hbelow j hle hje hj))
    · exact .inr (fun hlabel => hle ((Series.index_le_iff ht hj).1 hlabel))
  unfold drawdownRecovery
  by_cases he : e < returns.index.length
  · have hp : e < (cumulativeWealth returns).points.length := by simpa using he
    have hhead : (((cumulativeWealth returns).locFrom returns.index[t]).filter
        (fun p => value ≤ p.2)).head? =
        some (returns.index[e], wealthAt returns.values (e + 1)) := by
      rw [Series.locFrom, List.filter_filter, Series.head?_filter_eq_some hp, getElem_wealth he]
      · rw [getElem_wealth he, Bool.and_eq_true, decide_eq_true_eq, decide_eq_true_eq]
        exact ⟨hback he, (Series.index_le_iff ht he).2 hte⟩
      · intro j hj
        rw [getElem_wealth (by omega)]
        exact hother j (by omega) hj
    simp only [hhead]
    refine ⟨_, rfl, ?_, (decide_eq_true he).symm⟩
    rw [List.getElem?_eq_getElem he, Option.map_some]
  · have hhead : (((cumulativeWealth returns).locFrom returns.index[t]).filter
        (fun p => value ≤ p.2)).head? = none := by
      rw [Series.locFrom, List.filter_filter, Series.head?_filter_eq_none]
      intro j hj
      have hjn : j < returns.index.length := by simpa using hj
      rw [getElem_wealth hjn]
      exact hother j hjn (by omega)
    obtain ⟨last, hlast⟩ : ∃ last, (cumulativeWealth returns).index.getLast? = some last :=
      ⟨_, List.getLast?_eq_some_getLast (List.ne_nil_of_length_pos (Nat.zero_lt_of_lt ht))⟩
    simp only [hhead, hlast, Option.bind_eq_bind, Option.bind_some]
    refine ⟨_, rfl, ?_, (decide_eq_false he).symm⟩
    rw [List.getElem?_eq_none (Nat.le_of_not_lt he), Option.map_none]

end Peak

section Run

variable {K : Type} [Field K] [LinearOrder K] [IsStrictOrderedRing K] {returns : Series Date K}

/-- The dates of a drawdown and its values. -/
def drawdownContext (returns : Series Date K) (durationUnit : DurationUnit) :
    EpisodeBuildContext K where
  dates := returns.index
  values := (drawdownFromReturns returns).values
  durationUnit := durationUnit

omit [IsStrictOrderedRing K] in
theorem drawdownContext_wellFormed (returns : Series Date K) (durationUnit : DurationUnit) :
    (drawdownContext returns durationUnit).WellFormed :=
  ⟨(length_drawdown returns).symm, returns.ascending⟩

omit [IsStrictOrderedRing K] in
theorem getD_drawdown (h : i < returns.index.length) :
    (drawdownFromReturns returns).values.getD i 0 = decline (wealthAt returns.values) (i + 1) := by
  have hi : i < (drawdownFromReturns returns).values.length := (length_drawdown returns).symm ▸ h
  rw [List.getD_eq_getElem _ _ hi, getElem_drawdown]

theorem underwater_drawdown (h : i < returns.index.length) :
    underwater (drawdownFromReturns returns).values i = true ↔
      wealthAt returns.values (i + 1) < partialSups (wealthAt returns.values) (i + 1) := by
  have h₀ : 0 < wealthAt returns.values 0 := by
    rw [wealthAt_zero]
    exact one_pos
  rw [underwater, getD_drawdown h, decide_eq_true_eq, decline_lt_zero h₀]

/-- Throughout a run the running peak is the wealth it started from. -/
theorem partialSups_run (hrun : IsMaximalRun (underwater (drawdownFromReturns returns).values)
      (drawdownFromReturns returns).values.length s e) (hs : s ≤ i) (he : i < e) :
    partialSups (wealthAt returns.values) (i + 1) = partialSups (wealthAt returns.values) s := by
  have hle := hrun.inBounds
  rw [length_drawdown] at hle
  apply partialSups_eq_of_below _ (by omega)
  intro j hj hji
  obtain ⟨k, rfl⟩ : ∃ k, j = k + 1 := ⟨j - 1, by omega⟩
  exact (underwater_drawdown (by omega)).1 (hrun.inside k (by omega) (by omega))

omit [IsStrictOrderedRing K] in
/-- The trough is the first deepest value of the drawdown. -/
theorem IsTrough.extreme_episode (h : IsTrough returns t)
    (hneg : decline (wealthAt returns.values) (t + 1) < 0)
    {episodes : List (EpisodeRecord K)}
    (hall : List.Forall₂ (fun run episode =>
      IsEpisode (drawdownContext returns durationUnit) run.1 run.2 episode)
      (runs (underwater (drawdownFromReturns returns).values)
        (drawdownFromReturns returns).values.length) episodes) :
    ∃ s e episode, IsMaximalRun (underwater (drawdownFromReturns returns).values)
        (drawdownFromReturns returns).values.length s e ∧
      s ≤ t ∧ t < e ∧ IsEpisode (drawdownContext returns durationUnit) s e episode ∧
      Series.minBy EpisodeRecord.depth episodes = some episode ∧
      returns.index[t]? = some episode.troughDate ∧
      episode.depth = decline (wealthAt returns.values) (t + 1) := by
  have ht := getD_drawdown h.inBounds
  have hextreme := exists_extreme_episode (t := t) hall
  simp only [drawdownContext, ht, length_drawdown] at hextreme ⊢
  apply hextreme hneg
  · intro i hi
    rw [getD_drawdown hi]
    exact h.deepest i hi
  · intro i hi
    have htn := h.inBounds
    rw [getD_drawdown (by omega)]
    exact h.first i hi

end Run

section Agreement

/-- What both engines report, and the peak dates each of them chooses. -/
theorem engines_agree {returns : Series Date ℚ} (sqrt : ℚ → ℚ)
    (options : DrawdownAnalysisOptions ℚ) (h : IsTrough returns t)
    (hneg : decline (wealthAt returns.values) (t + 1) < 0) :
    ∃ details summary episodes, drawdownDetails returns = some details ∧
      drawdownSummary sqrt (drawdownFromReturns returns) options.cdarAlpha options.durationUnit =
        some (summary, episodes) ∧
      summary.maxDrawdown = some (details.maxDrawdown / 100) ∧
      details.troughDate = summary.maxDrawdownTroughDate.map Date.isoformat ∧
      details.recoveryDate = summary.maxDrawdownRecoveryDate.map Date.isoformat ∧
      details.isRecovered = summary.isRecovered ∧
      summary.maxDrawdownTroughDate = returns.index[t]? ∧
      ((∀ i, ¬ AtPeak returns t i) ∧ details.peakDate = none ∧
          summary.maxDrawdownPeakDate = none ∨
        ∃ first last, AtPeak returns t first ∧ AtPeak returns t last ∧
          (∀ i, AtPeak returns t i → first ≤ i ∧ i ≤ last) ∧
          details.peakDate = (returns.index[first]?).map Date.isoformat ∧
          summary.maxDrawdownPeakDate = returns.index[last]?) := by
  have ht := h.inBounds
  have hne : returns.index ≠ [] := List.ne_nil_of_length_pos (Nat.zero_lt_of_lt ht)
  have h₀ : 0 < wealthAt returns.values 0 := by
    rw [wealthAt_zero]
    exact one_pos
  -- the episodes of the drawdown, and the one around the trough
  obtain ⟨episodes, hbuild, hall⟩ :=
    buildEpisodesFromValues_eq (drawdownContext_wellFormed returns options.durationUnit) hne
  obtain ⟨s, e, episode, hrun, hst, hte, hspec, hmin, htrough, hdepth⟩ :=
    h.extreme_episode hneg hall
  have hen := hrun.inBounds
  rw [length_drawdown] at hen
  have halpha : 0 ≤ 1 - options.cdarAlpha ∧ 1 - options.cdarAlpha ≤ 1 := by
    rcases options.alpha_allowed with ha | ha | ha <;> rw [ha] <;> constructor <;> norm_num
  obtain ⟨summary, hsummary, hmax, hpeak, hsumTrough, hsumRecovery, hsumRecovered⟩ :=
    drawdownSummary_eq sqrt (drawdownFromReturns returns) hne
      halpha.1 halpha.2 hbuild
  simp only [drawdownExtremeFields, hmin] at hmax hpeak hsumTrough hsumRecovery hsumRecovered
  -- the details around the same trough
  have hpeakRun : ∀ i, s ≤ i → i < e → partialSups (wealthAt returns.values) (i + 1) =
      partialSups (wealthAt returns.values) s := fun i hs he => partialSups_run hrun hs he
  have hbelow : ∀ i, s ≤ i → i < e → wealthAt returns.values (i + 1) <
      partialSups (wealthAt returns.values) (t + 1) := by
    intro i hs he
    rw [hpeakRun t hst hte, ← hpeakRun i hs he]
    exact (underwater_drawdown (by omega)).1 (hrun.inside i hs he)
  have hback : e < returns.index.length → partialSups (wealthAt returns.values) (t + 1) ≤
      wealthAt returns.values (e + 1) := by
    intro he
    have hq : ¬ underwater (drawdownFromReturns returns).values e = true := by
      rcases hrun.after with hend | hend
      · rw [length_drawdown] at hend
        omega
      · rw [hend]
        exact Bool.false_ne_true
    have hstands := not_lt.1 (mt (underwater_drawdown he).2 hq)
    exact (partialSups_monotone _ (by omega : t + 1 ≤ e + 1)).trans hstands
  obtain ⟨recovery, hrecovery, hdate, hrecovered⟩ := exists_recovery
    ((((cumulativeWealth returns).locTo returns.index[t]).filter
      (fun p => partialSups (wealthAt returns.values) (t + 1) ≤ p.2)).head?.map Prod.fst)
    ht hte.le (fun j hj hje _ => hbelow j (hst.trans hj) hje) hback
  have hdetails := drawdownDetails_eq h ht
  simp only [hrecovery, Option.map_some] at hdetails
  have htroughAt : episode.troughDate = returns.index[t] := by
    rw [List.getElem?_eq_getElem ht] at htrough
    exact (Option.some.inj htrough).symm
  refine ⟨_, summary, episodes, hdetails, hsummary, ?_, ?_, ?_, ?_, ?_, ?_⟩
  · rw [hmax, hdepth, inPercent, mul_div_cancel_right₀ _ (by norm_num)]
  · rw [hsumTrough, htroughAt, Option.map_some]
  · rw [hsumRecovery, hspec.recoveryDate_eq]
    exact hdate
  · rw [hsumRecovered, hspec.isRecovered_eq]
    simp only [hrecovered, drawdownContext, length_drawdown]
  · rw [hsumTrough, htrough]
  · rw [hpeak, hspec.peakDate_eq]
    by_cases hs : s = 0
    · have hnone : ∀ i, ¬ AtPeak returns t i := by
        intro i hi
        exact absurd hi.2 (not_le.2 (hbelow i (by omega) (hi.1.trans_lt hte)))
      refine .inl ⟨hnone, ?_, if_pos hs⟩
      simp only [head?_peak_eq_none ht hnone, Option.map_none]
    · -- the run starts right after the last date at the peak
      have hlast : AtPeak returns t (s - 1) := by
        have hq : ¬ underwater (drawdownFromReturns returns).values (s - 1) = true := by
          rw [hrun.before.resolve_left hs]
          exact Bool.false_ne_true
        have hstands := not_lt.1 (mt (underwater_drawdown (by omega)).2 hq)
        rw [Nat.sub_add_cancel (Nat.pos_of_ne_zero hs)] at hstands
        refine ⟨by omega, ?_⟩
        rw [hpeakRun t hst hte, Nat.sub_add_cancel (Nat.pos_of_ne_zero hs)]
        exact hstands
      classical
      have hsome : ∃ i, AtPeak returns t i := ⟨s - 1, hlast⟩
      refine .inr ⟨Nat.find hsome, s - 1, Nat.find_spec hsome, hlast, ?_, ?_, if_neg hs⟩
      · intro i hi
        refine ⟨Nat.find_min' hsome hi, ?_⟩
        apply Nat.le_of_not_lt
        intro hlt
        exact absurd hi.2 (not_le.2 (hbelow i (by omega) (hi.1.trans_lt hte)))
      · simp only [head?_peak_eq_some ht (Nat.find_spec hsome) (fun j hj => Nat.find_min hsome hj)]

/-- The engines agree on the drawdown; of the dates at its peak, the details report the first and
the summary the last. -/
theorem drawdown_engines_agree (sqrt : ℚ → ℚ) (returns : Series Date ℚ)
    (options : DrawdownAnalysisOptions ℚ)
    (hneg : ∃ dd ∈ (drawdownFromReturns returns).values, dd < 0) :
    ∃ t details summary episodes, IsTrough returns t ∧ drawdownDetails returns = some details ∧
      drawdownSummary sqrt (drawdownFromReturns returns) options.cdarAlpha options.durationUnit =
        some (summary, episodes) ∧
      summary.maxDrawdown = some (details.maxDrawdown / 100) ∧
      details.troughDate = summary.maxDrawdownTroughDate.map Date.isoformat ∧
      details.recoveryDate = summary.maxDrawdownRecoveryDate.map Date.isoformat ∧
      details.isRecovered = summary.isRecovered ∧
      summary.maxDrawdownTroughDate = returns.index[t]? ∧
      ((∀ i, ¬ AtPeak returns t i) ∧ details.peakDate = none ∧
          summary.maxDrawdownPeakDate = none ∨
        ∃ first last, AtPeak returns t first ∧ AtPeak returns t last ∧
          (∀ i, AtPeak returns t i → first ≤ i ∧ i ≤ last) ∧
          details.peakDate = (returns.index[first]?).map Date.isoformat ∧
          summary.maxDrawdownPeakDate = returns.index[last]?) := by
  obtain ⟨dd, hdd, hlt⟩ := hneg
  obtain ⟨i, hi, hddi⟩ := List.getElem_of_mem hdd
  have hin : i < returns.index.length := length_drawdown returns ▸ hi
  have htrough := isTrough_argmin (List.ne_nil_of_length_pos (Nat.zero_lt_of_lt hin))
  have hdeep := htrough.deepest i hin
  rw [← getElem_drawdown hi, hddi] at hdeep
  obtain ⟨details, summary, episodes, h⟩ :=
    engines_agree sqrt options htrough (hdeep.trans_lt hlt)
  exact ⟨_, details, summary, episodes, htrough, h⟩

/-- A gain, two days without change, and a loss. -/
def plateau : Series Date ℚ where
  index := firstWeek
  values := [10, 0, 0, -5]
  length_values := rfl
  ascending := firstWeek_ascending

theorem defaultAlpha_allowed : (95 / 100 : ℚ) = 90 / 100 ∨ (95 / 100 : ℚ) = 95 / 100 ∨
    (95 / 100 : ℚ) = 99 / 100 :=
  .inr (.inl rfl)

def defaultOptions : DrawdownAnalysisOptions ℚ where
  cdarAlpha := 95 / 100
  durationUnit := .businessDays
  alpha_allowed := defaultAlpha_allowed

/-- The square root of a square. -/
def rationalSqrt (q : ℚ) : ℚ := Nat.sqrt q.num.natAbs / Nat.sqrt q.den

theorem plateau_falls : ∃ dd ∈ (drawdownFromReturns plateau).values, dd < 0 := by
  decide +kernel

theorem plateau_details : (drawdownDetails plateau).map DrawdownDetails.peakDate =
    some (some "2026-01-05") := by
  decide +kernel

theorem plateau_summary :
    (drawdownSummary rationalSqrt (drawdownFromReturns plateau) defaultOptions.cdarAlpha
      defaultOptions.durationUnit).map (fun p => p.1.maxDrawdownPeakDate.map Date.isoformat) =
    some (some "2026-01-07") := by
  decide +kernel

theorem drawdown_engines_agree_plateau : ∃ t details summary episodes, IsTrough plateau t ∧
    drawdownDetails plateau = some details ∧
    drawdownSummary rationalSqrt (drawdownFromReturns plateau) defaultOptions.cdarAlpha
      defaultOptions.durationUnit = some (summary, episodes) ∧
    summary.maxDrawdown = some (details.maxDrawdown / 100) ∧
    details.isRecovered = summary.isRecovered := by
  obtain ⟨t, details, summary, episodes, htrough, hdetails, hsummary, hmax, _, _, hrecovered, _⟩ :=
    drawdown_engines_agree rationalSqrt plateau defaultOptions plateau_falls
  exact ⟨t, details, summary, episodes, htrough, hdetails, hsummary, hmax, hrecovered⟩

/-- The engines choose different peak dates on a plateau. -/
theorem peak_dates_differ : ¬ ∀ (sqrt : ℚ → ℚ) (returns : Series Date ℚ)
    (options : DrawdownAnalysisOptions ℚ), (∀ r ∈ returns.values, -100 < r) →
    (∃ dd ∈ (drawdownFromReturns returns).values, dd < 0) →
    ∃ details summary episodes, drawdownDetails returns = some details ∧
      drawdownSummary sqrt (drawdownFromReturns returns) options.cdarAlpha options.durationUnit =
        some (summary, episodes) ∧
      summary.maxDrawdown = some (details.maxDrawdown / 100) ∧
      details.peakDate = summary.maxDrawdownPeakDate.map Date.isoformat ∧
      details.troughDate = summary.maxDrawdownTroughDate.map Date.isoformat ∧
      details.recoveryDate = summary.maxDrawdownRecoveryDate.map Date.isoformat ∧
      details.isRecovered = summary.isRecovered := by
  intro h
  have hreturns : ∀ r ∈ plateau.values, -100 < r := by decide +kernel
  obtain ⟨details, summary, episodes, hdetails, hsummary, _, hpeak, _⟩ :=
    h rationalSqrt plateau defaultOptions hreturns plateau_falls
  have hfirst := plateau_details
  rw [hdetails, Option.map_some, hpeak] at hfirst
  have hlast := plateau_summary
  rw [hsummary, Option.map_some, Option.some.inj hfirst] at hlast
  exact absurd hlast (by decide)

end Agreement

end LotusRisk
