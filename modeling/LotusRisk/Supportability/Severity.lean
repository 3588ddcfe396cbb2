import LotusRisk.Supportability.Readiness

namespace LotusRisk
set_option autoImplicit true

open Precedence
open Relational

variable {K : Type}

/-- The dict-valued context, read as the fields it has. -/
def BenchmarkContextPayload.dependency (payload : BenchmarkContextPayload) : DependencyContext where
  requested := payload.requested
  applied := none
  available := some payload.available
  aligned := some payload.aligned
  reason := some payload.reason

def payloadReasons (periodResult : RiskPeriodAttributes K) : List RiskSupportabilityReason :=
  periodResult.benchmarkContextPayload.toList.filterMap fun payload =>
    contextDegradationReason payload.dependency

/-- A calculation whose sets are not all empirical rests on the weight proxy. -/
def weightProxyReasons : CalculationResults K → List RiskSupportabilityReason
  | .attribution results =>
    if allCalculatedSetsAreEmpirical results then [] else [.groupReturnSeriesUnavailable]
  | .periods _ | .riskMetrics _ => []

/-- Every degradation condition that is present, whether a verdict reads it or not. -/
def degradationConditions (returns : List (ReturnPoint K)) (asOfDate : Date)
    (results : CalculationResults K) (sourceEvidence : Option StatefulReturnsSourceEvidence) :
    List RiskSupportabilityReason :=
  sourceEvidence.toList.flatMap sourceReasons ++
    (if returns = [] then [.noReturnObservations] else []) ++
    results.periodResults.flatMap PeriodAttributes.conditions ++
    emptyReasons results.periodResults ++
    staleReasons returns asOfDate ++
    results.riskResults.flatMap payloadReasons ++
    results.riskResults.flatMap metricReasons ++
    weightProxyReasons results

/-- What the verdict's branch does not read is no more severe than something it reads. -/
def SkippedAreOutranked (returns : List (ReturnPoint K)) (asOfDate : Date)
    (results : CalculationResults K) (sourceEvidence : Option StatefulReturnsSourceEvidence) :
    Prop :=
  ∀ skipped ∈ degradationConditions returns asOfDate results sourceEvidence,
    skipped ∉ finalReads returns asOfDate results sourceEvidence →
    ∃ seen ∈ finalReads returns asOfDate results sourceEvidence,
      rank supportabilityReasonPrecedence seen ≤ rank supportabilityReasonPrecedence skipped

def CalculationResults.metricErrors (results : CalculationResults K) :
    List RiskSupportabilityReason :=
  results.riskResults.flatMap metricReasons

/-- The step of the chain at which a verdict is decided. -/
inductive VerdictStep where
  | noReturns
  | metricErrors
  | degradedPeriods
  | emptyPeriods
  | freshness
deriving DecidableEq

def periodStep (returns : List (ReturnPoint K)) (results : List PeriodAttributes) : VerdictStep :=
  if returns = [] then .noReturns
  else if degradations results ≠ [] then .degradedPeriods
  else if emptyReasons results ≠ [] then .emptyPeriods
  else .freshness

def verdictStep (returns : List (ReturnPoint K)) : CalculationResults K → VerdictStep
  | .periods results => periodStep returns results
  | .riskMetrics results =>
    let periodResults := results.map RiskPeriodAttributes.toPeriodAttributes
    if EmptyVerdict returns periodResults then periodStep returns periodResults
    else if results.flatMap metricReasons ≠ [] then .metricErrors
    else periodStep returns periodResults
  | .attribution results =>
    if returns = [] ∨ allCalculatedSetsAreEmpirical results = true then
      periodStep returns (results.map AttributionPeriodAttributes.toPeriodAttributes)
    else .degradedPeriods

/-- What a verdict reads at a step. -/
def stepReads (returns : List (ReturnPoint K)) (asOfDate : Date) (results : CalculationResults K) :
    VerdictStep → List RiskSupportabilityReason
  | .noReturns => [.noReturnObservations]
  | .metricErrors => results.metricErrors
  | .degradedPeriods => degradations results.periodResults ++ weightProxyReasons results
  | .emptyPeriods => emptyReasons results.periodResults
  | .freshness => staleReasons returns asOfDate

/-- Results with more beside them: each period with its metrics is still there, and an attribution
that rests on the weight proxy still does. -/
structure CalculationResults.Extended (results results' : CalculationResults K) : Prop where
  periods : results.periodResults ⊆ results'.periodResults
  metrics : results.riskResults ⊆ results'.riskResults
  proxy : weightProxyReasons results ⊆ weightProxyReasons results'

/-- The same results in another order. -/
inductive CalculationResults.Reordered : CalculationResults K → CalculationResults K → Prop where
  | periods (h : results.Perm results') : Reordered (.periods results) (.periods results')
  | riskMetrics (h : results.Perm results') :
      Reordered (.riskMetrics results) (.riskMetrics results')
  | attribution (h : results.Perm results') :
      Reordered (.attribution results) (.attribution results')

section Reads

theorem degradations_subset (results : List PeriodAttributes) :
    degradations results ⊆ results.flatMap PeriodAttributes.conditions := by
  intro reason h
  obtain ⟨periodResult, hp, hhead⟩ := mem_degradations.1 h
  exact List.mem_flatMap.2 ⟨periodResult, hp, List.mem_of_mem_head? hhead⟩

theorem periodReads_subset (returns : List (ReturnPoint K)) (asOfDate : Date)
    (results : List PeriodAttributes) (h : reason ∈ periodReads returns asOfDate results) :
    (returns = [] ∧ reason = .noReturnObservations) ∨
      reason ∈ results.flatMap PeriodAttributes.conditions ∨
      reason ∈ emptyReasons results ∨ reason ∈ staleReasons returns asOfDate := by
  unfold periodReads at h
  split at h
  · rename_i hr
    exact .inl ⟨hr, List.mem_singleton.1 h⟩
  · split at h
    · exact .inr (.inl (degradations_subset results h))
    · split at h
      · exact .inr (.inr (.inl h))
      · exact .inr (.inr (.inr h))

theorem calculationReads_subset {results : CalculationResults K}
    (h : reason ∈ calculationReads returns asOfDate results) :
    reason ∈ periodReads returns asOfDate results.periodResults ∨
      reason ∈ results.periodResults.flatMap PeriodAttributes.conditions ∨
      reason ∈ results.riskResults.flatMap metricReasons ∨ reason ∈ weightProxyReasons results := by
  cases results with
  | periods results => exact .inl h
  | riskMetrics results =>
    unfold calculationReads at h
    simp only at h
    split at h
    · exact .inl h
    · split at h
      · exact .inr (.inr (.inl h))
      · exact .inl h
  | attribution results =>
    unfold calculationReads at h
    simp only at h
    split at h
    · exact .inl h
    · rename_i hproxy
      rcases List.mem_append.1 h with h | h
      · exact .inr (.inl (degradations_subset _ h))
      · refine .inr (.inr (.inr ?_))
        simp only [weightProxyReasons]
        rw [if_neg (not_or.1 hproxy).2]
        exact h

/-- A verdict reads only conditions that are present. -/
theorem finalReads_subset (returns : List (ReturnPoint K)) (asOfDate : Date)
    (results : CalculationResults K) (sourceEvidence : Option StatefulReturnsSourceEvidence) :
    finalReads returns asOfDate results sourceEvidence ⊆
      degradationConditions returns asOfDate results sourceEvidence := by
  intro reason h
  unfold degradationConditions
  simp only [List.mem_append]
  rcases List.mem_append.1 h with h | h
  · simp [h]
  · rcases calculationReads_subset h with h | h | h | h
    · rcases periodReads_subset returns asOfDate _ h with ⟨hr, he⟩ | h | h | h
      · simp [hr, he]
      · simp [h]
      · simp [h]
      · simp [h]
    · simp [h]
    · simp [h]
    · simp [h]

end Reads

section Steps

/-- The steps of a period verdict read what the period verdict reads. -/
theorem stepReads_periodStep (returns : List (ReturnPoint K)) (asOfDate : Date)
    {R : CalculationResults K}
    (hproxy : periodStep returns R.periodResults = .degradedPeriods →
      weightProxyReasons R = []) :
    stepReads returns asOfDate R (periodStep returns R.periodResults) =
      periodReads returns asOfDate R.periodResults := by
  unfold periodReads
  unfold periodStep at hproxy ⊢
  split
  · rfl
  · rename_i hreturns
    rw [if_neg hreturns] at hproxy
    split
    · rename_i hdegraded
      rw [if_pos hdegraded] at hproxy
      rw [stepReads, hproxy rfl, List.append_nil]
    · split <;> rfl

/-- A verdict reads what it finds at the step that decides it. -/
theorem calculationReads_eq (returns : List (ReturnPoint K)) (asOfDate : Date)
    (results : CalculationResults K) : calculationReads returns asOfDate results =
      stepReads returns asOfDate results (verdictStep returns results) := by
  cases results with
  | periods results =>
    exact (stepReads_periodStep (R := .periods results) returns asOfDate fun _ => rfl).symm
  | riskMetrics results =>
    have hperiods := stepReads_periodStep (R := .riskMetrics results) returns asOfDate
      fun _ => rfl
    unfold calculationReads verdictStep
    dsimp only
    split
    · exact hperiods.symm
    · split
      · rfl
      · exact hperiods.symm
  | attribution results =>
    unfold calculationReads verdictStep
    dsimp only
    split
    · rename_i hread
      refine (stepReads_periodStep (R := .attribution results) returns asOfDate ?_).symm
      intro hstep
      rcases hread with hreturns | hempirical
      · rw [periodStep, if_pos hreturns] at hstep
        cases hstep
      · exact if_pos hempirical
    · rename_i hproxy
      rw [stepReads, weightProxyReasons, if_neg fun h => hproxy (.inr h)]
      rfl

theorem degradations_mono {results results' : List PeriodAttributes} (h : results ⊆ results') :
    degradations results ⊆ degradations results' := by
  intro reason hreason
  obtain ⟨periodResult, hmem, hhead⟩ := mem_degradations.1 hreason
  exact mem_degradations.2 ⟨periodResult, h hmem, hhead⟩

theorem emptyReasons_mono {results results' : List PeriodAttributes} (h : results ⊆ results') :
    emptyReasons results ⊆ emptyReasons results' := by
  unfold emptyReasons
  split
  · rename_i hany
    obtain ⟨periodResult, hmem, hempty⟩ := List.any_eq_true.1 hany
    rw [if_pos (List.any_eq_true.2 ⟨periodResult, h hmem, hempty⟩)]
    exact List.Subset.refl _
  · exact List.nil_subset _

theorem CalculationResults.Extended.metricErrors {results results' : CalculationResults K}
    (h : results.Extended results') : results.metricErrors ⊆ results'.metricErrors := by
  intro reason hreason
  obtain ⟨periodResult, hmem, hreason⟩ := List.mem_flatMap.1 hreason
  exact List.mem_flatMap.2 ⟨periodResult, h.metrics hmem, hreason⟩

/-- More results leave at each step what was read there. -/
theorem stepReads_mono {results results' : CalculationResults K} (h : results.Extended results')
    (returns : List (ReturnPoint K)) (asOfDate : Date) (step : VerdictStep) :
    stepReads returns asOfDate results step ⊆ stepReads returns asOfDate results' step := by
  cases step with
  | noReturns => exact List.Subset.refl _
  | metricErrors => exact h.metricErrors
  | degradedPeriods =>
    intro reason hreason
    rcases List.mem_append.1 hreason with hperiod | hproxy
    · exact List.mem_append_left _ (degradations_mono h.periods hperiod)
    · exact List.mem_append_right _ (h.proxy hproxy)
  | emptyPeriods => exact emptyReasons_mono h.periods
  | freshness => exact List.Subset.refl _

theorem verdictStep_of_nil {returns : List (ReturnPoint K)} {results : CalculationResults K}
    (h : returns = []) : verdictStep returns results = .noReturns := by
  have hstep : ∀ periods, periodStep returns periods = .noReturns := fun _ => if_pos h
  cases results with
  | periods results => exact hstep _
  | riskMetrics results => exact (if_pos (.inl h)).trans (hstep _)
  | attribution results => exact (if_pos (.inl h)).trans (hstep _)

/-- Once a period is degraded, only the metrics are read before the periods. -/
theorem verdictStep_of_degraded {returns : List (ReturnPoint K)} {results : CalculationResults K}
    (hreturns : returns ≠ []) (h : degradations results.periodResults ≠ []) :
    verdictStep returns results =
      if results.metricErrors ≠ [] then .metricErrors else .degradedPeriods := by
  have hstep : periodStep returns results.periodResults = .degradedPeriods := by
    rw [periodStep, if_neg hreturns, if_pos h]
  cases results with
  | periods results => exact hstep
  | riskMetrics results =>
    have hempty : ¬EmptyVerdict returns (results.map RiskPeriodAttributes.toPeriodAttributes) :=
      fun hempty => hempty.elim hreturns fun hnone => h hnone.1
    refine (if_neg hempty).trans ?_
    by_cases herrors : results.flatMap metricReasons ≠ []
    · exact (if_pos herrors).trans (if_pos herrors).symm
    · exact (if_neg herrors).trans (hstep.trans (if_neg herrors).symm)
  | attribution results =>
    refine Eq.trans ?_ (if_neg (not_not_intro rfl)).symm
    unfold verdictStep
    dsimp only
    split_ifs
    · exact hstep
    · rfl

/-- Once a period is degraded, more results leave the verdict where it is decided, unless they
bring the first metric in error. -/
theorem verdictStep_extended {results results' : CalculationResults K}
    (h : results.Extended results') (hdegraded : degradations results.periodResults ≠ [])
    (hmetrics : results'.metricErrors = [] ∨ results.metricErrors ≠ [])
    (returns : List (ReturnPoint K)) :
    verdictStep returns results' = verdictStep returns results := by
  by_cases hreturns : returns = []
  · rw [verdictStep_of_nil hreturns, verdictStep_of_nil hreturns]
  · have hdegraded' : degradations results'.periodResults ≠ [] := by
      obtain ⟨reason, hreason⟩ := List.exists_mem_of_ne_nil _ hdegraded
      exact List.ne_nil_of_mem (degradations_mono h.periods hreason)
    rw [verdictStep_of_degraded hreturns hdegraded, verdictStep_of_degraded hreturns hdegraded']
    rcases hmetrics with hnone | hsome
    · have hnil : results.metricErrors = [] := by
        rw [← List.subset_nil, ← hnone]
        exact h.metricErrors
      rw [hnone, hnil]
    · obtain ⟨reason, hreason⟩ := List.exists_mem_of_ne_nil _ hsome
      rw [if_pos hsome, if_pos (List.ne_nil_of_mem (h.metricErrors hreason))]

end Steps

section Reordering

theorem periodSupportabilityOutcome_perm {p q : List RiskSupportabilityReason} (h : p.Perm q)
    (bucket : RiskFreshnessBucket) (emptyCount degradedCount : Nat) :
    periodSupportabilityOutcome bucket ⟨p, emptyCount, degradedCount⟩ =
      periodSupportabilityOutcome bucket ⟨q, emptyCount, degradedCount⟩ := by
  unfold periodSupportabilityOutcome
  simp only
  rw [selectSupportabilityReason_perm h]

theorem supportabilityFromPeriodResults_perm (returns : List (ReturnPoint K)) (asOfDate : Date)
    {results results' : List PeriodAttributes} (h : results.Perm results') :
    supportabilityFromPeriodResults returns asOfDate results =
      supportabilityFromPeriodResults returns asOfDate results' := by
  unfold supportabilityFromPeriodResults periodResultsSupportabilityState
  have hd := h.filterMap degradationReason
  simp only
  rw [h.length_eq, assessPeriodResults_eq, assessPeriodResults_eq, hd.length_eq, h.countP_eq,
    periodSupportabilityOutcome_perm hd]

theorem allCalculatedSetsAreEmpirical_perm
    {results results' : List (AttributionPeriodAttributes K)} (h : results.Perm results') :
    allCalculatedSetsAreEmpirical results = allCalculatedSetsAreEmpirical results' := by
  have hbases : (calculatedBases results).Perm (calculatedBases results') := h.flatMap_right _
  unfold allCalculatedSetsAreEmpirical
  rw [hbases.all_eq, hbases.isEmpty_eq]

theorem calculationSupportability_reordered (returns : List (ReturnPoint K)) (asOfDate : Date)
    {results results' : CalculationResults K} (h : results.Reordered results') :
    calculationSupportability returns asOfDate results =
      calculationSupportability returns asOfDate results' := by
  cases h with
  | periods h => exact supportabilityFromPeriodResults_perm returns asOfDate h
  | riskMetrics h =>
    unfold calculationSupportability supportabilityFromRiskMetricResults
    have hm := h.flatMap_right metricReasons
    simp only
    rw [supportabilityFromPeriodResults_perm returns asOfDate (h.map _),
      scanRiskMetricSupportability_eq, scanRiskMetricSupportability_eq, hm.length_eq,
      h.countP_eq, h.length_eq]
    simp only
    rw [selectSupportabilityReason_perm hm]
  | attribution h =>
    unfold calculationSupportability supportabilityFromAttributionResults
    have hd := (h.map AttributionPeriodAttributes.toPeriodAttributes).filterMap degradationReason
    simp only
    rw [supportabilityFromPeriodResults_perm returns asOfDate (h.map _),
      allCalculatedSetsAreEmpirical_perm h, assessPeriodResults_eq, assessPeriodResults_eq,
      (h.map _).countP_eq, h.length_eq]
    simp only
    rw [selectSupportabilityReason_perm (hd.append_right _), hd.length_eq]

theorem finalSupportability_reordered (returns : List (ReturnPoint K)) (asOfDate : Date)
    {results results' : CalculationResults K} (h : results.Reordered results')
    (sourceEvidence : Option StatefulReturnsSourceEvidence) :
    finalSupportability returns asOfDate results sourceEvidence =
      finalSupportability returns asOfDate results' sourceEvidence := by
  unfold finalSupportability
  rw [calculationSupportability_reordered returns asOfDate h]

end Reordering

section Severity

theorem Settles.reports_iff (h : Settles s seen) (hsub : seen ⊆ present) :
    (present ≠ [] → IsHighest supportabilityReasonPrecedence present s.reason) ↔
      ∀ skipped ∈ present, skipped ∉ seen → ∃ reason ∈ seen,
        rank supportabilityReasonPrecedence reason ≤
          rank supportabilityReasonPrecedence skipped := by
  cases h with
  | notReady hstate htop =>
    rw [← htop.extend_iff hsub]
    have hne : present ≠ [] := List.ne_nil_of_mem (hsub htop.mem)
    exact ⟨fun h => h hne, fun h _ => h⟩
  | ready hseen hstate hreason =>
    rw [hseen, hreason]
    constructor
    · intro h skipped hs
      have hranked := (h (List.ne_nil_of_mem hs)).ranked
      exact absurd hranked (by decide)
    · intro h hne
      obtain ⟨skipped, hs⟩ := List.exists_mem_of_ne_nil present hne
      obtain ⟨reason, hr, _⟩ := h skipped hs List.not_mem_nil
      cases hr

/-- The reason of a ready verdict ranks after every degradation. -/
theorem Settles.rank_le (h : Settles s seen) (hsub : seen ⊆ present)
    (hpresent : ∀ c ∈ present, rank supportabilityReasonPrecedence reason ≤
      rank supportabilityReasonPrecedence c) :
    rank supportabilityReasonPrecedence reason ≤
      rank supportabilityReasonPrecedence s.reason := by
  cases h with
  | notReady hstate htop => exact hpresent _ (hsub htop.mem)
  | ready hseen hstate hreason =>
    rw [hreason]
    cases reason <;> decide

/-- The reported reason is the most severe of the conditions that the verdict reads, and of all
that are present exactly when those it skips are outranked. The order of the results never
matters. More conditions never lower the reason while the skipped ones are outranked, and more
results never lower it while the verdict is decided at the same step of the chain, as it is once a
period is degraded. -/
theorem reason_most_severe_of_read (returns : List (ReturnPoint K)) (asOfDate : Date)
    (results : CalculationResults K) (sourceEvidence : Option StatefulReturnsSourceEvidence) :
    ∃ supportability,
      finalSupportability returns asOfDate results sourceEvidence = .ok supportability ∧
      (finalReads returns asOfDate results sourceEvidence ≠ [] →
        IsHighest supportabilityReasonPrecedence
          (finalReads returns asOfDate results sourceEvidence) supportability.reason) ∧
      ((degradationConditions returns asOfDate results sourceEvidence ≠ [] →
          IsHighest supportabilityReasonPrecedence
            (degradationConditions returns asOfDate results sourceEvidence)
            supportability.reason) ↔
        SkippedAreOutranked returns asOfDate results sourceEvidence) ∧
      (∀ results', results.Reordered results' →
        finalSupportability returns asOfDate results' sourceEvidence = .ok supportability) ∧
      (∀ (returns' : List (ReturnPoint K)) asOfDate' results' sourceEvidence' supportability',
        finalSupportability returns' asOfDate' results' sourceEvidence' = .ok supportability' →
        degradationConditions returns asOfDate results sourceEvidence ⊆
          degradationConditions returns' asOfDate' results' sourceEvidence' →
        SkippedAreOutranked returns' asOfDate' results' sourceEvidence' →
        rank supportabilityReasonPrecedence supportability'.reason ≤
          rank supportabilityReasonPrecedence supportability.reason) ∧
      (∀ results' sourceEvidence' supportability',
        finalSupportability returns asOfDate results' sourceEvidence' = .ok supportability' →
        results.Extended results' →
        sourceEvidence.toList.flatMap sourceReasons ⊆ sourceEvidence'.toList.flatMap sourceReasons →
        verdictStep returns results' = verdictStep returns results →
        rank supportabilityReasonPrecedence supportability'.reason ≤
          rank supportabilityReasonPrecedence supportability.reason) ∧
      (∀ results', results.Extended results' → degradations results.periodResults ≠ [] →
        (results'.metricErrors = [] ∨ results.metricErrors ≠ []) →
        verdictStep returns results' = verdictStep returns results) := by
  obtain ⟨s, hok, hset⟩ := finalSupportability_spec returns asOfDate results sourceEvidence
  have hsub := finalReads_subset returns asOfDate results sourceEvidence
  refine ⟨s, hok, hset.top, hset.reports_iff hsub, ?_, ?_, ?_, ?_⟩
  · intro results' h
    rw [← finalSupportability_reordered returns asOfDate h, hok]
  · intro returns' asOfDate' results' sourceEvidence' s' hok' hmore hskip
    obtain ⟨t, hokt, hsett⟩ := finalSupportability_spec returns' asOfDate' results' sourceEvidence'
    cases hok'.symm.trans hokt
    have hsub' := finalReads_subset returns' asOfDate' results' sourceEvidence'
    have hreports := (hsett.reports_iff hsub').2 hskip
    apply hset.rank_le hsub
    intro c hc
    exact (hreports (List.ne_nil_of_mem (hmore hc))).le c (hmore hc)
  · intro results' sourceEvidence' s' hok' hextended hsources hstep
    obtain ⟨t, hokt, hsett⟩ := finalSupportability_spec returns asOfDate results' sourceEvidence'
    cases hok'.symm.trans hokt
    have hmore : finalReads returns asOfDate results sourceEvidence ⊆
        finalReads returns asOfDate results' sourceEvidence' := by
      unfold finalReads
      rw [calculationReads_eq, calculationReads_eq, hstep]
      intro c hc
      rcases List.mem_append.1 hc with hsource | hread
      · exact List.mem_append_left _ (hsources hsource)
      · exact List.mem_append_right _ (stepReads_mono hextended returns asOfDate _ hread)
    apply hset.rank_le hmore
    intro c hc
    exact (hsett.top (List.ne_nil_of_mem hc)).le c hc
  · intro results' hextended hdegraded hmetrics
    exact verdictStep_extended hextended hdegraded hmetrics returns

/-- A rolling period on two returns, without or with a rolling Sharpe ratio asked for. -/
def rollingPeriodResult (sharpeRequested : Bool) : PeriodAttributes where
  portfolioObservationCount := none
  seriesCount := some 2
  error := none
  relativeToBenchmarkContext := none
  benchmarkContext := some ⟨false, none, some false, some false, some "NOT_REQUESTED"⟩
  riskFreeContext :=
    if sharpeRequested then
      some ⟨true, none, some false, some false, some "RISK_FREE_UNAVAILABLE"⟩
    else some ⟨false, none, some false, some false, some "NOT_REQUESTED"⟩

def weekReturns : List (ReturnPoint ℚ) := (firstWeek.take 2).map (fun date => ⟨date, 1⟩)

/-- On returns that end two days before the as-of date, a missing risk-free series lowers the
reported reason from staleness to a quality issue. -/
theorem missing_risk_free_hides_staleness :
    ∃ asOfDate ∈ firstWeek.getLast?, ∃ before after,
      finalSupportability weekReturns asOfDate
        (.periods [rollingPeriodResult false]) none = .ok before ∧
      finalSupportability weekReturns asOfDate
        (.periods [rollingPeriodResult true]) none = .ok after ∧
      before.reason = .staleSourceObservations ∧ after.reason = .calculationQualityIssue ∧
      degradationConditions weekReturns asOfDate (.periods [rollingPeriodResult false]) none ⊆
        degradationConditions weekReturns asOfDate (.periods [rollingPeriodResult true]) none ∧
      rank supportabilityReasonPrecedence before.reason <
        rank supportabilityReasonPrecedence after.reason ∧
      ¬IsHighest supportabilityReasonPrecedence
        (degradationConditions weekReturns asOfDate (.periods [rollingPeriodResult true]) none)
        after.reason := by
  refine ⟨_, rfl, _, _, rfl, rfl, rfl, rfl, by decide, by decide, ?_⟩
  intro h
  have hle := h.le .staleSourceObservations (by decide)
  exact absurd hle (by decide)

end Severity

end LotusRisk
