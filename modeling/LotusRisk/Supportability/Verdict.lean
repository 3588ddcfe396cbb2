import LotusRisk.Supportability.Calculation

/-! Which conditions a supportability verdict reads, and what it makes of them. -/

namespace LotusRisk
set_option autoImplicit true

open Precedence
open Relational

variable {K : Type}

/-- The conditions of a period; an unavailable or unaligned dependency is one condition. -/
def PeriodAttributes.conditions (periodResult : PeriodAttributes) :
    List RiskSupportabilityReason :=
  (periodResult.error.map supportabilityReasonForError).toList ++
    periodResult.contexts.filterMap contextDegradationReason

/-- A period contributes the first of its conditions. -/
theorem degradationReason_eq (periodResult : PeriodAttributes) :
    degradationReason periodResult = periodResult.conditions.head? := by
  unfold degradationReason dependencyDegradationReason PeriodAttributes.conditions
  rw [List.head?_append, List.head?_filterMap]
  cases periodResult.error with
  | none => rfl
  | some error => rfl

theorem contextDegradationReason_ranked {context : DependencyContext}
    (h : contextDegradationReason context = some reason) :
    reason ∈ supportabilityReasonPrecedence := by
  unfold contextDegradationReason at h
  split at h
  · cases h
  · split at h
    · rw [← Option.some.inj h]
      exact supportabilityReasonForError_ranked _
    · split at h
      · rw [← Option.some.inj h]
        decide
      · cases h

theorem PeriodAttributes.conditions_ranked (periodResult : PeriodAttributes)
    (h : reason ∈ periodResult.conditions) : reason ∈ supportabilityReasonPrecedence := by
  unfold PeriodAttributes.conditions at h
  rcases List.mem_append.1 h with h | h
  · rw [Option.mem_toList, Option.map_eq_some_iff] at h
    obtain ⟨error, _, rfl⟩ := h
    exact supportabilityReasonForError_ranked error
  · obtain ⟨context, _, h⟩ := List.mem_filterMap.1 h
    exact contextDegradationReason_ranked h

def degradations (results : List PeriodAttributes) : List RiskSupportabilityReason :=
  results.filterMap degradationReason

theorem mem_degradations {results : List PeriodAttributes} : reason ∈ degradations results ↔
    ∃ periodResult ∈ results, periodResult.conditions.head? = some reason := by
  unfold degradations
  rw [List.mem_filterMap]
  constructor
  · rintro ⟨periodResult, hp, h⟩
    exact ⟨periodResult, hp, degradationReason_eq periodResult ▸ h⟩
  · rintro ⟨periodResult, hp, h⟩
    exact ⟨periodResult, hp, (degradationReason_eq periodResult).trans h⟩

theorem degradations_ranked {results : List PeriodAttributes} (h : reason ∈ degradations results) :
    reason ∈ supportabilityReasonPrecedence := by
  obtain ⟨periodResult, _, h⟩ := mem_degradations.1 h
  exact periodResult.conditions_ranked (List.mem_of_mem_head? h)

theorem metricReasons_ranked {results : List (RiskPeriodAttributes K)}
    (h : reason ∈ results.flatMap metricReasons) : reason ∈ supportabilityReasonPrecedence := by
  obtain ⟨periodResult, _, h⟩ := List.mem_flatMap.1 h
  obtain ⟨value, _, h⟩ := List.mem_filterMap.1 h
  obtain ⟨error, _, rfl⟩ := Option.map_eq_some_iff.1 h
  exact supportabilityReasonForError_ranked error

def emptyReasons (results : List PeriodAttributes) : List RiskSupportabilityReason :=
  if results.any PeriodAttributes.isEmpty then [.insufficientObservations] else []

def staleReasons (returns : List (ReturnPoint K)) (asOfDate : Date) :
    List RiskSupportabilityReason :=
  if freshnessBucketFromReturns returns asOfDate = .stale then [.staleSourceObservations] else []

/-- The conditions behind the period verdict: the first kind of them that occurs. -/
def periodReads (returns : List (ReturnPoint K)) (asOfDate : Date)
    (results : List PeriodAttributes) : List RiskSupportabilityReason :=
  if returns = [] then [.noReturnObservations]
  else if degradations results ≠ [] then degradations results
  else if emptyReasons results ≠ [] then emptyReasons results
  else staleReasons returns asOfDate

/-- The period verdict is `empty`. -/
def EmptyVerdict (returns : List (ReturnPoint K)) (results : List PeriodAttributes) : Prop :=
  returns = [] ∨ (degradations results = [] ∧ emptyReasons results ≠ [])

instance (returns : List (ReturnPoint K)) (results : List PeriodAttributes) :
    Decidable (EmptyVerdict returns results) :=
  inferInstanceAs (Decidable (_ ∨ _))

/-- The conditions behind the verdict of a calculation. -/
def calculationReads (returns : List (ReturnPoint K)) (asOfDate : Date) :
    CalculationResults K → List RiskSupportabilityReason
  | .periods results => periodReads returns asOfDate results
  | .riskMetrics results =>
    let periodResults := results.map RiskPeriodAttributes.toPeriodAttributes
    if EmptyVerdict returns periodResults then periodReads returns asOfDate periodResults
    else if results.flatMap metricReasons ≠ [] then results.flatMap metricReasons
    else periodReads returns asOfDate periodResults
  | .attribution results =>
    let periodResults := results.map AttributionPeriodAttributes.toPeriodAttributes
    if returns = [] ∨ allCalculatedSetsAreEmpirical results = true then
      periodReads returns asOfDate periodResults
    else degradations periodResults ++ [.groupReturnSeriesUnavailable]

/-- The conditions behind the final verdict: source evidence is always read. -/
def finalReads (returns : List (ReturnPoint K)) (asOfDate : Date) (results : CalculationResults K)
    (sourceEvidence : Option StatefulReturnsSourceEvidence) : List RiskSupportabilityReason :=
  sourceEvidence.toList.flatMap sourceReasons ++ calculationReads returns asOfDate results

/-- A verdict that is `ready` when nothing was read, and otherwise gives the top reason. -/
inductive Settles (supportability : RiskCalculationSupportability)
    (conditions : List RiskSupportabilityReason) : Prop where
  | ready (hread : conditions = []) (hstate : supportability.state = .ready)
      (hreason : supportability.reason = .calculationComplete)
  | notReady (hstate : supportability.state ≠ .ready)
      (htop : IsHighest supportabilityReasonPrecedence conditions supportability.reason)

theorem Settles.ready_iff (h : Settles s conditions) : s.state = .ready ↔ conditions = [] := by
  cases h with
  | ready hread hstate hreason => exact ⟨fun _ => hread, fun _ => hstate⟩
  | notReady hstate htop =>
    constructor
    · intro h
      exact absurd h hstate
    · intro h
      cases h ▸ htop.mem

theorem Settles.top (h : Settles s conditions) (hne : conditions ≠ []) :
    IsHighest supportabilityReasonPrecedence conditions s.reason := by
  cases h with
  | ready hread hstate hreason => exact absurd hread hne
  | notReady hstate htop => exact htop

theorem isHighest_singleton (h : reason ∈ supportabilityReasonPrecedence) :
    IsHighest supportabilityReasonPrecedence [reason] reason := by
  refine ⟨h, List.mem_singleton_self reason, ?_⟩
  intro other ho
  rw [List.mem_singleton.1 ho]

theorem emptyReasons_eq_nil {results : List PeriodAttributes} :
    emptyReasons results = [] ↔ ∀ periodResult ∈ results, periodResult.isEmpty = false := by
  unfold emptyReasons
  split
  · rename_i h
    obtain ⟨periodResult, hp, he⟩ := List.any_eq_true.1 h
    constructor
    · intro h
      cases h
    · intro h
      rw [h periodResult hp] at he
      cases he
  · rename_i h
    refine ⟨fun _ => ?_, fun _ => rfl⟩
    intro periodResult hp
    apply Bool.eq_false_iff.2
    intro he
    exact h (List.any_eq_true.2 ⟨periodResult, hp, he⟩)

theorem emptyReasons_of_ne_nil {results : List PeriodAttributes} (h : emptyReasons results ≠ []) :
    emptyReasons results = [.insufficientObservations] := by
  unfold emptyReasons at h ⊢
  split
  · rfl
  · rename_i hn
    rw [if_neg hn] at h
    exact absurd rfl h

theorem countP_eq_zero_iff_emptyReasons {results : List PeriodAttributes} :
    results.countP PeriodAttributes.isEmpty = 0 ↔ emptyReasons results = [] := by
  rw [List.countP_eq_zero, emptyReasons_eq_nil]
  constructor
  · intro h periodResult hp
    exact Bool.eq_false_iff.2 (h periodResult hp)
  · intro h periodResult hp
    rw [h periodResult hp]
    exact Bool.false_ne_true

theorem length_degradations_eq_zero {results : List PeriodAttributes} :
    (results.filterMap degradationReason).length = 0 ↔ degradations results = [] :=
  List.length_eq_zero_iff

/-- The period verdict never raises, and settles what it read. -/
theorem supportabilityFromPeriodResults_spec (returns : List (ReturnPoint K)) (asOfDate : Date)
    (results : List PeriodAttributes) : ∃ s,
      supportabilityFromPeriodResults returns asOfDate results = .ok s ∧
      Settles s (periodReads returns asOfDate results) ∧
      (s.state = .empty ↔ EmptyVerdict returns results) := by
  unfold supportabilityFromPeriodResults periodReads EmptyVerdict
  simp only
  split
  · rename_i hr
    refine ⟨_, rfl, .notReady (fun h => by cases h) (isHighest_singleton (by decide)), ?_⟩
    exact ⟨fun _ => .inl hr, fun _ => rfl⟩
  · rename_i hr
    unfold periodResultsSupportabilityState periodSupportabilityOutcome
    rw [assessPeriodResults_eq]
    simp only [ne_eq, length_degradations_eq_zero, countP_eq_zero_iff_emptyReasons]
    by_cases hd : degradations results = []
    · rw [if_neg (not_not.2 hd), if_neg (not_not.2 hd)]
      by_cases he : emptyReasons results = []
      · rw [if_neg (not_not.2 he), if_neg (not_not.2 he)]
        unfold staleReasons
        split
        · refine ⟨_, rfl, .notReady (fun h => by cases h) (isHighest_singleton (by decide)), ?_, ?_⟩
          · intro h
            cases h
          · intro h
            exact absurd he (h.resolve_left hr).2
        · refine ⟨_, rfl, .ready rfl rfl rfl, ?_, ?_⟩
          · intro h
            cases h
          · intro h
            exact absurd he (h.resolve_left hr).2
      · rw [if_pos he, if_pos he]
        refine ⟨_, rfl, .notReady (fun h => by cases h) ?_, ?_⟩
        · rw [emptyReasons_of_ne_nil he]
          exact isHighest_singleton (by decide)
        · exact ⟨fun _ => .inr ⟨hd, he⟩, fun _ => rfl⟩
    · rw [if_pos hd, if_pos hd]
      obtain ⟨reason, hok, htop⟩ := selectSupportabilityReason_spec _ hd
        (fun _ h => degradations_ranked h)
      unfold degradations at hok
      rw [hok]
      refine ⟨_, rfl, .notReady (fun h => by cases h) htop, ?_, ?_⟩
      · intro h
        cases h
      · intro h
        exact absurd (h.resolve_left hr).1 hd

theorem supportabilityFromRiskMetricResults_spec (returns : List (ReturnPoint K))
    (asOfDate : Date) (results : List (RiskPeriodAttributes K)) : ∃ s,
      supportabilityFromRiskMetricResults returns asOfDate results = .ok s ∧
      Settles s (calculationReads returns asOfDate (.riskMetrics results)) := by
  unfold supportabilityFromRiskMetricResults calculationReads
  obtain ⟨baseline, hok, hset, hempty⟩ := supportabilityFromPeriodResults_spec returns asOfDate
    (results.map RiskPeriodAttributes.toPeriodAttributes)
  rw [hok]
  simp only [bind, Except.bind, hempty]
  split
  · exact ⟨baseline, rfl, hset⟩
  · rw [scanRiskMetricSupportability_eq]
    by_cases hm : results.flatMap metricReasons = []
    · rw [if_neg (not_not.2 (List.length_eq_zero_iff.2 hm)), if_neg (not_not.2 hm)]
      exact ⟨baseline, rfl, hset⟩
    · rw [if_pos (fun h => hm (List.length_eq_zero_iff.1 h)), if_pos hm]
      obtain ⟨reason, hsel, htop⟩ := selectSupportabilityReason_spec _ hm
        (fun _ h => metricReasons_ranked h)
      rw [hsel]
      exact ⟨_, rfl, .notReady (fun h => by cases h) htop⟩

theorem supportabilityFromAttributionResults_spec (returns : List (ReturnPoint K))
    (asOfDate : Date) (results : List (AttributionPeriodAttributes K)) : ∃ s,
      supportabilityFromAttributionResults returns asOfDate results = .ok s ∧
      Settles s (calculationReads returns asOfDate (.attribution results)) := by
  unfold supportabilityFromAttributionResults calculationReads
  obtain ⟨baseline, hok, hset, _⟩ := supportabilityFromPeriodResults_spec returns asOfDate
    (results.map AttributionPeriodAttributes.toPeriodAttributes)
  simp only [hok, bind, Except.bind]
  by_cases hr : returns = []
  · rw [if_pos hr, if_pos (.inl hr)]
    exact ⟨baseline, rfl, hset⟩
  · rw [if_neg hr]
    by_cases ha : allCalculatedSetsAreEmpirical results = true
    · rw [if_pos ha, if_pos (.inr ha)]
      exact ⟨baseline, rfl, hset⟩
    · rw [if_neg ha, if_neg (not_or.2 ⟨hr, ha⟩), assessPeriodResults_eq]
      obtain ⟨reason, hsel, htop⟩ := selectSupportabilityReason_spec
        (degradations (results.map AttributionPeriodAttributes.toPeriodAttributes) ++
          [.groupReturnSeriesUnavailable]) (by simp) (by
          intro reason h
          rcases List.mem_append.1 h with h | h
          · exact degradations_ranked h
          · rw [List.mem_singleton.1 h]
            decide)
      unfold degradations at hsel
      rw [hsel]
      exact ⟨_, rfl, .notReady (fun h => by cases h) htop⟩

theorem calculationSupportability_spec (returns : List (ReturnPoint K)) (asOfDate : Date)
    (results : CalculationResults K) : ∃ s,
      calculationSupportability returns asOfDate results = .ok s ∧
      Settles s (calculationReads returns asOfDate results) := by
  cases results with
  | periods results =>
    obtain ⟨s, hok, hset, _⟩ := supportabilityFromPeriodResults_spec returns asOfDate results
    exact ⟨s, hok, hset⟩
  | riskMetrics results => exact supportabilityFromRiskMetricResults_spec returns asOfDate results
  | attribution results => exact supportabilityFromAttributionResults_spec returns asOfDate results

theorem sourceReasons_ranked {sourceEvidence : StatefulReturnsSourceEvidence}
    (h : reason ∈ sourceReasons sourceEvidence) : reason ∈ supportabilityReasonPrecedence := by
  unfold sourceReasons at h
  rcases List.mem_append.1 h with h | h
  · split at h
    · rw [List.mem_singleton.1 h]
      decide
    · cases h
  · split at h
    · rw [List.mem_singleton.1 h]
      decide
    · cases h

/-- Composition reads the evidence on top of what the calculation read. -/
theorem composeReturnsSourceSupportability_spec (hset : Settles s conditions)
    (sourceEvidence : StatefulReturnsSourceEvidence) : ∃ t,
      composeReturnsSourceSupportability s sourceEvidence = .ok t ∧
      Settles t (sourceReasons sourceEvidence ++ conditions) := by
  unfold composeReturnsSourceSupportability
  by_cases hs : sourceReasons sourceEvidence = []
  · rw [if_pos hs, hs]
    exact ⟨s, rfl, hset⟩
  · rw [if_neg hs]
    cases hset with
    | ready hread hstate hreason =>
      rw [if_neg (not_not.2 hstate), List.append_nil, hread, List.append_nil]
      obtain ⟨reason, hsel, htop⟩ := selectSupportabilityReason_spec _ hs
        (fun _ h => sourceReasons_ranked h)
      have hne : reason ≠ s.reason := by
        intro he
        have hranked := (ranked_iff reason).1 htop.ranked
        rw [he, hreason] at hranked
        exact hranked (List.mem_singleton_self _)
      refine ⟨_, by rw [hsel]; rfl, .notReady ?_ htop⟩
      rw [if_neg hne]
      split
      · exact fun h => by cases h
      · exact fun h => by cases h
    | notReady hstate htop =>
      rw [if_pos hstate]
      obtain ⟨reason, hsel, hnew⟩ := selectSupportabilityReason_spec
        (sourceReasons sourceEvidence ++ [s.reason]) (by simp) (by
          intro reason h
          rcases List.mem_append.1 h with h | h
          · exact sourceReasons_ranked h
          · rw [List.mem_singleton.1 h]
            exact htop.ranked)
      refine ⟨_, by rw [hsel]; rfl, .notReady ?_ (htop.append_left hnew)⟩
      split
      · exact hstate
      · split
        · exact fun h => by cases h
        · exact fun h => by cases h

/-- The final verdict never raises, and settles what the calculation and the evidence give. -/
theorem finalSupportability_spec (returns : List (ReturnPoint K)) (asOfDate : Date)
    (results : CalculationResults K) (sourceEvidence : Option StatefulReturnsSourceEvidence) :
    ∃ s, finalSupportability returns asOfDate results sourceEvidence = .ok s ∧
      Settles s (finalReads returns asOfDate results sourceEvidence) := by
  obtain ⟨s, hok, hset⟩ := calculationSupportability_spec returns asOfDate results
  unfold finalSupportability finalReads
  rw [hok]
  cases sourceEvidence with
  | none => exact ⟨s, rfl, hset⟩
  | some evidence =>
    obtain ⟨t, hcompose, hsettles⟩ := composeReturnsSourceSupportability_spec hset evidence
    refine ⟨t, hcompose, ?_⟩
    rw [Option.toList_some, List.flatMap_singleton]
    exact hsettles

end LotusRisk
