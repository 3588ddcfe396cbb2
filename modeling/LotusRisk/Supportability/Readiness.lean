import LotusRisk.Supportability.Verdict

namespace LotusRisk
set_option autoImplicit true

open Precedence
open Relational

variable {K : Type}

def CalculationResults.periodResults : CalculationResults K → List PeriodAttributes
  | .periods results => results
  | .riskMetrics results => results.map RiskPeriodAttributes.toPeriodAttributes
  | .attribution results => results.map AttributionPeriodAttributes.toPeriodAttributes

def CalculationResults.riskResults : CalculationResults K → List (RiskPeriodAttributes K)
  | .riskMetrics results => results
  | .periods _ | .attribution _ => []

/-- A context that was not requested, or in which nothing is reported missing. -/
def DependencyContext.Intact (context : DependencyContext) : Prop :=
  context.requested = true →
    context.applied ≠ some false ∧ context.available ≠ some false ∧ context.aligned ≠ some false

/-- At least one set was calculated, and every calculated set is empirical. -/
structure EmpiricalAttribution (results : List (AttributionPeriodAttributes K)) : Prop where
  calculated : ∃ periodResult ∈ results, ∃ sets ∈ periodResult.attributionSets,
    ∃ attributionSet ∈ sets, attributionSet.totalValue.isSome
  empirical : ∀ periodResult ∈ results, ∀ sets ∈ periodResult.attributionSets,
    ∀ attributionSet ∈ sets, attributionSet.totalValue.isSome →
      attributionSet.riskBasis = .empiricalGroupReturns

/-- No dict-valued context of the risk metrics reports a missing dependency. -/
def CalculationResults.PayloadsIntact (results : CalculationResults K) : Prop :=
  ∀ periodResult ∈ results.riskResults,
    ∀ context ∈ periodResult.benchmarkContextPayload, ¬HasDegradedDependency context

/-- What it means for a calculation and its sources to be complete, as far as they are read. -/
structure NothingDegraded (returns : List (ReturnPoint K)) (asOfDate : Date)
    (results : CalculationResults K) (sourceEvidence : Option StatefulReturnsSourceEvidence) :
    Prop where
  returns_observed : returns ≠ []
  no_period_error : ∀ periodResult ∈ results.periodResults, periodResult.error = none
  dependencies_intact : ∀ periodResult ∈ results.periodResults,
    ∀ context ∈ periodResult.contexts, context.Intact
  no_metric_error : ∀ periodResult ∈ results.riskResults,
    ∀ value ∈ periodResult.metricValues, value.error = none
  no_empty_period : ∀ periodResult ∈ results.periodResults,
    observationCount periodResult ≠ some 0
  last_return_fresh : ∃ point ∈ returns, daysBetween asOfDate point.date ≤ 1
  source_current : ∀ evidence ∈ sourceEvidence, evidence.freshness ≠ .stale
  source_complete : ∀ evidence ∈ sourceEvidence, evidence.missingPoints = 0
  sets_empirical : ∀ attributionResults, results = .attribution attributionResults →
    EmpiricalAttribution attributionResults

section Conditions

theorem contextDegradationReason_eq_none {context : DependencyContext} :
    contextDegradationReason context = none ↔ context.Intact := by
  unfold DependencyContext.Intact contextDegradationReason
  cases context.requested with
  | false => simp
  | true =>
    by_cases happlied : context.applied = some false
    · simp [happlied]
    · by_cases havailable : context.available = some false
      · simp [havailable]
      · simp [happlied, havailable]

theorem PeriodAttributes.conditions_eq_nil {periodResult : PeriodAttributes} :
    periodResult.conditions = [] ↔
      periodResult.error = none ∧ ∀ context ∈ periodResult.contexts, context.Intact := by
  unfold PeriodAttributes.conditions
  rw [List.append_eq_nil_iff, List.filterMap_eq_nil_iff, Option.toList_eq_nil_iff,
    Option.map_eq_none_iff]
  simp only [contextDegradationReason_eq_none]

theorem degradations_eq_nil {results : List PeriodAttributes} :
    degradations results = [] ↔ ∀ periodResult ∈ results, periodResult.conditions = [] := by
  unfold degradations
  rw [List.filterMap_eq_nil_iff]
  simp only [degradationReason_eq, List.head?_eq_none_iff]

theorem metricReasons_eq_nil {results : List (RiskPeriodAttributes K)} :
    results.flatMap metricReasons = [] ↔
      ∀ periodResult ∈ results, ∀ value ∈ periodResult.metricValues, value.error = none := by
  unfold metricReasons
  simp only [List.flatMap_eq_nil_iff, List.filterMap_eq_nil_iff, Option.map_eq_none_iff]

theorem daysBetween_anti {a b : Date} (h : a ≤ b) (asOfDate : Date) :
    daysBetween asOfDate b ≤ daysBetween asOfDate a := by
  have hle := Date.toordinal_strictMono.monotone h
  unfold daysBetween
  omega

theorem freshness_stale_iff {returns : List (ReturnPoint K)}
    (h : (returns.map ReturnPoint.date).max? = some latest) :
    freshnessBucketFromReturns returns asOfDate = .stale ↔ 1 < daysBetween asOfDate latest := by
  unfold freshnessBucketFromReturns
  rw [h]
  simp only
  by_cases hzero : daysBetween asOfDate latest ≤ 0
  · rw [if_pos hzero]
    exact ⟨nofun, fun h => by omega⟩
  · rw [if_neg hzero]
    by_cases hone : daysBetween asOfDate latest ≤ 1
    · rw [if_pos hone]
      exact ⟨nofun, fun h => by omega⟩
    · rw [if_neg hone]
      exact ⟨fun _ => by omega, fun _ => rfl⟩

theorem staleReasons_eq_nil {returns : List (ReturnPoint K)} (hne : returns ≠ []) :
    staleReasons returns asOfDate = [] ↔
      ∃ point ∈ returns, daysBetween asOfDate point.date ≤ 1 := by
  cases hmax : (returns.map ReturnPoint.date).max? with
  | none =>
    rw [List.max?_eq_none_iff, List.map_eq_nil_iff] at hmax
    exact absurd hmax hne
  | some latest =>
    obtain ⟨hmem, hub⟩ := List.max?_eq_some_iff.1 hmax
    obtain ⟨last, hlast, rfl⟩ := List.mem_map.1 hmem
    have hiff : staleReasons returns asOfDate = [] ↔ ¬1 < daysBetween asOfDate last.date := by
      unfold staleReasons
      rw [← freshness_stale_iff hmax]
      split
      · rename_i h
        exact ⟨nofun, fun hn => absurd h hn⟩
      · rename_i h
        exact ⟨fun _ => h, fun _ => rfl⟩
    rw [hiff]
    constructor
    · intro h
      exact ⟨last, hlast, not_lt.1 h⟩
    · rintro ⟨point, hp, hage⟩
      have hle := daysBetween_anti (hub _ (List.mem_map_of_mem hp)) asOfDate
      exact not_lt.2 (hle.trans hage)

theorem sourceReasons_eq_nil {evidence : StatefulReturnsSourceEvidence} :
    sourceReasons evidence = [] ↔ evidence.freshness ≠ .stale ∧ evidence.missingPoints = 0 := by
  unfold sourceReasons
  rw [List.append_eq_nil_iff]
  by_cases hm : evidence.missingPoints = 0
  · by_cases hf : evidence.freshness = .stale
    · simp [hm, hf]
    · simp [hm, hf]
  · simp [hm]

theorem mem_calculatedBases {results : List (AttributionPeriodAttributes K)} :
    basis ∈ calculatedBases results ↔
      ∃ periodResult ∈ results, ∃ sets ∈ periodResult.attributionSets,
        ∃ attributionSet ∈ sets, attributionSet.totalValue.isSome ∧
          attributionSet.riskBasis = basis := by
  unfold calculatedBases
  rw [List.mem_flatMap]
  constructor
  · rintro ⟨periodResult, hp, h⟩
    cases hsets : periodResult.attributionSets with
    | none =>
      rw [hsets] at h
      cases h
    | some sets =>
      rw [hsets] at h
      obtain ⟨attributionSet, hset, h⟩ := List.mem_filterMap.1 h
      refine ⟨periodResult, hp, sets, hsets, attributionSet, hset, ?_⟩
      cases htotal : attributionSet.totalValue with
      | none => simp [htotal] at h
      | some total =>
        rw [htotal] at h
        exact ⟨rfl, Option.some.inj h⟩
  · rintro ⟨periodResult, hp, sets, hsets, attributionSet, hset, htotal, rfl⟩
    refine ⟨periodResult, hp, ?_⟩
    rw [Option.mem_def.1 hsets]
    refine List.mem_filterMap.2 ⟨attributionSet, hset, ?_⟩
    rw [if_neg (by simp [Option.isSome_iff_ne_none.1 htotal])]

theorem allCalculatedSetsAreEmpirical_iff {results : List (AttributionPeriodAttributes K)} :
    allCalculatedSetsAreEmpirical results = true ↔ EmpiricalAttribution results := by
  unfold allCalculatedSetsAreEmpirical
  rw [Bool.and_eq_true, Bool.not_eq_true', List.isEmpty_eq_false_iff_exists_mem,
    List.all_eq_true]
  constructor
  · rintro ⟨⟨basis, hb⟩, hall⟩
    obtain ⟨periodResult, hp, sets, hsets, attributionSet, hset, htotal, _⟩ :=
      mem_calculatedBases.1 hb
    refine ⟨⟨periodResult, hp, sets, hsets, attributionSet, hset, htotal⟩, ?_⟩
    intro p hp s hs t ht htotal
    have h := hall t.riskBasis (mem_calculatedBases.2 ⟨p, hp, s, hs, t, ht, htotal, rfl⟩)
    exact of_decide_eq_true h
  · rintro ⟨⟨p, hp, s, hs, t, ht, htotal⟩, hall⟩
    refine ⟨⟨t.riskBasis, mem_calculatedBases.2 ⟨p, hp, s, hs, t, ht, htotal, rfl⟩⟩, ?_⟩
    intro basis hb
    obtain ⟨p, hp, s, hs, t, ht, htotal, rfl⟩ := mem_calculatedBases.1 hb
    exact decide_eq_true (hall p hp s hs t ht htotal)

theorem periodReads_eq_nil {returns : List (ReturnPoint K)} {results : List PeriodAttributes} :
    periodReads returns asOfDate results = [] ↔
      returns ≠ [] ∧ degradations results = [] ∧ emptyReasons results = [] ∧
        staleReasons returns asOfDate = [] := by
  unfold periodReads
  by_cases hr : returns = []
  · simp [hr]
  · by_cases hd : degradations results = []
    · by_cases he : emptyReasons results = []
      · simp [hr, hd, he]
      · simp [hr, hd, he]
    · simp [hr, hd]

theorem not_emptyVerdict {returns : List (ReturnPoint K)} {results : List PeriodAttributes}
    (h : periodReads returns asOfDate results = []) : ¬EmptyVerdict returns results := by
  obtain ⟨hr, _, he, _⟩ := periodReads_eq_nil.1 h
  rintro (hempty | ⟨_, hne⟩)
  · exact hr hempty
  · exact hne he

theorem calculationReads_eq_nil {returns : List (ReturnPoint K)}
    {results : CalculationResults K} :
    calculationReads returns asOfDate results = [] ↔
      periodReads returns asOfDate results.periodResults = [] ∧
        results.riskResults.flatMap metricReasons = [] ∧
        ∀ attributionResults, results = .attribution attributionResults →
          allCalculatedSetsAreEmpirical attributionResults = true := by
  cases results with
  | periods results =>
    constructor
    · intro h
      exact ⟨h, rfl, fun _ he => by cases he⟩
    · intro h
      exact h.1
  | riskMetrics results =>
    unfold calculationReads CalculationResults.periodResults CalculationResults.riskResults
    constructor
    · intro h
      simp only at h
      split at h
      · rename_i hempty
        exact absurd hempty (not_emptyVerdict h)
      · split at h
        · rename_i hm
          exact absurd h hm
        · rename_i hm
          exact ⟨h, not_not.1 hm, fun _ he => by cases he⟩
    · rintro ⟨hp, hm, _⟩
      simp only
      rw [if_neg (not_emptyVerdict hp), if_neg (not_not.2 hm)]
      exact hp
  | attribution results =>
    unfold calculationReads CalculationResults.periodResults CalculationResults.riskResults
    constructor
    · intro h
      simp only at h
      split at h
      · rename_i hcase
        refine ⟨h, rfl, ?_⟩
        intro attributionResults he
        cases he
        exact hcase.resolve_left (periodReads_eq_nil.1 h).1
      · exact absurd h (List.append_ne_nil_of_right_ne_nil _ (List.cons_ne_nil _ _))
    · rintro ⟨hp, _, ha⟩
      simp only
      rw [if_pos (.inr (ha results rfl))]
      exact hp

theorem finalReads_eq_nil {returns : List (ReturnPoint K)} {results : CalculationResults K} :
    finalReads returns asOfDate results sourceEvidence = [] ↔
      NothingDegraded returns asOfDate results sourceEvidence := by
  unfold finalReads
  rw [List.append_eq_nil_iff, List.flatMap_eq_nil_iff, calculationReads_eq_nil,
    periodReads_eq_nil, degradations_eq_nil, emptyReasons_eq_nil, metricReasons_eq_nil]
  constructor
  · rintro ⟨hs, ⟨hr, hd, he, hstale⟩, hm, ha⟩
    refine {
      returns_observed := hr
      no_period_error := fun p hp => (PeriodAttributes.conditions_eq_nil.1 (hd p hp)).1
      dependencies_intact := fun p hp => (PeriodAttributes.conditions_eq_nil.1 (hd p hp)).2
      no_metric_error := hm
      no_empty_period := fun p hp => of_decide_eq_false (he p hp)
      last_return_fresh := (staleReasons_eq_nil hr).1 hstale
      source_current := ?_
      source_complete := ?_
      sets_empirical := fun rs h => allCalculatedSetsAreEmpirical_iff.1 (ha rs h) }
    · intro evidence h
      exact (sourceReasons_eq_nil.1 (hs evidence (Option.mem_toList.2 h))).1
    · intro evidence h
      exact (sourceReasons_eq_nil.1 (hs evidence (Option.mem_toList.2 h))).2
  · intro h
    refine ⟨?_, ⟨h.returns_observed, ?_, ?_, (staleReasons_eq_nil h.returns_observed).2
      h.last_return_fresh⟩, h.no_metric_error, fun rs he => ?_⟩
    · intro evidence he
      have he := Option.mem_toList.1 he
      exact sourceReasons_eq_nil.2 ⟨h.source_current evidence he, h.source_complete evidence he⟩
    · intro p hp
      exact PeriodAttributes.conditions_eq_nil.2 ⟨h.no_period_error p hp, h.dependencies_intact p hp⟩
    · intro p hp
      exact decide_eq_false (h.no_empty_period p hp)
    · exact allCalculatedSetsAreEmpirical_iff.2 (h.sets_empirical rs he)

end Conditions

/-- Supportability is always produced, and is `ready` exactly when nothing it reads is degraded. -/
theorem finalSupportability_ready_iff (returns : List (ReturnPoint K)) (asOfDate : Date)
    (results : CalculationResults K) (sourceEvidence : Option StatefulReturnsSourceEvidence) :
    ∃ supportability,
      finalSupportability returns asOfDate results sourceEvidence = .ok supportability ∧
      (supportability.state = .ready ↔
        NothingDegraded returns asOfDate results sourceEvidence) := by
  obtain ⟨s, hok, hset⟩ := finalSupportability_spec returns asOfDate results sourceEvidence
  exact ⟨s, hok, hset.ready_iff.trans finalReads_eq_nil⟩

end LotusRisk
