import LotusRisk.Risk.PeriodReports
import LotusRisk.Supportability.Severity

/-! The supportability of a risk calculation: what its benchmark context says, its metrics report. -/

namespace LotusRisk
set_option autoImplicit true

open Relational

section Reported

variable {K : Type} [Field K] [LinearOrder K] [FloorRing K] {math : PyMath K}

/-- What is read of a period result of `calculate_risk`. -/
def RiskPeriodResult.attributes (result : RiskPeriodResult K) : RiskPeriodAttributes K where
  portfolioObservationCount := some result.portfolioObservationCount
  seriesCount := none
  error := none
  relativeToBenchmarkContext := none
  benchmarkContext := none
  riskFreeContext := none
  benchmarkContextPayload := result.benchmarkContext
  metrics := some result.metrics

def metricResults (results : Dict String (RiskPeriodResult K)) : CalculationResults K :=
  .riskMetrics (results.items.map fun item => item.2.attributes)

/-- Entries that are all in error, of which there is one. -/
def AllErrors (entries : List (String × RiskValue K)) : Prop :=
  entries ≠ [] ∧ ∀ entry ∈ entries, entry.2.error.isSome

omit [Field K] [LinearOrder K] [FloorRing K] in
theorem benchmarkMetricErrors_allErrors {metrics : List BenchmarkMetric} (hne : metrics ≠ [])
    (message : String) :
    AllErrors (benchmarkMetricErrors metrics message : List (String × RiskValue K)) := by
  refine ⟨fun h => hne (List.map_eq_nil_iff.1 h), ?_⟩
  intro entry hentry
  obtain ⟨metric, -, rfl⟩ := List.mem_map.1 hentry
  rfl

omit [Field K] [LinearOrder K] [FloorRing K] in
/-- The last of the entries is in the dict, whatever came before. -/
theorem AllErrors.kept {before entries : List (String × RiskValue K)} (h : AllErrors entries) :
    ∃ item ∈ (Dict.ofList (before ++ entries)).items, item.2.error.isSome := by
  rcases List.eq_nil_or_concat entries with hnil | ⟨front, last, rfl⟩
  · exact absurd hnil h.1
  · rw [List.concat_eq_append] at h ⊢
    rw [← List.append_assoc]
    refine ⟨last, Dict.get?_eq_some.1 (Dict.get?_ofList_concat _ last), h.2 last ?_⟩
    exact List.mem_concat_self

omit [FloorRing K] in
/-- Metrics on a benchmark that is there are aligned with it, or in error. -/
theorem aligned_or_allErrors {request : PeriodMetricCalculationRequest K}
    {metricSeries : Series Date K} {metrics : List BenchmarkMetric} (hne : metrics ≠ [])
    (h : availableBenchmarkPeriodMetrics math request metricSeries metrics = .ok result) :
    0 < result.alignedCount ∨ AllErrors result.metricMap := by
  unfold availableBenchmarkPeriodMetrics at h
  split at h
  · cases h
    exact .inr (benchmarkMetricErrors_allErrors hne _)
  · cases h
  · split at h
    · cases h
      exact .inr (benchmarkMetricErrors_allErrors hne _)
    · obtain ⟨⟨metricMap, alignedCount⟩, haligned, hdone⟩ := bind_eq_ok.1 h
      cases hdone
      unfold calculateAlignedBenchmarkMetrics at haligned
      dsimp only at haligned
      split at haligned
      · cases haligned
        exact .inr (benchmarkMetricErrors_allErrors hne _)
      · rename_i hcount
        obtain ⟨metricValues, -, hdone⟩ := bind_eq_ok.1 haligned
        cases hdone
        exact .inl (Nat.lt_of_lt_of_le Nat.zero_lt_two (not_lt.1 hcount))

omit [FloorRing K] in
/-- A benchmark that is missing or unaligned leaves no metric without an error. -/
theorem allErrors_of_degraded {request : PeriodMetricCalculationRequest K}
    {nonBenchmark : PeriodNonBenchmarkMetrics K}
    (h : periodBenchmarkMetrics math request nonBenchmark = .ok (some (result, context)))
    (hdegraded : HasDegradedDependency context) : AllErrors result.metricMap := by
  unfold periodBenchmarkMetrics at h
  dsimp only at h
  split at h
  · cases h
  rename_i hrequested
  have hne : requestedBenchmarkMetrics request.metrics ≠ [] := fun hnil =>
    hrequested (List.isEmpty_iff.2 hnil)
  split at h
  · cases h
    exact benchmarkMetricErrors_allErrors hne _
  · unfold calculateBenchmarkPeriodMetrics at h
    split at h
    · cases h
      exact benchmarkMetricErrors_allErrors hne _
    · rename_i hbenchmark
      cases hresult : availableBenchmarkPeriodMetrics math request nonBenchmark.metricSeries
          (requestedBenchmarkMetrics request.metrics) with
      | error e =>
        rw [hresult] at h
        cases h
      | ok calculated =>
        rw [hresult] at h
        cases h
        rcases aligned_or_allErrors hne hresult with haligned | herrors
        · -- the benchmark is there and aligned, so its context is not degraded
          rcases hdegraded.2 with hmissing | hunaligned
          · rw [prepareBenchmarkContext, Bool.not_eq_false'] at hmissing
            exact absurd hmissing hbenchmark
          · exact absurd haligned (of_decide_eq_false hunaligned)
        · exact herrors

/-- A context that is degraded comes with a metric in error. -/
theorem degraded_reported {request : PeriodMetricCalculationRequest K}
    (h : calculatePeriodResult math request = .ok result) :
    ∀ context ∈ result.benchmarkContext, HasDegradedDependency context →
      ∃ item ∈ result.metrics.items, item.2.error.isSome := by
  obtain ⟨nonBenchmark, -, h⟩ := bind_eq_ok.1 h
  obtain ⟨benchmark, hbenchmark, hdone⟩ := bind_eq_ok.1 h
  cases hdone
  intro context hcontext hdegraded
  obtain ⟨⟨metrics, _⟩, rfl, rfl⟩ := Option.map_eq_some_iff.1 hcontext
  exact (allErrors_of_degraded hbenchmark hdegraded).kept

/-- Every result of a calculation is the result of some period of it. -/
theorem calculated_of_mem {request : StatelessRiskInput K}
    (h : calculateRisk math request = .ok results) (hmem : (name, result) ∈ results.items) :
    ∃ period, calculatePeriodResult math period = .ok result := by
  unfold calculateRisk at h
  dsimp only at h
  split at h
  · cases h
    cases hmem
  · obtain ⟨rates, -, h⟩ := bind_eq_ok.1 h
    obtain ⟨entries, hentries, hdone⟩ := bind_eq_ok.1 (SourceException.ofPython_eq_ok.1 h)
    cases hdone
    obtain ⟨period, -, hperiod⟩ := exists_of_mem_right (mapM_eq_ok.1 hentries)
      (Dict.mem_of_mem_items_ofList hmem)
    obtain ⟨window, -, hperiod⟩ := bind_eq_ok.1 hperiod
    obtain ⟨_, hresult, hdone⟩ := bind_eq_ok.1 hperiod
    cases hdone
    exact ⟨_, hresult⟩

/-- Where nothing that is read of a calculation's results is degraded, no dict-valued context is. -/
theorem payloadsIntact_of_nothingDegraded {request : StatelessRiskInput K}
    (hresults : calculateRisk math request = .ok results)
    (h : NothingDegraded returns asOfDate (metricResults results) sourceEvidence) :
    (metricResults results).PayloadsIntact := by
  intro periodResult hperiod context hcontext hdegraded
  obtain ⟨⟨name, result⟩, hmem, rfl⟩ := List.mem_map.1 hperiod
  obtain ⟨period, hcalculated⟩ := calculated_of_mem hresults hmem
  obtain ⟨item, hitem, herror⟩ := degraded_reported hcalculated context hcontext hdegraded
  have hnone := h.no_metric_error _ hperiod item.2 (List.mem_map_of_mem hitem)
  rw [hnone] at herror
  cases herror

end Reported

section Ready

/-- Supportability is always produced, and is `ready` exactly when nothing that it reads is
degraded; of the results of `calculate_risk`, exactly when nothing is, their dict-valued contexts
included. -/
theorem ready_iff_nothing_degraded (V K : Type) [Field K] [LinearOrder K] [FloorRing K] :
    (∀ (returns : List (ReturnPoint V)) (asOfDate : Date) (results : CalculationResults V)
        (sourceEvidence : Option StatefulReturnsSourceEvidence),
      ∃ supportability,
        finalSupportability returns asOfDate results sourceEvidence = .ok supportability ∧
        (supportability.state = .ready ↔
          NothingDegraded returns asOfDate results sourceEvidence)) ∧
    ∀ (math : PyMath K) (request : StatelessRiskInput K)
        (periodResults : Dict String (RiskPeriodResult K))
        (sourceEvidence : Option StatefulReturnsSourceEvidence),
      calculateRisk math request = .ok periodResults →
      ∃ supportability,
        finalSupportability request.returns request.asOfDate (metricResults periodResults)
          sourceEvidence = .ok supportability ∧
        (supportability.state = .ready ↔
          NothingDegraded request.returns request.asOfDate (metricResults periodResults)
            sourceEvidence ∧ (metricResults periodResults).PayloadsIntact) := by
  constructor
  · exact finalSupportability_ready_iff
  · intro math request periodResults sourceEvidence hresults
    obtain ⟨supportability, hok, hready⟩ := finalSupportability_ready_iff request.returns
      request.asOfDate (metricResults periodResults) sourceEvidence
    refine ⟨supportability, hok, hready.trans ?_⟩
    exact ⟨fun h => ⟨h, payloadsIntact_of_nothingDegraded hresults h⟩, fun h => h.1⟩

/-- A beta without benchmark returns. -/
def betaRequest : StatelessRiskInput ℚ :=
  { yearRequest 2026 2 with metrics := [.benchmark .beta] }

theorem ready_iff_nothing_degraded_beta : ∃ periodResults supportability,
    calculateRisk rationalMath betaRequest = .ok periodResults ∧
    finalSupportability betaRequest.returns betaRequest.asOfDate (metricResults periodResults)
      none = .ok supportability ∧
    (supportability.state = .ready ↔
      NothingDegraded betaRequest.returns betaRequest.asOfDate (metricResults periodResults) none ∧
        (metricResults periodResults).PayloadsIntact) := by
  have hruns : (calculateRisk rationalMath betaRequest).toOption.isSome = true := by
    decide +kernel
  obtain ⟨periodResults, hresults⟩ := ok_of_isSome hruns
  obtain ⟨supportability, hok, hready⟩ :=
    (ready_iff_nothing_degraded ℚ ℚ).2 rationalMath betaRequest periodResults none hresults
  exact ⟨periodResults, supportability, hresults, hok, hready⟩

/-- Two observations, and a benchmark that was asked for and is missing, with no metric in error. -/
def silentPeriodResult : RiskPeriodAttributes ℚ where
  portfolioObservationCount := some 2
  seriesCount := none
  error := none
  relativeToBenchmarkContext := none
  benchmarkContext := none
  riskFreeContext := none
  benchmarkContextPayload := some ⟨true, false, false, "BENCHMARK_UNAVAILABLE", 1, ["BETA"]⟩
  metrics := some Table.empty

/-- A dict-valued context that reports a missing benchmark is not read. -/
theorem unread_context_ready : ∃ supportability,
    finalSupportability (weekReturns.take 1) firstMonday (.riskMetrics [silentPeriodResult]) none =
      .ok supportability ∧ supportability.state = .ready ∧
    ¬(CalculationResults.riskMetrics [silentPeriodResult]).PayloadsIntact := by
  refine ⟨_, rfl, rfl, ?_⟩
  intro hintact
  exact hintact _ (List.mem_singleton_self _) _ rfl ⟨rfl, .inl rfl⟩

end Ready

end LotusRisk
