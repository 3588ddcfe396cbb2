import LotusRisk.ScenarioJobs.Reading
import LotusRisk.ScenarioJobs.WorkerOutcomes

/-! The asynchronous job refines the synchronous endpoint: what the worker publishes is the
synchronous response, split into an aggregate and rows. -/

namespace LotusRisk
open Relational JsonText Fencing ScenarioJobStore
set_option autoImplicit true

section Split

variable [PyFloat F] [PyText]

/-- The contributions of one scenario, in ordinal order. -/
def scenarioContributions (rows : List (ScenarioEvaluationJobContributionRecord F))
    (scenarioId : String) : List (ScenarioPositionContribution F) :=
  ((rows.filter (fun row => row.scenarioId = scenarioId)).insertionSort
    (fun a b => a.ordinal ≤ b.ordinal)).map (·.contribution)

omit [PyFloat F] [PyText] in
theorem scenarioRecords_sorted (jobId : String) (result : ScenarioResult F) :
    (scenarioRecords jobId result).Pairwise (fun a b => a.ordinal ≤ b.ordinal) := by
  have hr := List.pairwise_lt_range (n := result.positionContributions.length)
  rw [List.range_eq_range', ← List.zipIdx_map_snd, List.pairwise_map] at hr
  unfold scenarioRecords
  rw [List.pairwise_map]
  exact hr.imp Nat.le_of_lt

omit [PyFloat F] [PyText] in
theorem contributions_scenarioRecords (jobId : String) (result : ScenarioResult F) :
    (scenarioRecords jobId result).map (·.contribution) = result.positionContributions := by
  unfold scenarioRecords
  rw [List.map_map]
  exact List.zipIdx_map_fst 0 result.positionContributions

omit [PyFloat F] [PyText] in
/-- Rows grouped by scenario, in ordinal order, are the contributions they were made of. -/
theorem scenarioContributions_contributionRecords {evaluation : RegimeScenarioPackResponse F}
    (hn : (evaluation.scenarioResults.map (·.scenarioId)).Nodup)
    (hr : result ∈ evaluation.scenarioResults) (jobId : String) :
    scenarioContributions (contributionRecords jobId evaluation) result.scenarioId =
      result.positionContributions := by
  have hgroup : ∀ other ∈ evaluation.scenarioResults, ∀ row ∈ scenarioRecords jobId other,
      row.scenarioId = other.scenarioId := by
    intro other _ row hm
    obtain ⟨m, -, rfl⟩ := List.mem_map.1 hm
    rfl
  unfold scenarioContributions contributionRecords
  rw [filter_flatMap_key hn hgroup hr, (scenarioRecords_sorted jobId result).insertionSort_eq,
    contributions_scenarioRecords]

end Split

section Scope

variable [PyFloat F] [PyText]

/-- The invocation is within the scope of the synchronous endpoint, under an unchanged entry of the
catalog and with texts that fit their columns. -/
structure JobAttempt.InSynchronousScope (a : JobAttempt F) (request : RegimeScenarioPackRequest F)
    (pack : List (ScenarioDefinition F)) : Prop where
  same_request : a.call.request = request.toJobRequest
  found : a.catalog.packs.get? request.scenarioPackId = some pack
  same_pack : a.admissionCatalog.packs.get? request.scenarioPackId = some pack
  row_bound : validatePositionContributionRowBound pack.length
    request.toScenarioEvaluationRequest = .ok ()
  distinct : (pack.map (·.scenarioId)).Nodup
  texts_fit : ∀ scenario ∈ pack, a.db.fits 128 scenario.scenarioId = true ∧
    ∀ component ∈ request.exposureComponents, a.db.fits 256 component.securityId = true ∧
      a.db.fitsOptional 512 component.displayName = true ∧
      a.db.fits 128 (PyText.upper component.bucket) = true

/-- The stored job is the response: its aggregate without contributions, its contributions as rows,
and the fingerprint of the job in its metadata. -/
structure JobAttempt.Publishes (a : JobAttempt F) (response : RegimeScenarioPackResponse F) :
    Prop where
  aggregate : ∃ job, a.processed.store.job? a.claim.jobId = some job ∧ job.status = .succeeded ∧
    job.resultJson = some (dumps (aggregateResult response).modelDump) ∧
    (aggregateResult response).metadata.requestFingerprint = job.requestFingerprint
  contributions : ∀ result ∈ response.scenarioResults,
    scenarioContributions (a.processed.store.contributionsOf a.claim.jobId) result.scenarioId =
      result.positionContributions
  complete : ∀ row ∈ a.processed.store.contributionsOf a.claim.jobId,
    ∃ result ∈ response.scenarioResults, result.scenarioId = row.scenarioId

end Scope

section Refinement

variable [PyFloat F] [PyText] {a : JobAttempt F} {request : RegimeScenarioPackRequest F}
  {pack : List (ScenarioDefinition F)} (h : a.InSynchronousScope request pack)

include h

/-- Within the row bound both endpoints evaluate alike. -/
theorem evaluateRegimeScenarioPack_eq :
    evaluateRegimeScenarioPack a.catalog request =
      responseFromEvaluation a.catalog a.call.request.toScenarioEvaluationRequest := by
  unfold evaluateRegimeScenarioPack
  rw [h.found, h.same_request]
  simp only [bind, Except.bind]
  rw [h.row_bound]
  rfl

/-- The synchronous response depends on the catalog entry of the pack only. -/
theorem response_at_admission
    (hg : a.admissionCatalog.governance.get? request.scenarioPackId =
      a.catalog.governance.get? request.scenarioPackId) :
    evaluateRegimeScenarioPack a.admissionCatalog request =
      evaluateRegimeScenarioPack a.catalog request := by
  unfold evaluateRegimeScenarioPack responseFromEvaluation evaluateScenarioPackContext
    scenarioPackContext evaluateGovernanceEvidence
  rw [h.found, h.same_pack, hg]

theorem revision_current : packRevision pack = a.claim.scenarioPackRevision := by
  obtain ⟨pack', hp, hr⟩ := a.admittedRevision
  rw [h.same_request] at hp
  cases h.same_pack.symm.trans hp
  exact hr

theorem publishes_of_response (he : evaluateRegimeScenarioPack a.catalog request = .ok response) :
    a.Publishes response := by
  have hp : a.catalog.packs.get? a.call.request.scenarioPackId = some pack := by
    rw [h.same_request]
    exact h.found
  rw [evaluateRegimeScenarioPack_eq h] at he
  obtain ⟨hg, hs, hf⟩ := responseFromEvaluation_eq_ok hp a.call.request.weights_nonneg he
  have hclaim := (evaluateClaim_of_current a.read hp (revision_current h)).trans he
  have hrows : Storable a.db (contributionRecords a.claim.jobId response) := by
    rw [storable_contributionRecords hs, h.same_request]
    exact .inr ⟨h.distinct, h.texts_fit⟩
  obtain ⟨-, hj, hc⟩ := a.published hclaim hrows
  have hn : (response.scenarioResults.map (·.scenarioId)).Nodup := by
    rw [hs, List.map_map]
    exact h.distinct
  constructor
  · refine ⟨_, hj, rfl, rfl, ?_⟩
    exact hf.trans a.fingerprint.symm
  · intro result hr
    rw [hc]
    exact scenarioContributions_contributionRecords hn hr _
  · intro row hm
    rw [hc] at hm
    obtain ⟨result, hr, m, -, rfl⟩ := mem_contributionRecords.1 hm
    exact ⟨result, hr, rfl⟩

/-- A job that the worker published has a synchronous response. -/
theorem response_of_succeeded (hj : a.processed.store.job? a.claim.jobId = some job)
    (hs : job.status = .succeeded) :
    ∃ response, evaluateRegimeScenarioPack a.catalog request = .ok response := by
  have hp : a.catalog.packs.get? a.call.request.scenarioPackId = some pack := by
    rw [h.same_request]
    exact h.found
  rw [evaluateRegimeScenarioPack_eq h]
  cases hg : a.catalog.governance.get? a.call.request.scenarioPackId with
  | none =>
    obtain ⟨-, hj', -⟩ := a.ungoverned hp (revision_current h) hg
    cases hj.symm.trans hj'
    cases hs
  | some governance =>
    obtain ⟨evaluation, -, he, -⟩ := a.evaluated hp (revision_current h) (by rw [hg]; rfl)
    exact ⟨evaluation, he⟩

end Refinement

/-- The job contract accepts every synchronous request, and what the worker publishes for one is the
synchronous response. -/
theorem job_refines_synchronous [PyFloat F] [PyText] (request : RegimeScenarioPackRequest F) :
    RegimeScenarioPackJobRequest.validate request.toScenarioEvaluationRequest = .ok () ∧
    ∀ (a : JobAttempt F) (pack : List (ScenarioDefinition F)),
      a.InSynchronousScope request pack →
      (∀ response, evaluateRegimeScenarioPack a.catalog request = .ok response →
        a.Publishes response) ∧
      (∀ job, a.processed.store.job? a.claim.jobId = some job → job.status = .succeeded →
        ∃ response, evaluateRegimeScenarioPack a.catalog request = .ok response ∧
          a.Publishes response) ∧
      (a.admissionCatalog.governance.get? request.scenarioPackId =
          a.catalog.governance.get? request.scenarioPackId →
        evaluateRegimeScenarioPack a.admissionCatalog request =
          evaluateRegimeScenarioPack a.catalog request) := by
  refine ⟨job_validate_of_validate request.accepted, fun a pack h => ⟨?_, ?_, ?_⟩⟩
  · intro response he
    exact publishes_of_response h he
  · intro job hj hs
    obtain ⟨response, he⟩ := response_of_succeeded h hj hs
    exact ⟨response, he, publishes_of_response h he⟩
  · exact response_at_admission h

section Example

open AsciiRuntime

theorem balanced_in_scope :
    (balancedAttempt codeCatalog).InSynchronousScope balancedRequest balancedPack where
  same_request := rfl
  found := balanced_found
  same_pack := balanced_found
  row_bound := by decide
  distinct := by decide
  texts_fit := by decide

theorem job_refines_synchronous_balanced : ∃ response,
    evaluateRegimeScenarioPack codeCatalog balancedRequest = .ok response ∧
    (balancedAttempt codeCatalog).Publishes response := by
  obtain ⟨-, hr⟩ := job_refines_synchronous balancedRequest
  obtain ⟨hp, -, -⟩ := hr _ _ balanced_in_scope
  obtain ⟨response, -, he, -⟩ := (balancedAttempt codeCatalog).evaluated balanced_found
    (revision_current balanced_in_scope) rfl
  rw [← evaluateRegimeScenarioPack_eq balanced_in_scope] at he
  exact ⟨response, he, hp response he⟩

end Example

end LotusRisk
