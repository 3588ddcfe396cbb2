import LotusRisk.ScenarioJobs.Attempts

/-! How an invocation of the worker ends, over every catalog that may be in force by then. -/

namespace LotusRisk
open Relational JsonText Fencing ScenarioJobStore
set_option autoImplicit true

section Endings

variable [PyFloat F] [PyText] (a : JobAttempt F)

theorem JobAttempt.removed (hp : a.catalog.packs.get? a.call.request.scenarioPackId = none) :
    a.processed.answer = .ok (some a.claim.jobId) ∧
    a.processed.store.job? a.claim.jobId = some (a.claim.failedWith
      "SCENARIO_EVALUATION_INVALID_INPUT" "Persisted scenario job input could not be evaluated."
      a.failedAt) ∧
    a.processed.store.contributionsOf a.claim.jobId = [] := by
  have he := evaluateClaim_of_removed a.read hp
  exact a.processed_of_failed (settleClaim_of_invalid a.held he rfl _ _)

theorem JobAttempt.changed (hp : a.catalog.packs.get? a.call.request.scenarioPackId = some pack)
    (hn : packRevision pack ≠ a.claim.scenarioPackRevision) :
    a.processed.answer = .ok (some a.claim.jobId) ∧
    a.processed.store.job? a.claim.jobId = some (a.claim.failedWith
      "SCENARIO_PACK_REVISION_UNAVAILABLE" "SCENARIO_PACK_REVISION_UNAVAILABLE" a.failedAt) ∧
    a.processed.store.contributionsOf a.claim.jobId = [] := by
  have he := evaluateClaim_of_changed a.read hp hn
  exact a.processed_of_failed (settleClaim_of_qualified a.held he (by decide) (by decide) _ _)

theorem JobAttempt.ungoverned
    (hp : a.catalog.packs.get? a.call.request.scenarioPackId = some pack)
    (hr : packRevision pack = a.claim.scenarioPackRevision)
    (hg : a.catalog.governance.get? a.call.request.scenarioPackId = none) :
    a.processed.answer = .ok (some a.claim.jobId) ∧
    a.processed.store.job? a.claim.jobId = some (a.claim.failedWith
      "SCENARIO_EVALUATION_INVALID_INPUT" "Persisted scenario job input could not be evaluated."
      a.failedAt) ∧
    a.processed.store.contributionsOf a.claim.jobId = [] := by
  have he := (evaluateClaim_of_current a.read hp hr).trans
    (responseFromEvaluation_of_ungoverned hp hg)
  exact a.processed_of_failed (settleClaim_of_invalid a.held he rfl _ _)

theorem JobAttempt.evaluated
    (hp : a.catalog.packs.get? a.call.request.scenarioPackId = some pack)
    (hr : packRevision pack = a.claim.scenarioPackRevision)
    (hg : (a.catalog.governance.get? a.call.request.scenarioPackId).isSome) :
    ∃ evaluation, evaluateClaim a.parse a.catalog a.claim = .ok evaluation ∧
      responseFromEvaluation a.catalog a.call.request.toScenarioEvaluationRequest =
        .ok evaluation ∧
      evaluation.scenarioResults =
        pack.map (scenarioResult a.call.request.toScenarioEvaluationRequest) := by
  obtain ⟨evaluation, he, hs, -⟩ :=
    responseFromEvaluation_of_governed hp hg a.call.request.weights_nonneg
  exact ⟨evaluation, (evaluateClaim_of_current a.read hp hr).trans he, he, hs⟩

theorem JobAttempt.published {evaluation : RegimeScenarioPackResponse F}
    (he : evaluateClaim a.parse a.catalog a.claim = .ok evaluation)
    (hs : Storable a.db (contributionRecords a.claim.jobId evaluation)) :
    a.processed.answer = .ok (some a.claim.jobId) ∧
    a.processed.store.job? a.claim.jobId = some (a.claim.succeededWith
      (dumps (aggregateResult evaluation).modelDump) a.completedAt) ∧
    a.processed.store.contributionsOf a.claim.jobId =
      contributionRecords a.claim.jobId evaluation := by
  obtain ⟨s, hr, hj, hc⟩ :=
    settleClaim_of_published a.held a.unpublished he hs a.completedAt a.failedAt
  rw [a.processed_of_settled hr]
  exact ⟨rfl, hj, hc⟩

/-- A refused publication is not caught: the worker raises and the job keeps running. -/
theorem JobAttempt.refused {evaluation : RegimeScenarioPackResponse F}
    (he : evaluateClaim a.parse a.catalog a.claim = .ok evaluation)
    (hs : ¬ Storable a.db (contributionRecords a.claim.jobId evaluation)) :
    (∃ e, a.processed.answer = .error e) ∧
    a.processed.store.job? a.claim.jobId = some a.claim ∧ a.claim.status = .running := by
  obtain ⟨e, hr⟩ := settleClaim_of_refused a.held he hs a.completedAt a.failedAt
  rw [a.processed_of_raised hr]
  exact ⟨⟨e, rfl⟩, a.held.1, a.held.2.1⟩

end Endings

section PoisonJobs

variable [PyFloat F] [PyText]

/-- The invocation returns, and the job is `SUCCEEDED` or `FAILED`. -/
def JobAttempt.Settled (a : JobAttempt F) : Prop :=
  a.processed.answer = .ok (some a.claim.jobId) ∧
    ∃ job, a.processed.store.job? a.claim.jobId = some job ∧ job.terminal = true

/-- The evaluation fails before any row is written, or the engine takes the rows. -/
def JobAttempt.Publishable (a : JobAttempt F) : Prop :=
  a.catalog.governance.get? a.call.request.scenarioPackId = none ∨
    ∀ pack, a.catalog.packs.get? a.call.request.scenarioPackId = some pack →
      RowsStorable a.db pack a.call.request.exposureComponents

theorem JobAttempt.settled_of_failed {a : JobAttempt F}
    (h : a.processed.answer = .ok (some a.claim.jobId) ∧
      a.processed.store.job? a.claim.jobId = some (a.claim.failedWith code detail a.failedAt) ∧
      a.processed.store.contributionsOf a.claim.jobId = []) : a.Settled :=
  ⟨h.1, _, h.2.1, rfl⟩

theorem JobAttempt.settled_of_publishable {a : JobAttempt F} (hc : a.catalog = a.admissionCatalog)
    (h : a.Publishable) : a.Settled := by
  obtain ⟨pack, hp, hr⟩ := a.admittedRevision
  rw [← hc] at hp
  cases hg : a.catalog.governance.get? a.call.request.scenarioPackId with
  | none => exact JobAttempt.settled_of_failed (a.ungoverned hp hr hg)
  | some governance =>
    obtain ⟨evaluation, he, -, hs⟩ := a.evaluated hp hr (by rw [hg]; rfl)
    rcases h with hn | hn
    · cases hn.symm.trans hg
    · obtain ⟨ha, hj, -⟩ := a.published he ((storable_contributionRecords hs).2 (hn pack hp))
      exact ⟨ha, _, hj, rfl⟩

theorem JobAttempt.running_of_not_publishable {a : JobAttempt F}
    (hc : a.catalog = a.admissionCatalog) (h : ¬ a.Publishable) :
    (∃ e, a.processed.answer = .error e) ∧
    a.processed.store.job? a.claim.jobId = some a.claim ∧ a.claim.status = .running := by
  obtain ⟨pack, hp, hr⟩ := a.admittedRevision
  rw [← hc] at hp
  cases hg : a.catalog.governance.get? a.call.request.scenarioPackId with
  | none => exact absurd (.inl hg) h
  | some governance =>
    obtain ⟨evaluation, he, -, hs⟩ := a.evaluated hp hr (by rw [hg]; rfl)
    refine a.refused he (fun hrows => h (.inr fun pack' hp' => ?_))
    cases hp.symm.trans hp'
    exact (storable_contributionRecords hs).1 hrows

/-- Under an unchanged catalog an admitted job is settled in exactly the invocations whose rows the
relational engine takes. -/
theorem settled_iff_publishable (a : JobAttempt F) (hc : a.catalog = a.admissionCatalog) :
    a.Settled ↔ a.Publishable := by
  refine ⟨fun hs => ?_, JobAttempt.settled_of_publishable hc⟩
  by_contra hn
  obtain ⟨⟨e, he⟩, -⟩ := JobAttempt.running_of_not_publishable hc hn
  cases hs.1.symm.trans he

end PoisonJobs

section RevisionBinding

variable [PyFloat F] [PyText]

/-- The invocation publishes only what was evaluated under the admitted revision, and qualifies
every other ending. -/
structure JobAttempt.BoundToRevision (a : JobAttempt F) : Prop where
  success_current : ∀ job, a.processed.store.job? a.claim.jobId = some job →
    job.status = .succeeded →
    scenarioPackRevision a.catalog a.claim.scenarioPackId = .ok a.claim.scenarioPackRevision
  otherwise_failed :
    scenarioPackRevision a.catalog a.claim.scenarioPackId ≠ .ok a.claim.scenarioPackRevision →
    ∃ job, a.processed.store.job? a.claim.jobId = some job ∧ job.status = .failed ∧
      job.failureCode = some "SCENARIO_PACK_REVISION_UNAVAILABLE" ∧
      a.processed.store.contributionsOf a.claim.jobId = []

theorem JobAttempt.not_bound_of_removed {a : JobAttempt F}
    (hp : a.catalog.packs.get? a.call.request.scenarioPackId = none) : ¬ a.BoundToRevision := by
  intro h
  have hrev : scenarioPackRevision a.catalog a.claim.scenarioPackId ≠
      .ok a.claim.scenarioPackRevision := by
    rw [a.packId, Ne, scenarioPackRevision_eq_ok, hp]
    rintro ⟨pack, hn, -⟩
    cases hn
  obtain ⟨job, hj, -, hf, -⟩ := h.otherwise_failed hrev
  cases (a.removed hp).2.1.symm.trans hj
  have hcode : "SCENARIO_EVALUATION_INVALID_INPUT" = "SCENARIO_PACK_REVISION_UNAVAILABLE" :=
    Option.some.inj hf
  exact absurd hcode (by decide)

theorem JobAttempt.bound_of_listed {a : JobAttempt F}
    (hp : a.catalog.packs.get? a.call.request.scenarioPackId = some pack) : a.BoundToRevision := by
  have hrev : scenarioPackRevision a.catalog a.claim.scenarioPackId =
      .ok a.claim.scenarioPackRevision ↔ packRevision pack = a.claim.scenarioPackRevision := by
    rw [a.packId, scenarioPackRevision_eq_ok, hp]
    simp
  by_cases hr : packRevision pack = a.claim.scenarioPackRevision
  · exact ⟨fun _ _ _ => hrev.2 hr, fun hn => absurd (hrev.2 hr) hn⟩
  · obtain ⟨-, hj, hc⟩ := a.changed hp hr
    constructor
    · intro job hj' hs
      cases hj.symm.trans hj'
      cases hs
    · intro _
      exact ⟨_, hj, rfl, rfl, hc⟩

/-- The outcome is bound to the admitted revision exactly while the catalog lists the pack. -/
theorem bound_to_revision_iff (a : JobAttempt F) :
    a.BoundToRevision ↔ a.claim.scenarioPackId ∈ a.catalog.packs.keys := by
  rw [a.packId, ← Dict.get?_isSome]
  cases hp : a.catalog.packs.get? a.call.request.scenarioPackId with
  | none => exact ⟨fun h => absurd h (JobAttempt.not_bound_of_removed hp), fun h => by cases h⟩
  | some pack => exact ⟨fun _ => rfl, fun _ => JobAttempt.bound_of_listed hp⟩

end RevisionBinding

section Example

open AsciiRuntime

/-- Reads back one stored request. -/
def readOnly (request : ScenarioEvaluationRequest ℚ) (text : String) :
    Except PyException (ScenarioEvaluationRequest ℚ) :=
  if text = dumps request.modelDump then .ok request
  else .error (.valueError "Expecting value: line 1 column 1 (char 0)")

theorem readOnly_self (request : ScenarioEvaluationRequest ℚ) :
    readOnly request (dumps request.modelDump) = .ok request :=
  if_pos rfl

/-- The first job of a store, processed under the given catalog. -/
def packAttempt (request : RegimeScenarioPackJobRequest ℚ)
    (h : request.scenarioPackId = "CIO_REGIME_2026_Q2") (catalog : ScenarioCatalog ℚ) :
    JobAttempt ℚ :=
  firstAttempt (readOnly request.toScenarioEvaluationRequest) codeCatalog catalog
    (packCall request none) (packSubmission request none) (submissionOf_packCall h none)
    (readOnly_self request.toScenarioEvaluationRequest) (acceptsJob_packSubmission request none _)
    (by change (1 : Int) < 86400000000; decide)

def balancedAttempt (catalog : ScenarioCatalog ℚ) : JobAttempt ℚ :=
  packAttempt balancedRequest.toJobRequest rfl catalog

/-- The pack of the example request, as the catalog lists it. -/
def balancedPack : List (ScenarioDefinition ℚ) :=
  (scenarioPacks.get? "CIO_REGIME_2026_Q2").getD []

theorem balanced_found :
    codeCatalog.packs.get? balancedRequest.scenarioPackId = some balancedPack := rfl

theorem balanced_storable :
    RowsStorable .codePoint balancedPack balancedRequest.exposureComponents := by
  decide

theorem settled_iff_publishable_balanced : (balancedAttempt codeCatalog).Settled := by
  apply (settled_iff_publishable (balancedAttempt codeCatalog) rfl).2
  right
  intro pack hp
  cases balanced_found.symm.trans hp
  exact balanced_storable

/-- The balanced request with an instrument whose identifier is longer than its column. -/
def longSecurityRequest : RegimeScenarioPackJobRequest ℚ where
  toScenarioEvaluationRequest := { balancedRequest.toScenarioEvaluationRequest with
    exposureComponents := [⟨longText, none, "EQUITY", 6 / 10⟩,
      ⟨"SEC_2", some "Bond fund", "fixed_income", 4 / 10⟩] }
  accepted := by decide +kernel

def longSecurityAttempt : JobAttempt ℚ := packAttempt longSecurityRequest rfl codeCatalog

theorem long_security_not_publishable : ¬ longSecurityAttempt.Publishable := by
  rintro (hn | hn)
  · cases hn
  · obtain hc | ⟨-, hf⟩ := hn _ rfl
    · cases hc
    · have ht := (hf _ List.mem_cons_self).2 _ List.mem_cons_self
      cases not_fits_longText.symm.trans ht.1

/-- The worker raises on the long identifier, and the job keeps running. -/
theorem long_security_poisons_job :
    longSecurityAttempt.catalog = longSecurityAttempt.admissionCatalog ∧
    ¬ longSecurityAttempt.Settled ∧
    longSecurityAttempt.processed.store.job? "job" = some longSecurityAttempt.claim ∧
    longSecurityAttempt.claim.status = .running := by
  obtain ⟨⟨e, he⟩, hj, hs⟩ := JobAttempt.running_of_not_publishable (a := longSecurityAttempt) rfl
    long_security_not_publishable
  refine ⟨rfl, ?_, hj, hs⟩
  intro h
  cases h.1.symm.trans he

theorem bound_to_revision_iff_balanced : (balancedAttempt codeCatalog).BoundToRevision := by
  apply (bound_to_revision_iff (balancedAttempt codeCatalog)).2
  change "CIO_REGIME_2026_Q2" ∈ codeCatalog.packs.keys
  decide

/-- The pack left the catalog between admission and evaluation. -/
theorem removed_pack_not_bound :
    (balancedAttempt ⟨.empty, .empty⟩).admissionCatalog = codeCatalog ∧
    ¬ (balancedAttempt ⟨.empty, .empty⟩).BoundToRevision :=
  ⟨rfl, JobAttempt.not_bound_of_removed rfl⟩

end Example

end LotusRisk
