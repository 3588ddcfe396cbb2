import LotusRisk.Scenario.Catalog
import LotusRisk.ScenarioJobs.Identity
import LotusRisk.ScenarioJobs.Store

namespace LotusRisk
open Relational JsonText
set_option autoImplicit true

section Submission

variable [PyFloat F] [PyText]

/-- `LOTUS_RISK_SCENARIO_JOB_RETENTION_HOURS`, as `int` reads it. -/
def retentionHours (configured : Option Int) : Except PyException Int :=
  match configured with
  | some value =>
    if value ≤ 0 then .error (.runtimeError
      "Scenario job admission requires a positive LOTUS_RISK_SCENARIO_JOB_RETENTION_HOURS")
    else .ok value
  | none => .error (.runtimeError
      "Scenario job admission requires a positive LOTUS_RISK_SCENARIO_JOB_RETENTION_HOURS")

/-- `dt.timedelta(hours=value)` in microseconds. -/
def hoursDelta (value : Int) : Timestamp := value * 3600000000

/-- The keyword arguments of `submit_scenario_job`. -/
structure SubmitCall (F : Type) [PyFloat F] [PyText] where
  tenantId : String
  idempotencyKey : String
  request : RegimeScenarioPackJobRequest F
  actorId : Option String
  correlationId : Option String
  now : Timestamp

structure ScenarioEvaluationJobAccepted where
  jobId : String
  status : ScenarioEvaluationJobStatus
  requestFingerprint : String
  scenarioPackRevision : String
  expiresAt : Timestamp

/-- What `submit_scenario_job` hands to the store. -/
def submissionOf (catalog : ScenarioCatalog F) (configured : Option Int) (call : SubmitCall F) :
    Except PyException JobSubmission := do
  raiseIf (call.request.scenarioPackId ∉ catalog.packs.keys)
    (.valueError ("Unsupported scenario_pack_id: " ++ call.request.scenarioPackId))
  let hours ← retentionHours configured
  let revision ← scenarioPackRevision catalog call.request.scenarioPackId
  pure {
    tenantId := call.tenantId
    idempotencyKey := call.idempotencyKey
    requestFingerprint := canonicalRequestFingerprint call.request
    scenarioPackId := call.request.scenarioPackId
    scenarioPackRevision := revision
    immutableRequest := call.request.modelDump
    actorId := call.actorId
    correlationId := call.correlationId
    submittedAt := call.now
    expiresAt := call.now + hoursDelta hours }

def accepted (record : ScenarioEvaluationJobRecord) : ScenarioEvaluationJobAccepted where
  jobId := record.jobId
  status := record.status
  requestFingerprint := record.requestFingerprint
  scenarioPackRevision := record.scenarioPackRevision
  expiresAt := record.expiresAt

/-- The conflict of the store leaves as the conflict of the service. -/
def admissionError : PyException → PyException
  | .idempotencyConflict message => .admissionConflict message
  | e => e

def submitScenarioJob (db : Database) (catalog : ScenarioCatalog F) (configured : Option Int)
    (s : ScenarioJobStore F) (call : SubmitCall F) (uuid : String) :
    Except PyException (ScenarioEvaluationJobAccepted × ScenarioJobStore F) := do
  let sub ← submissionOf catalog configured call
  match s.submit db sub uuid with
  | .ok ((record, _), s') => pure (accepted record, s')
  | .error e => .error (admissionError e)

theorem submissionOf_eq_ok {catalog : ScenarioCatalog F} {call : SubmitCall F}
    (h : submissionOf catalog configured call = .ok sub) :
    scenarioPackRevision catalog call.request.scenarioPackId = .ok sub.scenarioPackRevision ∧
    sub.requestFingerprint = canonicalRequestFingerprint call.request ∧
    sub.scenarioPackId = call.request.scenarioPackId ∧
    sub.immutableRequest = call.request.modelDump := by
  obtain ⟨-, h⟩ := raiseIf_bind_eq_ok.1 h
  obtain ⟨hours, -, h⟩ := bind_eq_ok.1 h
  obtain ⟨revision, hr, h⟩ := bind_eq_ok.1 h
  cases h
  exact ⟨hr, rfl, rfl, rfl⟩

/-- Fingerprint and stored text come from one dump of the request. -/
theorem submissionOf_fingerprint {catalog : ScenarioCatalog F} {call : SubmitCall F}
    (h : submissionOf catalog configured call = .ok sub) (uuid : String) :
    sub.requestFingerprint = sha256Digest (sub.candidate uuid).immutableRequestJson := by
  obtain ⟨-, hf, -, hr⟩ := submissionOf_eq_ok h
  rw [hf, JobSubmission.candidate, hr]
  rfl

end Submission

section Example

open AsciiRuntime

def packCall (request : RegimeScenarioPackJobRequest ℚ) (actorId : Option String) :
    SubmitCall ℚ where
  tenantId := "tenant-sg"
  idempotencyKey := "scenario-job-001"
  request := request
  actorId := actorId
  correlationId := none
  now := 0

/-- The submission of a request for the pack of the catalog, retained for a day. -/
def packSubmission (request : RegimeScenarioPackJobRequest ℚ) (actorId : Option String) :
    JobSubmission where
  tenantId := "tenant-sg"
  idempotencyKey := "scenario-job-001"
  requestFingerprint := canonicalRequestFingerprint request
  scenarioPackId := "CIO_REGIME_2026_Q2"
  scenarioPackRevision := packRevision ((scenarioPacks.get? "CIO_REGIME_2026_Q2").getD [])
  immutableRequest := request.modelDump
  actorId := actorId
  correlationId := none
  submittedAt := 0
  expiresAt := 86400000000

theorem submissionOf_packCall {request : RegimeScenarioPackJobRequest ℚ}
    (h : request.scenarioPackId = "CIO_REGIME_2026_Q2") (actorId : Option String) :
    submissionOf codeCatalog (some 24) (packCall request actorId) =
      .ok (packSubmission request actorId) := by
  have hk : decide ("CIO_REGIME_2026_Q2" ∉ codeCatalog.packs.keys) = false := by decide
  have hr : scenarioPackRevision codeCatalog "CIO_REGIME_2026_Q2" =
      .ok (packRevision ((scenarioPacks.get? "CIO_REGIME_2026_Q2").getD [])) := rfl
  unfold submissionOf packCall
  dsimp only
  rw [h, hk, hr]
  rfl

end Example

end LotusRisk
