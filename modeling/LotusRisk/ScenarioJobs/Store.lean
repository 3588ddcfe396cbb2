import LotusRisk.Lib.Json
import LotusRisk.ScenarioJobs.Models

/-! The operations of `SqlAlchemyScenarioJobStore`. Each is one transaction: an exception rolls it
back, so an operation returns its value with the next store, or raises and leaves the store. -/

namespace LotusRisk
open Relational JsonText
set_option autoImplicit true

section Orders

/-- `ORDER BY time, job_id` under the collation of the engine. -/
def Database.jobOrder (db : Database) (time : ScenarioEvaluationJobRecord → Timestamp)
    (a b : ScenarioEvaluationJobRecord) : Prop :=
  time a < time b ∨ time a = time b ∧ db.collation.le a.jobId b.jobId

instance (db : Database) (time : ScenarioEvaluationJobRecord → Timestamp) :
    DecidableRel (db.jobOrder time) := fun a b =>
  have := db.collation.toDecidableLE a.jobId b.jobId
  inferInstanceAs (Decidable (_ ∨ _ ∧ _))

instance (db : Database) (time : ScenarioEvaluationJobRecord → Timestamp) :
    Std.Total (db.jobOrder time) where
  total a b := by
    rcases lt_trichotomy (time a) (time b) with h | h | h
    · exact .inl (.inl h)
    · rcases db.collation.le_total a.jobId b.jobId with hc | hc
      · exact .inl (.inr ⟨h, hc⟩)
      · exact .inr (.inr ⟨h.symm, hc⟩)
    · exact .inr (.inl h)

instance (db : Database) (time : ScenarioEvaluationJobRecord → Timestamp) :
    IsTrans ScenarioEvaluationJobRecord (db.jobOrder time) where
  trans a b c := by
    rintro (hab | ⟨hab, hab'⟩) (hbc | ⟨hbc, hbc'⟩)
    · exact .inl (hab.trans hbc)
    · exact .inl (hbc ▸ hab)
    · exact .inl (hab ▸ hbc)
    · exact .inr ⟨hab.trans hbc, db.collation.le_trans _ _ _ hab' hbc'⟩

/-- The cursor predicate on `(scenario_id, ordinal)`. -/
def Database.pageKeyLt (db : Database) (a b : String × Nat) : Prop :=
  db.collation.lt a.1 b.1 ∨ b.1 = a.1 ∧ a.2 < b.2

/-- `ORDER BY scenario_id, ordinal`. -/
def Database.pageOrder (db : Database) (a b : ScenarioEvaluationJobContributionRecord F) : Prop :=
  db.collation.lt a.scenarioId b.scenarioId ∨ a.scenarioId = b.scenarioId ∧ a.ordinal ≤ b.ordinal

instance (db : Database) : DecidableRel db.pageKeyLt := fun a b =>
  have := db.collation.toDecidableLT a.1 b.1
  inferInstanceAs (Decidable (_ ∨ _ ∧ _))

instance (db : Database) : DecidableRel (db.pageOrder (F := F)) := fun a b =>
  have := db.collation.toDecidableLT a.scenarioId b.scenarioId
  inferInstanceAs (Decidable (_ ∨ _ ∧ _))

end Orders

section RowUpdates

/-- The keyword arguments of `submit`. -/
structure JobSubmission where
  tenantId : String
  idempotencyKey : String
  requestFingerprint : String
  scenarioPackId : String
  scenarioPackRevision : String
  immutableRequest : Json
  actorId : Option String
  correlationId : Option String
  submittedAt : Timestamp
  expiresAt : Timestamp

def JobSubmission.tenantKey (sub : JobSubmission) : String × String :=
  (sub.tenantId, sub.idempotencyKey)

/-- The row a submission wants to insert under a fresh `uuid4`. -/
def JobSubmission.candidate (sub : JobSubmission) (jobId : String) :
    ScenarioEvaluationJobRecord where
  jobId := jobId
  tenantId := sub.tenantId
  idempotencyKey := sub.idempotencyKey
  requestFingerprint := sub.requestFingerprint
  scenarioPackId := sub.scenarioPackId
  scenarioPackRevision := sub.scenarioPackRevision
  immutableRequestJson := dumps sub.immutableRequest
  status := .queued
  actorId := sub.actorId
  correlationId := sub.correlationId
  claimToken := none
  leaseExpiresAt := none
  attemptCount := 0
  failureCode := none
  failureDetail := none
  resultJson := none
  completedAt := none
  submittedAt := sub.submittedAt
  expiresAt := sub.expiresAt

def ScenarioEvaluationJobRecord.claimed (token : String) (leaseExpiresAt : Timestamp)
    (job : ScenarioEvaluationJobRecord) : ScenarioEvaluationJobRecord :=
  { job with
    status := .running
    claimToken := some token
    leaseExpiresAt := some leaseExpiresAt
    attemptCount := job.attemptCount + 1
    failureCode := none
    failureDetail := none }

def ScenarioEvaluationJobRecord.failedWith (failureCode failureDetail : String)
    (failedAt : Timestamp) (job : ScenarioEvaluationJobRecord) : ScenarioEvaluationJobRecord :=
  { job with
    status := .failed
    leaseExpiresAt := some failedAt
    completedAt := some failedAt
    failureCode := some failureCode
    failureDetail := some failureDetail }

def ScenarioEvaluationJobRecord.succeededWith (resultJson : String) (completedAt : Timestamp)
    (job : ScenarioEvaluationJobRecord) : ScenarioEvaluationJobRecord :=
  { job with
    status := .succeeded
    resultJson := some resultJson
    completedAt := some completedAt
    leaseExpiresAt := some completedAt
    failureCode := none
    failureDetail := none }

/-- `QUEUED`, or `RUNNING` under a lease that has lapsed; and not expired. -/
def ScenarioEvaluationJobRecord.claimable (now : Timestamp) (job : ScenarioEvaluationJobRecord) :
    Bool :=
  (job.status = .queued ||
    (job.status = .running && job.leaseExpiresAt.any (fun lease => lease ≤ now))) &&
  now < job.expiresAt

/-- The fence of both terminal operations. -/
def ScenarioEvaluationJobRecord.heldBy (token : String) (job : ScenarioEvaluationJobRecord) :
    Bool :=
  job.status = .running && job.claimToken = some token

end RowUpdates

namespace ScenarioJobStore

variable {F : Type}

/-- Update one job in place; no operation writes its primary key or its tenant key. -/
def updateJob (s : ScenarioJobStore F) (jobId : String)
    (f : ScenarioEvaluationJobRecord → ScenarioEvaluationJobRecord)
    (hid : ∀ job, (f job).jobId = job.jobId) (hkey : ∀ job, (f job).tenantKey = job.tenantKey) :
    ScenarioJobStore F where
  jobs := s.jobs.modify jobId f hid
  contributions := s.contributions
  tenantKey_unique := by
    rw [Table.map_modify _ _ _ _ _ hkey]
    exact s.tenantKey_unique

def insertCandidate (db : Database) (s : ScenarioJobStore F)
    (candidate : ScenarioEvaluationJobRecord) : Except PyException (ScenarioJobStore F) :=
  if db.acceptsJob candidate = false then .error .dataError
  else if hkey : candidate.tenantKey ∈ s.jobs.rows.map (·.tenantKey) then .error .integrityError
  else match hjobs : s.jobs.insert? candidate with
    | none => .error .integrityError
    | some jobs => .ok ⟨jobs, s.contributions, by
        rw [(Table.insert?_eq_some.1 hjobs).2, List.map_append, List.map_singleton,
          List.nodup_append]
        refine ⟨s.tenantKey_unique, List.nodup_singleton _, fun x hx y hy he => hkey ?_⟩
        rw [← List.mem_singleton.1 hy, ← he]
        exact hx⟩

def getByKey (s : ScenarioJobStore F) (tenantKey : String × String) :
    Option ScenarioEvaluationJobRecord :=
  s.jobs.rows.find? (fun job => job.tenantKey = tenantKey)

/-- The losing side of an admission, after its rollback. -/
def resolveExisting (s : ScenarioJobStore F) (sub : JobSubmission) :
    Except PyException (ScenarioEvaluationJobRecord × Bool) :=
  match s.getByKey sub.tenantKey with
  | none => .error (.runtimeError "Scenario job idempotency outcome is not yet visible")
  | some existing =>
    if existing.requestFingerprint ≠ sub.requestFingerprint then
      .error (.idempotencyConflict
        "Idempotency-Key was previously used with different scenario job input")
    else .ok (existing, false)

def submit (db : Database) (s : ScenarioJobStore F) (sub : JobSubmission) (jobId : String) :
    Except PyException ((ScenarioEvaluationJobRecord × Bool) × ScenarioJobStore F) :=
  match s.insertCandidate db (sub.candidate jobId) with
  | .ok s' => .ok ((sub.candidate jobId, true), s')
  | .error .integrityError => (s.resolveExisting sub).map (fun r => (r, s))
  | .error e => .error e

def getForTenant (s : ScenarioJobStore F) (tenantId jobId : String) :
    Option ScenarioEvaluationJobRecord :=
  s.jobs.rows.find? (fun job => job.tenantId = tenantId && job.jobId = jobId)

def claimCandidate (db : Database) (s : ScenarioJobStore F) (now : Timestamp) :
    Option ScenarioEvaluationJobRecord :=
  (selectOrdered (db.jobOrder (·.submittedAt)) s.jobs.rows (·.claimable now) 1).head?

def claimNext (db : Database) (s : ScenarioJobStore F) (now leaseExpiresAt : Timestamp)
    (token : String) :
    Except PyException (Option ScenarioEvaluationJobRecord × ScenarioJobStore F) := do
  raiseIf (leaseExpiresAt ≤ now)
    (.valueError "claim lease expiry must be after the claim timestamp")
  match s.claimCandidate db now with
  | none => pure (none, s)
  | some job =>
    pure (some (job.claimed token leaseExpiresAt),
      s.updateJob job.jobId (·.claimed token leaseExpiresAt) (fun _ => rfl) (fun _ => rfl))

def failClaim (db : Database) (s : ScenarioJobStore F) (jobId token failureCode : String)
    (failureDetail : String) (failedAt : Timestamp) :
    Except PyException (Bool × ScenarioJobStore F) :=
  if (s.job? jobId).any (·.heldBy token) then do
    raiseIf (!(db.fits 128 failureCode && failureDetail.toList.all db.storable)) .dataError
    pure (true, s.updateJob jobId (·.failedWith failureCode failureDetail failedAt)
      (fun _ => rfl) (fun _ => rfl))
  else pure (false, s)

/-- The contribution rows and the aggregate are written in one transaction. -/
def completeClaim (db : Database) (s : ScenarioJobStore F) (jobId token : String)
    (aggregateResult : Json) (contributions : List (ScenarioEvaluationJobContributionRecord F))
    (completedAt : Timestamp) : Except PyException (Bool × ScenarioJobStore F) :=
  if (s.job? jobId).any (·.heldBy token) then do
    raiseIf (contributions.any (fun row => row.jobId ≠ jobId))
      (.valueError "scenario-job contribution does not belong to the claimed job")
    raiseIf (!contributions.all db.acceptsContribution) .dataError
    match s.contributions.insertAll? contributions with
    | none => .error .integrityError
    | some rows =>
      pure (true, { s.updateJob jobId (·.succeededWith (dumps aggregateResult) completedAt)
        (fun _ => rfl) (fun _ => rfl) with contributions := rows })
  else pure (false, s)

/-- The rows after the cursor, in key order, one more than the limit. -/
def contributionPage (db : Database) (s : ScenarioJobStore F) (tenantId jobId : String)
    (after : Option (String × Nat)) (limit : Nat) :
    Option (List (ScenarioEvaluationJobContributionRecord F)) :=
  match s.getForTenant tenantId jobId with
  | none => none
  | some job =>
    if job.status ≠ .succeeded then none
    else some (selectOrdered db.pageOrder s.contributions.rows
      (fun row => row.jobId = jobId &&
        after.all (fun key => db.pageKeyLt key (row.scenarioId, row.ordinal))) (limit + 1))

def expiredJobIds (db : Database) (s : ScenarioJobStore F) (now : Timestamp) (limit : Nat) :
    List String :=
  (selectOrdered (db.jobOrder (·.expiresAt)) s.jobs.rows (fun job => job.expiresAt ≤ now)
    limit).map (·.jobId)

def deleteJobs (s : ScenarioJobStore F) (jobIds : List String) : ScenarioJobStore F where
  jobs := s.jobs.deleteWhere (fun job => job.jobId ∈ jobIds)
  contributions := s.contributions.deleteWhere (fun row => row.jobId ∈ jobIds)
  tenantKey_unique := s.tenantKey_unique.sublist (List.filter_sublist.map _)

def deleteExpired (db : Database) (s : ScenarioJobStore F) (now : Timestamp) (limit : Int) :
    Except PyException (Nat × ScenarioJobStore F) := do
  raiseIf (limit ≤ 0) (.valueError "scenario job cleanup limit must be positive")
  let jobIds := s.expiredJobIds db now limit.toNat
  if jobIds.isEmpty then pure (0, s)
  else pure (jobIds.length, s.deleteJobs jobIds)

end ScenarioJobStore

end LotusRisk
