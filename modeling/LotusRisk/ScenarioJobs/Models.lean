import Mathlib.Data.String.Basic
import LotusRisk.Lib.Table
import LotusRisk.Python

namespace LotusRisk
open Relational
set_option autoImplicit true

inductive ScenarioEvaluationJobStatus where
  | queued | running | succeeded | failed
deriving DecidableEq, Repr

/-- A row of `scenario_evaluation_jobs`; timestamps are read back in UTC, so the record returned to
a caller has the same fields. -/
structure ScenarioEvaluationJobRecord where
  jobId : String
  tenantId : String
  idempotencyKey : String
  requestFingerprint : String
  scenarioPackId : String
  scenarioPackRevision : String
  immutableRequestJson : String
  status : ScenarioEvaluationJobStatus
  actorId : Option String
  correlationId : Option String
  claimToken : Option String
  leaseExpiresAt : Option Timestamp
  attemptCount : Nat
  failureCode : Option String
  failureDetail : Option String
  resultJson : Option String
  completedAt : Option Timestamp
  submittedAt : Timestamp
  expiresAt : Timestamp
deriving DecidableEq, Repr

/-- A row of `scenario_evaluation_job_contributions`. -/
structure ScenarioEvaluationJobContributionRecord (F : Type) where
  jobId : String
  scenarioId : String
  ordinal : Nat
  securityId : String
  displayName : Option String
  bucket : String
  weight : F
  shockPct : F
  contributionLossPct : F
deriving DecidableEq, Repr

/-- The tenant and idempotency key of the constraint `uq_scenario_job_tenant_key`. -/
def ScenarioEvaluationJobRecord.tenantKey (job : ScenarioEvaluationJobRecord) : String × String :=
  (job.tenantId, job.idempotencyKey)

/-- The primary key of a contribution row. -/
def ScenarioEvaluationJobContributionRecord.key (row : ScenarioEvaluationJobContributionRecord F) :
    String × String × Nat :=
  (row.jobId, row.scenarioId, row.ordinal)

/-- What the two tables take from the relational engine: the order of its texts and the characters
a text column can hold. -/
structure Database where
  collation : LinearOrder String
  storable : Char → Bool
  storable_of_printable : ∀ c, ' ' ≤ c → c ≤ '~' → storable c = true

/-- Code-point order, with every character storable. -/
def Database.codePoint : Database := ⟨inferInstance, fun _ => true, fun _ _ _ => rfl⟩

/-- `String(limit)`: the engine rejects a longer text. -/
def Database.fits (db : Database) (limit : Nat) (text : String) : Bool :=
  text.length ≤ limit && text.toList.all db.storable

def Database.fitsOptional (db : Database) (limit : Nat) : Option String → Bool
  | none => true
  | some text => db.fits limit text

/-- Printable ASCII text is refused for its length only. -/
theorem Database.fits_printable (db : Database) {text : String} (hl : text.length ≤ limit)
    (hp : text.toList.all (fun c => ' ' ≤ c && c ≤ '~') = true) : db.fits limit text = true := by
  unfold Database.fits
  rw [decide_eq_true hl, Bool.true_and, List.all_eq_true]
  intro c hc
  have hr := List.all_eq_true.1 hp c hc
  simp only [Bool.and_eq_true, decide_eq_true_eq] at hr
  exact db.storable_of_printable c hr.1 hr.2

/-- The declared widths of the columns a submission writes. A `uuid4` text fits its own column and
JSON text is printable and unbounded. -/
def Database.acceptsJob (db : Database) (job : ScenarioEvaluationJobRecord) : Bool :=
  db.fits 128 job.tenantId && db.fits 128 job.idempotencyKey &&
  db.fits 71 job.requestFingerprint && db.fits 128 job.scenarioPackId &&
  db.fits 71 job.scenarioPackRevision && db.fitsOptional 256 job.actorId &&
  db.fitsOptional 256 job.correlationId

def Database.acceptsContribution (db : Database)
    (row : ScenarioEvaluationJobContributionRecord F) : Bool :=
  db.fits 128 row.scenarioId && db.fits 256 row.securityId &&
  db.fitsOptional 512 row.displayName && db.fits 128 row.bucket

/-- The two tables with the constraints the schema declares. -/
structure ScenarioJobStore (F : Type) where
  jobs : Table ScenarioEvaluationJobRecord String (·.jobId)
  contributions : Table (ScenarioEvaluationJobContributionRecord F) (String × String × Nat) (·.key)
  tenantKey_unique : (jobs.rows.map (·.tenantKey)).Nodup

namespace ScenarioJobStore

def empty : ScenarioJobStore F := ⟨.empty, .empty, .nil⟩

def job? (s : ScenarioJobStore F) (jobId : String) : Option ScenarioEvaluationJobRecord :=
  s.jobs.find? jobId

/-- The contribution rows of one job, in insertion order. -/
def contributionsOf (s : ScenarioJobStore F) (jobId : String) :
    List (ScenarioEvaluationJobContributionRecord F) :=
  s.contributions.rows.filter (fun row => row.jobId = jobId)

@[simp] theorem job?_empty (jobId : String) : (empty : ScenarioJobStore F).job? jobId = none := rfl

@[simp] theorem contributionsOf_empty (jobId : String) :
    (empty : ScenarioJobStore F).contributionsOf jobId = [] := rfl

theorem mem_contributionsOf {s : ScenarioJobStore F} :
    row ∈ s.contributionsOf jobId ↔ row ∈ s.contributions.rows ∧ row.jobId = jobId := by
  simp [contributionsOf]

/-- The unique constraint: one live job for a tenant and key. -/
theorem eq_of_tenantKey {s : ScenarioJobStore F} (ha : a ∈ s.jobs.rows) (hb : b ∈ s.jobs.rows)
    (h : a.tenantKey = b.tenantKey) : a = b :=
  List.inj_on_of_nodup_map s.tenantKey_unique ha hb h

theorem job?_eq_some {s : ScenarioJobStore F} :
    s.job? jobId = some job ↔ job ∈ s.jobs.rows ∧ job.jobId = jobId :=
  Table.find?_eq_some

end ScenarioJobStore

end LotusRisk
