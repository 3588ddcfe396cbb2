import LotusRisk.ScenarioJobs.Worker

/-! One invocation of the worker inside a run of the store, whose claim is still the current one
when it publishes. -/

namespace LotusRisk
open Relational JsonText Fencing ScenarioJobStore
set_option autoImplicit true

section ClaimKept

variable {db : Database} {ops : List (StoreOp F)}

theorem run_store (σ : System F) (db : Database) (ops : List (StoreOp F)) :
    (σ.run db ops).store = σ.store.after db ops := by
  induction ops generalizing σ with
  | nil => rfl
  | cons op ops ih => exact ih (σ.perform db op)

theorem execute_store_append (pre post : List (StoreOp F)) :
    (execute db (pre ++ post)).store = (execute db pre).store.after db post := by
  rw [execute_append, run_store]

/-- A granted claim is the row the store holds from then on. -/
theorem granted_claim {σ : System F}
    (h : σ.store.claimNext db now lease token = .ok (some claim, s)) :
    (σ.perform db (.claimNext now lease token)).store = s ∧
      s.Held claim.jobId token claim ∧
      ∃ job, σ.store.job? claim.jobId = some job ∧ claim.admission = job.admission := by
  obtain ⟨-, ⟨-, hn, -⟩ | ⟨job, hc, he, hs⟩⟩ := claimNext_eq_ok h
  · cases hn
  cases he
  have hf : σ.store.job? job.jobId = some job :=
    job?_eq_some.2 ⟨(claimCandidate_spec hc).1, rfl⟩
  refine ⟨?_, ⟨?_, rfl, rfl⟩, job, hf, rfl⟩
  · unfold System.perform StoreOp.perform
    dsimp only
    rw [h]
  · rw [hs]
    exact (job?_updateJob_of_found hf _ _ _ _).trans (if_pos rfl)

/-- While its token stays the current one, the row of a claim does not change. -/
theorem held_row_unchanged {pre mid : List (StoreOp F)} (hf : FreshTokens (pre ++ mid))
    (h : (execute db pre).store.Held jobId token job)
    (h' : (execute db (pre ++ mid)).store.Held jobId token job') : job' = job := by
  obtain ⟨log, hl⟩ := System.log_run db (execute db pre) mid
  rw [← execute_append] at hl
  have hn := issuedTokens_nodup hf db jobId
  unfold System.issuedTokens at hn
  obtain ⟨p, hp, hr, -⟩ := tracks_execute db pre jobId
  obtain ⟨p', hp', hr', -⟩ := tracks_execute db (pre ++ mid) jobId
  obtain ⟨found, hs, ht⟩ := h
  obtain ⟨found', hs', ht'⟩ := h'
  obtain ⟨sub, lease, n, rfl, -, -⟩ := rowOf_running (hr.symm.trans found) hs ht
  obtain ⟨sub', lease', n', rfl, -, -⟩ := rowOf_running (hr'.symm.trans found') hs' ht'
  rw [hl, actsOf_append] at hn hp'
  have hm := held_unchanged hn hp hp'
  rw [hm, List.append_nil] at hp'
  cases hp.symm.trans hp'
  cases (hr.symm.trans found).symm.trans (hr'.symm.trans found')
  rfl

theorem CreatedAt.admission {sub : JobSubmission} (h : CreatedAt db pre sub jobId post) :
    ∃ job, (execute db (pre ++ .submit sub jobId :: post)).store.job? jobId = some job ∧
      job.admission = (sub.candidate jobId).admission := by
  obtain ⟨hc, hd⟩ := h
  have hj := hc.job
  change ((execute db pre).perform db (.submit sub jobId)).store.job? jobId = _ at hj
  rw [← execute_snoc] at hj
  rcases admission_kept_of_run hj post with ⟨job, hj', ha⟩ | hk
  · rw [List.append_assoc, List.singleton_append] at hj'
    exact ⟨job, hj', ha⟩
  · exact absurd hk hd

end ClaimKept

variable [PyFloat F] [PyText]

/-- What one invocation of the worker depends on. The job was submitted after `pre`; `post` runs
before it is claimed and `between` while its claim is evaluated. -/
structure AttemptInput (F : Type) [PyFloat F] [PyText] where
  db : Database
  parse : String → Except PyException (ScenarioEvaluationRequest F)
  admissionCatalog : ScenarioCatalog F
  catalog : ScenarioCatalog F
  retention : Option Int
  call : SubmitCall F
  sub : JobSubmission
  claim : ScenarioEvaluationJobRecord
  pre : List (StoreOp F)
  post : List (StoreOp F)
  between : List (StoreOp F)
  claimedAt : Timestamp
  leaseSeconds : Int
  token : String
  completedAt : Timestamp
  failedAt : Timestamp

namespace AttemptInput

def before (a : AttemptInput F) : List (StoreOp F) := a.pre ++ .submit a.sub a.claim.jobId :: a.post

def claimOp (a : AttemptInput F) : StoreOp F :=
  .claimNext a.claimedAt (a.claimedAt + secondsDelta a.leaseSeconds) a.token

/-- Every transaction up to the publication. -/
def history (a : AttemptInput F) : List (StoreOp F) := a.before ++ a.claimOp :: a.between

def processed (a : AttemptInput F) : Processed F :=
  processOneScenarioJob a.db a.parse a.catalog (execute a.db a.before).store a.claimedAt
    a.leaseSeconds a.token a.between a.completedAt a.failedAt

end AttemptInput

/-- The job was admitted, its stored request reads back, and the claim is current to the end. -/
structure JobAttempt (F : Type) [PyFloat F] [PyText] extends AttemptInput F where
  submitted : submissionOf admissionCatalog retention call = .ok sub
  created : CreatedAt db pre sub claim.jobId post
  readBack : parse (dumps call.request.modelDump) = .ok call.request.toScenarioEvaluationRequest
  lease_pos : 0 < leaseSeconds
  claimed : ∃ s, (execute db toAttemptInput.before).store.claimNext db claimedAt
    (claimedAt + secondsDelta leaseSeconds) token = .ok (some claim, s)
  fresh : FreshTokens toAttemptInput.history
  current : ∃ job, (execute db toAttemptInput.history).store.Held claim.jobId token job

namespace JobAttempt

variable (a : JobAttempt F)

/-- The store the worker publishes into. -/
def store : ScenarioJobStore F := (execute a.db a.history).store

theorem held : a.store.Held a.claim.jobId a.token a.claim := by
  obtain ⟨s, hc⟩ := a.claimed
  obtain ⟨job, hj⟩ := a.current
  obtain ⟨hs, hh, -⟩ := granted_claim hc
  have he : a.history = (a.before ++ [a.claimOp]) ++ a.between := by
    unfold AttemptInput.history
    rw [List.append_assoc, List.singleton_append]
  have hf := a.fresh
  unfold store
  rw [he] at hf hj ⊢
  have hh' : (execute a.db (a.before ++ [a.claimOp])).store.Held a.claim.jobId a.token a.claim := by
    rw [execute_snoc]
    change (System.perform a.db _ (.claimNext _ _ _)).store.Held _ _ _
    rw [hs]
    exact hh
  rw [held_row_unchanged hf hh' hj] at hj
  exact hj

theorem unpublished : a.store.contributionsOf a.claim.jobId = [] := by
  apply contributionsOf_of_not_succeeded (tracks_execute a.db a.history a.claim.jobId)
  intro job hj hs
  obtain ⟨found, hr, -⟩ := a.held
  cases found.symm.trans hj
  rw [hr] at hs
  cases hs

theorem admission : a.claim.admission = (a.sub.candidate a.claim.jobId).admission := by
  obtain ⟨s, hc⟩ := a.claimed
  obtain ⟨-, -, job, hj, ha⟩ := granted_claim hc
  obtain ⟨job', hj', ha'⟩ := a.created.admission
  cases hj.symm.trans hj'
  exact ha.trans ha'

/-- The invocation claims the job, and settles it on the store of the run. -/
theorem processed_eq : a.processed =
    match settleClaim a.db a.parse a.catalog a.store a.claim a.token a.completedAt a.failedAt with
    | .ok (outcome, s) => ⟨some outcome, .ok (some a.claim.jobId), s⟩
    | .error e => ⟨some .retryableError, .error e, a.store⟩ := by
  obtain ⟨s, hc⟩ := a.claimed
  have hs : s.after a.db a.between = a.store := by
    unfold store AttemptInput.history
    rw [execute_store_append]
    exact congrArg (fun s => ScenarioJobStore.after a.db s a.between) (granted_claim hc).1.symm
  unfold AttemptInput.processed processOneScenarioJob
  rw [if_neg (not_le.2 a.lease_pos), hc]
  cases hr : settleClaim a.db a.parse a.catalog a.store a.claim a.token a.completedAt a.failedAt with
  | error e => simp only [hs, hr]
  | ok r => simp only [hs, hr]

theorem processed_of_settled (h : settleClaim a.db a.parse a.catalog a.store a.claim a.token
    a.completedAt a.failedAt = .ok (outcome, s)) :
    a.processed = ⟨some outcome, .ok (some a.claim.jobId), s⟩ := by
  rw [a.processed_eq, h]

theorem processed_of_raised (h : settleClaim a.db a.parse a.catalog a.store a.claim a.token
    a.completedAt a.failedAt = .error e) :
    a.processed = ⟨some .retryableError, .error e, a.store⟩ := by
  rw [a.processed_eq, h]

theorem packId : a.claim.scenarioPackId = a.call.request.scenarioPackId :=
  (congrArg JobAdmission.scenarioPackId a.admission).trans (submissionOf_eq_ok a.submitted).2.2.1

theorem fingerprint : a.claim.requestFingerprint = canonicalRequestFingerprint a.call.request :=
  (congrArg JobAdmission.requestFingerprint a.admission).trans (submissionOf_eq_ok a.submitted).2.1

/-- The revision recorded at admission is that of the pack the admission catalog held. -/
theorem admittedRevision :
    ∃ pack, a.admissionCatalog.packs.get? a.call.request.scenarioPackId = some pack ∧
      packRevision pack = a.claim.scenarioPackRevision := by
  obtain ⟨pack, hp, hr⟩ := scenarioPackRevision_eq_ok.1 (submissionOf_eq_ok a.submitted).1
  exact ⟨pack, hp, hr.trans (congrArg JobAdmission.scenarioPackRevision a.admission).symm⟩

theorem read : modelValidate a.parse a.claim.immutableRequestJson = .ok a.call.request := by
  have hj := congrArg JobAdmission.immutableRequestJson a.admission
  change a.claim.immutableRequestJson = dumps a.sub.immutableRequest at hj
  rw [hj, (submissionOf_eq_ok a.submitted).2.2.2]
  exact modelValidate_of_parse a.readBack

/-- A failure that the worker records ends the job, without contribution rows. -/
theorem processed_of_failed (h : settleClaim a.db a.parse a.catalog a.store a.claim a.token
      a.completedAt a.failedAt =
      .ok (outcome, a.store.updateJob a.claim.jobId (·.failedWith code detail a.failedAt)
        (fun _ => rfl) (fun _ => rfl))) :
    a.processed.answer = .ok (some a.claim.jobId) ∧
    a.processed.store.job? a.claim.jobId = some (a.claim.failedWith code detail a.failedAt) ∧
    a.processed.store.contributionsOf a.claim.jobId = [] := by
  rw [a.processed_of_settled h]
  refine ⟨rfl, ?_, ?_⟩
  · exact (job?_updateJob_of_found a.held.1 (·.failedWith code detail a.failedAt) _
      (fun _ => rfl) _).trans (if_pos rfl)
  · exact a.unpublished

end JobAttempt

section FirstAttempt

omit [PyFloat F] [PyText] in
/-- The only job of a store is claimed when it has not expired. -/
theorem claimNext_first {db : Database} {sub : JobSubmission}
    (h : Creates db (execute db ([] : List (StoreOp F))).store sub jobId)
    (hn : now < sub.expiresAt) (hl : now < lease) (token : String) :
    ∃ s, (execute db ([.submit sub jobId] : List (StoreOp F))).store.claimNext db now lease token =
      .ok (some ((sub.candidate jobId).claimed token lease), s) := by
  obtain ⟨s, hs⟩ := h
  have hrows : (execute db ([.submit sub jobId] : List (StoreOp F))).store.jobs.rows =
      [sub.candidate jobId] := by
    have he : (execute db ([.submit sub jobId] : List (StoreOp F))).store = s := by
      change (StoreOp.perform db (execute db ([] : List (StoreOp F))).store (.submit sub jobId)).1 = s
      unfold StoreOp.perform
      dsimp only
      unfold submit
      rw [hs]
    rw [he]
    exact (insertCandidate_eq_ok hs).2.2.2.1
  have hc : (sub.candidate jobId).claimable now = true := by
    unfold ScenarioEvaluationJobRecord.claimable JobSubmission.candidate
    simpa using hn
  have hcand : (execute db ([.submit sub jobId] : List (StoreOp F))).store.claimCandidate db now =
      some (sub.candidate jobId) := by
    unfold claimCandidate selectOrdered
    rw [hrows, List.filter_cons_of_pos hc]
    rfl
  rw [claimNext_of_lt hl, hcand]
  exact ⟨_, rfl⟩

/-- A job that is submitted to an empty store and claimed at once, with nothing in between. -/
def firstInput (parse : String → Except PyException (ScenarioEvaluationRequest F))
    (admissionCatalog catalog : ScenarioCatalog F) (call : SubmitCall F) (sub : JobSubmission) :
    AttemptInput F where
  db := .codePoint
  parse := parse
  admissionCatalog := admissionCatalog
  catalog := catalog
  retention := some 24
  call := call
  sub := sub
  claim := (sub.candidate "job").claimed "token" (1 + secondsDelta 300)
  pre := []
  post := []
  between := []
  claimedAt := 1
  leaseSeconds := 300
  token := "token"
  completedAt := 2
  failedAt := 2

def firstAttempt (parse : String → Except PyException (ScenarioEvaluationRequest F))
    (admissionCatalog catalog : ScenarioCatalog F) (call : SubmitCall F) (sub : JobSubmission)
    (submitted : submissionOf admissionCatalog (some 24) call = .ok sub)
    (readBack : parse (dumps call.request.modelDump) =
      .ok call.request.toScenarioEvaluationRequest)
    (fits : Database.codePoint.acceptsJob (sub.candidate "job") = true)
    (live : 1 < sub.expiresAt) : JobAttempt F where
  toAttemptInput := firstInput parse admissionCatalog catalog call sub
  submitted := submitted
  created := ⟨creates_first fits, not_deletedIn_nil⟩
  readBack := readBack
  lease_pos := (by decide : (0 : Int) < 300)
  claimed := claimNext_first (creates_first fits) live
    (by decide : (1 : Timestamp) < 1 + secondsDelta 300) _
  fresh := List.nodup_singleton "token"
  current := by
    have hl : (1 : Timestamp) < 1 + secondsDelta 300 := by decide
    obtain ⟨s, hs⟩ := claimNext_first (creates_first (F := F) fits) live hl "token"
    obtain ⟨he, hh, -⟩ := granted_claim hs
    exact ⟨(sub.candidate "job").claimed "token" (1 + secondsDelta 300), he ▸ hh⟩

end FirstAttempt

end LotusRisk
