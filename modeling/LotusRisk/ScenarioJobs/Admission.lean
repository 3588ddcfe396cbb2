import LotusRisk.ScenarioJobs.RowInvariant
import LotusRisk.ScenarioJobs.Service

/-! Admission under contention. A submit is two transactions, the insert and, when it lost, the read
of the row that won; any number of other transactions may run in between. -/

namespace LotusRisk
open Relational JsonText Fencing ScenarioJobStore
set_option autoImplicit true

/-- The answer of a submit that inserts into `s` and, when it lost, reads from `later`. -/
def submitAnswer (db : Database) (s later : ScenarioJobStore F) (sub : JobSubmission)
    (uuid : String) : Except PyException (ScenarioEvaluationJobRecord × Bool) :=
  match s.insertCandidate db (sub.candidate uuid) with
  | .ok _ => .ok (sub.candidate uuid, true)
  | .error .integrityError => later.resolveExisting sub
  | .error e => .error e

section Answers

variable {db : Database} {s later : ScenarioJobStore F} {sub : JobSubmission}

/-- With nothing in between, the two transactions are the store's `submit`. -/
theorem submit_eq_submitAnswer (db : Database) (s : ScenarioJobStore F) (sub : JobSubmission)
    (uuid : String) :
    (s.submit db sub uuid).map Prod.fst = submitAnswer db s s sub uuid := by
  unfold submit submitAnswer
  rcases insertCandidate_cases db s (sub.candidate uuid) with ⟨s', h, -⟩ | ⟨h, -⟩ | ⟨h, -⟩
  · rw [h]
    rfl
  · rw [h]
    cases s.resolveExisting sub <;> rfl
  · rw [h]
    rfl

/-- A live job with the key makes an insert lose. -/
theorem insertCandidate_of_live (hj : job ∈ s.jobs.rows) (hk : job.tenantKey = sub.tenantKey)
    (uuid : String) : s.insertCandidate db (sub.candidate uuid) =
      .error (if db.acceptsJob (sub.candidate uuid) then .integrityError else .dataError) := by
  have hm : (sub.candidate uuid).tenantKey ∈ s.jobs.rows.map (·.tenantKey) :=
    List.mem_map.2 ⟨job, hj, hk⟩
  rcases insertCandidate_cases db s (sub.candidate uuid) with ⟨s', -, -, hn, -⟩ | ⟨h, ha, -⟩ |
    ⟨h, ha⟩
  · exact absurd hm hn
  · rw [h, ha]
    rfl
  · rw [h, ha]
    rfl

/-- What a losing submit answers once it reads. -/
theorem submitAnswer_of_lost (hj : job ∈ s.jobs.rows) (hk : job.tenantKey = sub.tenantKey)
    (ha : db.acceptsJob (sub.candidate uuid) = true) :
    submitAnswer db s later sub uuid = later.resolveExisting sub := by
  unfold submitAnswer
  rw [insertCandidate_of_live hj hk, ha]
  rfl

/-- An engine that refuses the texts of the row raises, whatever the table holds. -/
theorem submitAnswer_of_refused (ha : db.acceptsJob (sub.candidate uuid) = false) :
    submitAnswer db s later sub uuid = .error .dataError := by
  unfold submitAnswer insertCandidate
  rw [if_pos ha]

end Answers

/-- The submit inserted its row. -/
def Creates (db : Database) (s : ScenarioJobStore F) (sub : JobSubmission) (uuid : String) : Prop :=
  ∃ s', s.insertCandidate db (sub.candidate uuid) = .ok s'

/-- The submit after `pre` inserted a row that is still there after `post`. -/
def CreatedAt (db : Database) (pre : List (StoreOp F)) (sub : JobSubmission) (uuid : String)
    (post : List (StoreOp F)) : Prop :=
  Creates db (execute db pre).store sub uuid ∧
    ¬ DeletedIn db (execute db (pre ++ [.submit sub uuid])) post uuid

section Creation

variable {db : Database} {ops pre mid post : List (StoreOp F)} {s : ScenarioJobStore F}
  {sub : JobSubmission}

/-- `created=True` is reported for an inserted row, and for nothing else. -/
theorem creates_iff (later : ScenarioJobStore F) : Creates db s sub uuid ↔
    ∃ record, submitAnswer db s later sub uuid = .ok (record, true) := by
  unfold Creates submitAnswer
  rcases insertCandidate_cases db s (sub.candidate uuid) with ⟨s', h, -⟩ | ⟨h, -⟩ | ⟨h, -⟩
  · rw [h]
    exact ⟨fun _ => ⟨_, rfl⟩, fun _ => ⟨s', rfl⟩⟩
  · rw [h]
    constructor
    · rintro ⟨s', hs⟩
      cases hs
    · rintro ⟨record, hr⟩
      change later.resolveExisting sub = _ at hr
      unfold resolveExisting at hr
      split at hr
      · cases hr
      · split at hr <;> cases hr
  · rw [h]
    constructor
    · rintro ⟨s', hs⟩
      cases hs
    · rintro ⟨record, hr⟩
      cases hr

theorem Creates.job (h : Creates db s sub uuid) :
    ((StoreOp.submit sub uuid : StoreOp F).perform db s).1.job? uuid =
      some (sub.candidate uuid) := by
  obtain ⟨s', hs⟩ := h
  obtain ⟨-, -, -, -, -, hj⟩ := insertCandidate_eq_ok hs
  unfold StoreOp.perform
  dsimp only
  unfold submit
  rw [hs]
  exact (hj uuid).trans (if_pos rfl)

theorem perform_of_not_creates (h : ¬ Creates db s sub uuid) :
    ((StoreOp.submit sub uuid : StoreOp F).perform db s).1 = s := by
  unfold StoreOp.perform
  dsimp only
  rcases submit_cases db s sub uuid with ⟨s', -, hs⟩ | ⟨job, hs, -⟩ | ⟨e, hs⟩
  · exact absurd ⟨s', hs⟩ h
  · rw [hs]
  · rw [hs]

/-- A job that was not there before a call was created by it. -/
theorem created_of_new {op : StoreOp F} (hn : s.job? jobId = none)
    (hj : (op.perform db s).1.job? jobId = some job) :
    ∃ sub, op = .submit sub jobId ∧ job = sub.candidate jobId ∧ Creates db s sub jobId := by
  have he := op.effect_perform db s
  generalize hr : op.perform db s = r at he hj
  cases he with
  | unchanged => cases hn.symm.trans hj
  | admitted sub uuid absent jobs contributions =>
    rw [jobs] at hj
    split at hj
    · rename_i he
      subst he
      cases hj
      refine ⟨sub, rfl, rfl, ?_⟩
      by_contra hc
      have := perform_of_not_creates hc
      rw [hr] at this
      dsimp only at this
      subst this
      have hu := jobs uuid
      rw [if_pos rfl, hn] at hu
      cases hu
    · cases hn.symm.trans hj
  | claimed job' now lease uuid found claimable hl jobs contributions =>
    rw [jobs] at hj
    split at hj
    · rename_i he
      rw [he] at found
      cases hn.symm.trans found
    · cases hn.symm.trans hj
  | failed j token code detail failedAt held jobs contributions =>
    rw [jobs] at hj
    split at hj
    · rename_i he
      cases hn.symm.trans (he ▸ held.1)
    · cases hn.symm.trans hj
  | succeeded j token aggregate rows completedAt held jobs contributions =>
    rw [jobs] at hj
    split at hj
    · rename_i he
      cases hn.symm.trans (he ▸ held.1)
    · cases hn.symm.trans hj
  | deleted now limit nodup expired jobs contributions =>
    rw [jobs] at hj
    split at hj
    · cases hj
    · cases hn.symm.trans hj

theorem RowEffect.admission {op : StoreOp F} (h : op.RowEffect job (some job')) :
    job'.admission = job.admission := by
  cases h <;> rfl

theorem created_exists (hj : (execute db ops).store.job? jobId = some job) :
    ∃ pre sub post, ops = pre ++ .submit sub jobId :: post ∧ CreatedAt db pre sub jobId post ∧
      job.admission = (sub.candidate jobId).admission := by
  induction ops using List.reverseRecOn generalizing job with
  | nil => cases hj
  | append_singleton ops op ih =>
    rw [execute_snoc] at hj
    cases hb : (execute db ops).store.job? jobId with
    | none =>
      obtain ⟨sub, rfl, rfl, hc⟩ := created_of_new hb hj
      exact ⟨ops, sub, [], rfl, ⟨hc, not_deletedIn_nil⟩, rfl⟩
    | some job₀ =>
      obtain ⟨pre, sub, post, rfl, ⟨hc, hd⟩, ha⟩ := ih hb
      have he := (op.effect_perform db (execute db (pre ++ .submit sub jobId :: post)).store).row hb
      change (op.perform db _).1.job? jobId = some job at hj
      rw [hj] at he
      refine ⟨pre, sub, post ++ [op], by simp, ⟨hc, fun h => hd ?_⟩,
        (RowEffect.admission he).trans ha⟩
      apply deletedIn_snoc_of_kept h
      rw [System.run_append, ← run_after]
      change ((op.perform db _).1.job? jobId).isSome
      rw [hj]
      rfl

/-- The first submission of a store is inserted when its texts fit. -/
theorem creates_first (h : db.acceptsJob (sub.candidate uuid) = true) :
    Creates db (execute db ([] : List (StoreOp F))).store sub uuid := by
  rcases insertCandidate_cases db (ScenarioJobStore.empty : ScenarioJobStore F)
    (sub.candidate uuid) with ⟨s, hs, -⟩ | ⟨-, -, hk | hj⟩ | ⟨-, ha⟩
  · exact ⟨s, hs⟩
  · cases hk
  · cases hj
  · rw [h] at ha
    cases ha

/-- While the created job is there, its key is taken. -/
theorem CreatedAt.not_before {sub' : JobSubmission}
    (h : CreatedAt db pre sub uuid (mid ++ .submit sub' uuid' :: post))
    (hk : sub.tenantKey = sub'.tenantKey) :
    ¬ Creates db (execute db (pre ++ .submit sub uuid :: mid)).store sub' uuid' := by
  obtain ⟨hc, hd⟩ := h
  have hj := hc.job
  change ((execute db pre).perform db (.submit sub uuid)).store.job? uuid = _ at hj
  rw [← execute_snoc] at hj
  rcases kept_or_deleted (P := fun job => job.tenantKey = sub.tenantKey)
    (fun op job job' he hp => (congrArg (fun a => (a.tenantId, a.idempotencyKey))
      (RowEffect.admission he)).trans hp) hj rfl db mid with ⟨job', hj', hp⟩ | hk'
  · rw [← run_after] at hj'
    rintro ⟨s', hs⟩
    obtain ⟨-, hn, -⟩ := insertCandidate_eq_ok hs
    exact hn (List.mem_map.2 ⟨job', (job?_eq_some.1 hj').1, hp.trans hk⟩)
  · exact fun _ => hd (hk'.append _)

theorem CreatedAt.unique {sub' : JobSubmission} {pre' post' : List (StoreOp F)}
    (h : CreatedAt db pre sub uuid post) (h' : CreatedAt db pre' sub' uuid' post')
    (hk : sub.tenantKey = sub'.tenantKey)
    (he : pre ++ .submit sub uuid :: post = pre' ++ .submit sub' uuid' :: post') : pre = pre' := by
  rcases List.append_eq_append_iff.1 he with ⟨mid, hp, hr⟩ | ⟨mid, hp, hr⟩
  · cases mid with
    | nil => rw [hp, List.append_nil]
    | cons first mid =>
      rw [List.cons_append, List.cons.injEq] at hr
      obtain ⟨rfl, rfl⟩ := hr
      subst hp
      exact absurd h'.1 (h.not_before hk)
  · cases mid with
    | nil => rw [hp, List.append_nil]
    | cons first mid =>
      rw [List.cons_append, List.cons.injEq] at hr
      obtain ⟨rfl, rfl⟩ := hr
      subst hp
      exact absurd h.1 (h'.not_before hk.symm)

end Creation

/-- The submission comes from `submit_scenario_job`, under some catalog and retention. -/
def Submitted (F : Type) [PyFloat F] [PyText] (sub : JobSubmission) : Prop :=
  ∃ (catalog : ScenarioCatalog F) (configured : Option Int) (call : SubmitCall F),
    submissionOf catalog configured call = .ok sub

/-- A live job has the key of the submission. -/
def KeyTaken (s : ScenarioJobStore F) (sub : JobSubmission) : Prop :=
  ∃ job ∈ s.jobs.rows, job.tenantKey = sub.tenantKey

/-- Keyed replay in a run of the store: a submit inserts after `pre` and reads after `mid`. -/
structure IdempotentAdmission [PyText] (db : Database) (ops : List (StoreOp F)) : Prop where
  one_live_job : ∀ a ∈ (execute db ops).store.jobs.rows, ∀ b ∈ (execute db ops).store.jobs.rows,
    a.tenantKey = b.tenantKey → a = b
  created : ∀ job ∈ (execute db ops).store.jobs.rows,
    ∃ pre sub post, ops = pre ++ .submit sub job.jobId :: post ∧
      CreatedAt db pre sub job.jobId post ∧
      job.admission = (sub.candidate job.jobId).admission
  created_once : ∀ pre sub uuid post pre' sub' uuid' post',
    ops = pre ++ .submit sub uuid :: post → ops = pre' ++ .submit sub' uuid' :: post' →
    CreatedAt db pre sub uuid post → CreatedAt db pre' sub' uuid' post' →
    sub.tenantKey = sub'.tenantKey → pre = pre'
  replayed : ∀ pre sub uuid mid post, ops = pre ++ .submit sub uuid :: (mid ++ post) →
    KeyTaken (execute db pre).store sub →
    ∀ job ∈ (execute db (pre ++ .submit sub uuid :: mid)).store.jobs.rows,
      job.tenantKey = sub.tenantKey →
      submitAnswer db (execute db pre).store (execute db (pre ++ .submit sub uuid :: mid)).store
        sub uuid =
        if job.requestFingerprint = sub.requestFingerprint then .ok (job, false)
        else .error (.idempotencyConflict
          "Idempotency-Key was previously used with different scenario job input")
  same_job : ∀ pre mid post job, ops = pre ++ (mid ++ post) →
    job ∈ (execute db pre).store.jobs.rows →
    (∃ job' ∈ (execute db (pre ++ mid)).store.jobs.rows, job'.jobId = job.jobId ∧
      job'.admission = job.admission) ∨ DeletedIn db (execute db pre) mid job.jobId
  unchanged : ∀ pre sub uuid post later, ops = pre ++ .submit sub uuid :: post →
    (∀ record, submitAnswer db (execute db pre).store later sub uuid ≠ .ok (record, true)) →
    (execute db (pre ++ [.submit sub uuid])).store = (execute db pre).store
  fingerprint : ∀ job ∈ (execute db ops).store.jobs.rows,
    job.requestFingerprint = sha256Digest job.immutableRequestJson

/-- Every submit of a taken key has texts the engine can store. -/
def ReplaysFit (db : Database) (ops : List (StoreOp F)) : Prop :=
  ∀ pre sub uuid post, ops = pre ++ .submit sub uuid :: post →
    KeyTaken (execute db pre).store sub → db.acceptsJob (sub.candidate uuid) = true

/-- An inserted row takes its key. -/
theorem Creates.keyTaken {pre : List (StoreOp F)} {sub sub' : JobSubmission}
    (h : Creates db (execute db pre).store sub uuid) (hk : sub.tenantKey = sub'.tenantKey) :
    KeyTaken (execute db (pre ++ [.submit sub uuid])).store sub' := by
  rw [execute_snoc]
  exact ⟨sub.candidate uuid, (job?_eq_some.1 h.job).1, hk⟩

section Replay

variable {db : Database} {ops pre mid post : List (StoreOp F)}

theorem replayed_of_fits {s later : ScenarioJobStore F} {sub : JobSubmission}
    (hk : KeyTaken s sub) (ha : db.acceptsJob (sub.candidate uuid) = true)
    (hj : job ∈ later.jobs.rows) (he : job.tenantKey = sub.tenantKey) :
    submitAnswer db s later sub uuid =
      if job.requestFingerprint = sub.requestFingerprint then .ok (job, false)
      else .error (.idempotencyConflict
        "Idempotency-Key was previously used with different scenario job input") := by
  obtain ⟨holder, hm, hh⟩ := hk
  rw [submitAnswer_of_lost hm hh ha, resolveExisting_of_mem hj he, ite_not]

theorem same_job_of_run (hj : job ∈ (execute db pre).store.jobs.rows) (mid : List (StoreOp F)) :
    (∃ job' ∈ (execute db (pre ++ mid)).store.jobs.rows, job'.jobId = job.jobId ∧
      job'.admission = job.admission) ∨ DeletedIn db (execute db pre) mid job.jobId := by
  rcases admission_kept_of_run (job?_eq_some.2 ⟨hj, rfl⟩) mid with ⟨job', hj', ha⟩ | hd
  · obtain ⟨hm, hid⟩ := job?_eq_some.1 hj'
    exact .inl ⟨job', hm, hid, ha⟩
  · exact .inr hd

theorem unchanged_of_answer {sub : JobSubmission} (later : ScenarioJobStore F)
    (h : ∀ record, submitAnswer db (execute db pre).store later sub uuid ≠ .ok (record, true)) :
    (execute db (pre ++ [.submit sub uuid])).store = (execute db pre).store := by
  rw [execute_snoc]
  apply perform_of_not_creates
  rw [creates_iff later]
  rintro ⟨record, hr⟩
  exact h record hr

theorem fingerprint_of_run [PyFloat F] [PyText]
    (hs : ∀ sub uuid, .submit sub uuid ∈ ops → Submitted F sub)
    (hj : job ∈ (execute db ops).store.jobs.rows) :
    job.requestFingerprint = sha256Digest job.immutableRequestJson := by
  obtain ⟨pre, sub, post, rfl, -, ha⟩ := created_exists (job?_eq_some.2 ⟨hj, rfl⟩)
  obtain ⟨catalog, configured, call, hc⟩ := hs sub job.jobId (by simp)
  have hf := congrArg JobAdmission.requestFingerprint ha
  have hr := congrArg JobAdmission.immutableRequestJson ha
  dsimp only [ScenarioEvaluationJobRecord.admission] at hf hr
  rw [hf, hr]
  exact submissionOf_fingerprint hc job.jobId

theorem replaysFit_of_replayed [PyText] (h : IdempotentAdmission db ops) : ReplaysFit db ops := by
  intro pre sub uuid post he hk
  cases ha : db.acceptsJob (sub.candidate uuid) with
  | true => rfl
  | false =>
    have hu : (execute db (pre ++ [.submit sub uuid])).store = (execute db pre).store := by
      apply unchanged_of_answer (execute db pre).store
      intro record hr
      rw [submitAnswer_of_refused ha] at hr
      cases hr
    obtain ⟨job, hm, hj⟩ := hk
    have hr := h.replayed pre sub uuid [] post he ⟨job, hm, hj⟩ job (by rw [hu]; exact hm) hj
    rw [submitAnswer_of_refused ha] at hr
    split at hr <;> cases hr

end Replay

section Service

variable [PyFloat F] [PyText] {db : Database} {pre mid : List (StoreOp F)}
  {catalog : ScenarioCatalog F} {call : SubmitCall F} {sub sub' : JobSubmission}

/-- The service answers what the store answers, under its own name for the conflict. -/
theorem answer_submitScenarioJob {s : ScenarioJobStore F}
    (hcall : submissionOf catalog configured call = .ok sub) (uuid : String) :
    (submitScenarioJob db catalog configured s call uuid).map Prod.fst =
      ((submitAnswer db s s sub uuid).map fun answer => accepted answer.1).mapError
        admissionError := by
  rw [← submit_eq_submitAnswer, submitScenarioJob, hcall]
  dsimp only [bind, Except.bind]
  cases s.submit db sub uuid with
  | ok answer => rfl
  | error e => rfl

/-- A call under the key of a job that was created and is still there is answered with that job,
wherever it has got to, or refused as a conflict of another request. -/
theorem submitScenarioJob_replays
    (hcreated : Creates db (execute db pre).store sub uuid)
    (hkept : ¬ DeletedIn db (execute db (pre ++ [.submit sub uuid])) mid uuid)
    (hcall : submissionOf catalog configured call = .ok sub')
    (hkey : sub.tenantKey = sub'.tenantKey) (hfits : db.acceptsJob (sub'.candidate uuid') = true) :
    ∃ status, (submitScenarioJob db catalog configured
        (execute db (pre ++ .submit sub uuid :: mid)).store call uuid').map Prod.fst =
      if sub.requestFingerprint = canonicalRequestFingerprint call.request then
        .ok ⟨uuid, status, sub.requestFingerprint, sub.scenarioPackRevision, sub.expiresAt⟩
      else .error (.admissionConflict
        "Idempotency-Key was previously used with different scenario job input") := by
  have hjob := hcreated.job
  change ((execute db pre).perform db (.submit sub uuid)).store.job? uuid = _ at hjob
  rw [← execute_snoc] at hjob
  obtain ⟨job, hj, hadmission⟩ := (admission_kept_of_run hjob mid).resolve_right hkept
  rw [List.append_assoc, List.singleton_append] at hj
  obtain ⟨hmem, hid⟩ := job?_eq_some.1 hj
  have hjobKey : job.tenantKey = sub'.tenantKey :=
    (congrArg (fun a => (a.tenantId, a.idempotencyKey)) hadmission).trans hkey
  have hfingerprint : job.requestFingerprint = sub.requestFingerprint :=
    congrArg JobAdmission.requestFingerprint hadmission
  have hrevision : job.scenarioPackRevision = sub.scenarioPackRevision :=
    congrArg JobAdmission.scenarioPackRevision hadmission
  have hexpires : job.expiresAt = sub.expiresAt := congrArg JobAdmission.expiresAt hadmission
  refine ⟨job.status, ?_⟩
  rw [answer_submitScenarioJob hcall, replayed_of_fits ⟨job, hmem, hjobKey⟩ hfits hmem hjobKey,
    hfingerprint, (submissionOf_eq_ok hcall).2.1]
  split
  · rw [← hid, ← hfingerprint, ← hrevision, ← hexpires]
    rfl
  · rfl

end Service

section Example

open AsciiRuntime

/-- Two submits of one request under one key. -/
def replayedRun (actorId : Option String) : List (StoreOp ℚ) :=
  [.submit (packSubmission balancedRequest.toJobRequest none) "first",
    .submit (packSubmission balancedRequest.toJobRequest actorId) "second"]

theorem submitted_replayedRun (actorId : Option String) (sub : JobSubmission) (uuid : String)
    (h : .submit sub uuid ∈ replayedRun actorId) : Submitted ℚ sub := by
  simp only [replayedRun, List.mem_cons, StoreOp.submit.injEq, List.not_mem_nil, or_false] at h
  rcases h with ⟨rfl, -⟩ | ⟨rfl, -⟩ <;>
    exact ⟨codeCatalog, some 24, _, submissionOf_packCall rfl _⟩

theorem fits_sha256Digest (text : String) :
    Database.codePoint.fits 71 (sha256Digest text) = true := by
  have hl : (PyText.sha256 text).length = 64 := Sha256.length_hexdigest _
  have hp : "sha256:".length = 7 := by decide
  unfold Database.fits sha256Digest
  rw [String.length_append, hl, hp]
  simp [Database.codePoint]

/-- Of the texts of such a submission only the actor can be too long. -/
theorem acceptsJob_packSubmission (request : RegimeScenarioPackJobRequest ℚ)
    (actorId : Option String) (uuid : String) :
    Database.codePoint.acceptsJob ((packSubmission request actorId).candidate uuid) =
      Database.codePoint.fitsOptional 256 actorId := by
  have hf : Database.codePoint.fits 71 (packSubmission request actorId).requestFingerprint = true :=
    fits_sha256Digest _
  have hr : Database.codePoint.fits 71 (packSubmission request actorId).scenarioPackRevision = true :=
    fits_sha256Digest _
  have ht : Database.codePoint.fits 128 "tenant-sg" = true := by decide
  have hk : Database.codePoint.fits 128 "scenario-job-001" = true := by decide
  have hp : Database.codePoint.fits 128 "CIO_REGIME_2026_Q2" = true := by decide
  unfold Database.acceptsJob JobSubmission.candidate
  simp only [hf, hr]
  simp [packSubmission, ht, hk, hp, Database.fitsOptional]

theorem creates_packSubmission (request : RegimeScenarioPackJobRequest ℚ) (uuid : String) :
    Creates .codePoint (execute .codePoint ([] : List (StoreOp ℚ))).store
      (packSubmission request none) uuid :=
  creates_first (acceptsJob_packSubmission request none uuid)

def longText : String := String.ofList (List.replicate 257 'a')

theorem not_fits_longText : Database.codePoint.fits 256 longText = false := by
  unfold Database.fits longText
  rw [String.length_ofList, List.length_replicate]
  rfl

end Example

end LotusRisk
