import LotusRisk.ScenarioJobs.Lifecycle

namespace LotusRisk
open Relational JsonText Fencing ScenarioJobStore
set_option autoImplicit true

def ScenarioEvaluationJobRecord.terminal (job : ScenarioEvaluationJobRecord) : Bool :=
  job.status = .succeeded || job.status = .failed

/-- The jobs a claim at `now` may take. -/
def Eligible (now : Timestamp) (job : ScenarioEvaluationJobRecord) : Prop :=
  now < job.expiresAt ∧ (job.status = .queued ∨
    job.status = .running ∧ ∃ lease, job.leaseExpiresAt = some lease ∧ lease ≤ now)

theorem claimable_iff : job.claimable now = true ↔ Eligible now job := by
  unfold ScenarioEvaluationJobRecord.claimable Eligible
  cases job.leaseExpiresAt <;> simp [and_comm]

/-- Both terminal operations present a token for one job. -/
inductive StoreOp.Presents : StoreOp F → String → String → Prop where
  | fail (jobId token code detail : String) (failedAt : Timestamp) :
      Presents (.failClaim jobId token code detail failedAt) jobId token
  | complete (jobId token : String) (aggregate : Json)
      (rows : List (ScenarioEvaluationJobContributionRecord F)) (completedAt : Timestamp) :
      Presents (.completeClaim jobId token aggregate rows completedAt) jobId token

/-- The call takes the job to `SUCCEEDED` or `FAILED`. -/
def TerminalTransition (db : Database) (σ : System F) (op : StoreOp F) (jobId : String) : Prop :=
  (∀ job, σ.store.job? jobId = some job → job.terminal = false) ∧
    ∃ job, (σ.perform db op).store.job? jobId = some job ∧ job.terminal = true

/-- The call is granted a claim of the job. -/
def Grants (db : Database) (σ : System F) (op : StoreOp F) (jobId : String)
    (now lease : Timestamp) : Prop :=
  ∃ uuid job s, op = .claimNext now lease uuid ∧
    σ.store.claimNext db now lease uuid = .ok (some job, s) ∧ job.jobId = jobId

/-- A token that no longer, or never, allows to finish the job. -/
inductive Stale (σ : System F) (jobId token : String) : Prop where
  | superseded (pre post : List String) (issued : σ.issuedTokens jobId = pre ++ token :: post)
      (later : post ≠ [])
  | unknown (notIssued : token ∉ σ.issuedTokens jobId)
  | deleted (gone : σ.store.job? jobId = none)
  | terminal (job : ScenarioEvaluationJobRecord) (found : σ.store.job? jobId = some job)
      (done : job.terminal = true)

section Holder

/-- The row of a running job carries the token that was issued last. -/
theorem held_token_last {db : Database} {ops : List (StoreOp F)}
    (h : (execute db ops).store.Held jobId token job) :
    ((execute db ops).issuedTokens jobId).getLast? = some token := by
  obtain ⟨found, hs, ht⟩ := h
  obtain ⟨p, hp, hr, -⟩ := tracks_execute db ops jobId
  obtain ⟨sub, lease, n, rfl, -, -⟩ := rowOf_running (hr.symm.trans found) hs ht
  obtain ⟨pre, now, he⟩ := held_last_grant hp
  unfold System.issuedTokens
  rw [he, grantTokens_append, grantTokens_grant]
  exact List.getLast?_concat

theorem Stale.not_held {db : Database} {ops : List (StoreOp F)} (hf : FreshTokens ops)
    (h : Stale (execute db ops) jobId token) (job : ScenarioEvaluationJobRecord) :
    ¬ (execute db ops).store.Held jobId token job := by
  intro hh
  have hl := held_token_last hh
  have hn := issuedTokens_nodup hf db jobId
  obtain ⟨found, hs, -⟩ := hh
  cases h with
  | superseded pre post issued later =>
    rw [issued] at hl hn
    rw [List.getLast?_append, List.getLast?_cons] at hl
    cases hp : post.getLast? with
    | none => exact later (List.getLast?_eq_none_iff.1 hp)
    | some last =>
      rw [hp] at hl
      have hm : token ∈ post := by
        have : last = token := by simpa using hl
        rw [← this]
        exact List.mem_of_getLast? hp
      exact (List.nodup_cons.1 (List.nodup_append.1 hn).2.1).1 hm
  | unknown notIssued => exact notIssued (List.mem_of_getLast? hl)
  | deleted gone => cases gone.symm.trans found
  | terminal job' found' done =>
    cases found'.symm.trans found
    rw [ScenarioEvaluationJobRecord.terminal, hs] at done
    cases done

end Holder

section Steps

variable {job : ScenarioEvaluationJobRecord}

theorem heldBy_running (h : job.heldBy token = true) : job.status = .running := by
  unfold ScenarioEvaluationJobRecord.heldBy at h
  rw [Bool.and_eq_true, decide_eq_true_eq] at h
  exact h.1

theorem not_terminal_of_running (h : job.status = .running) : job.terminal = false := by
  unfold ScenarioEvaluationJobRecord.terminal
  rw [h]
  rfl

theorem not_terminal_of_eligible (h : Eligible now job) : job.terminal = false := by
  obtain ⟨-, hs | ⟨hs, -⟩⟩ := h
  · unfold ScenarioEvaluationJobRecord.terminal
    rw [hs]
    rfl
  · exact not_terminal_of_running hs

/-- Of the row of a terminal job a call can only be a deletion. -/
theorem terminal_kept (op : StoreOp F) (job job' : ScenarioEvaluationJobRecord)
    (h : op.RowEffect job (some job')) (ht : job.terminal = true) : job' = job := by
  cases h with
  | kept => rfl
  | claimed now lease uuid claimable =>
    rw [not_terminal_of_eligible (claimable_iff.1 claimable)] at ht
    cases ht
  | failed token code detail failedAt held | succeeded token aggregate rows completedAt held =>
    rw [not_terminal_of_running (heldBy_running held)] at ht
    cases ht

/-- A job under a lease until `lease`, or under a later one, or finished. -/
def LeasedUntil (lease : Timestamp) (job : ScenarioEvaluationJobRecord) : Prop :=
  job.status ≠ .queued ∧
    ∀ other, job.status = .running → job.leaseExpiresAt = some other → lease ≤ other

theorem LeasedUntil.eligible (h : LeasedUntil lease job) (he : Eligible now job) :
    lease ≤ now := by
  obtain ⟨hq, hl⟩ := h
  obtain ⟨-, hs | ⟨hs, other, ho, hn⟩⟩ := he
  · exact absurd hs hq
  · exact (hl other hs ho).trans hn

theorem leasedUntil_kept (op : StoreOp F) (job job' : ScenarioEvaluationJobRecord)
    (h : op.RowEffect job (some job')) (hl : LeasedUntil lease job) : LeasedUntil lease job' := by
  cases h with
  | kept => exact hl
  | claimed now lease' uuid claimable hlt =>
    have hn := hl.eligible (claimable_iff.1 claimable)
    refine ⟨(by intro hq; cases hq), fun other _ ho => ?_⟩
    cases ho
    exact hn.trans hlt.le
  | failed | succeeded => exact ⟨(by intro hq; cases hq), (by intro other hs; cases hs)⟩

theorem Grants.leasedUntil {σ : System F} (h : Grants db σ op jobId now lease) :
    ∃ job, (σ.perform db op).store.job? jobId = some job ∧ LeasedUntil lease job := by
  obtain ⟨uuid, job, s, rfl, hc, rfl⟩ := h
  obtain ⟨-, ⟨-, hn, -⟩ | ⟨job', hj, he, rfl⟩⟩ := claimNext_eq_ok hc
  · cases hn
  cases he
  refine ⟨job'.claimed uuid lease, ?_, (by intro hq; cases hq), fun other _ ho => ?_⟩
  · have hf : σ.store.job? job'.jobId = some job' :=
      job?_eq_some.2 ⟨(claimCandidate_spec hj).1, rfl⟩
    unfold System.perform StoreOp.perform
    dsimp only
    rw [hc]
    exact (job?_updateJob_of_found hf (·.claimed uuid lease) _ (fun _ => rfl) _).trans (if_pos rfl)
  · cases ho
    exact le_refl lease

theorem Grants.eligible {σ : System F} (h : Grants db σ op jobId now lease) :
    ∃ job, σ.store.job? jobId = some job ∧ Eligible now job := by
  obtain ⟨uuid, job, s, rfl, hc, rfl⟩ := h
  obtain ⟨-, ⟨-, hn, -⟩ | ⟨job', hj, he, rfl⟩⟩ := claimNext_eq_ok hc
  · cases hn
  cases he
  obtain ⟨hm, hp, -⟩ := claimCandidate_spec hj
  exact ⟨job', job?_eq_some.2 ⟨hm, rfl⟩, claimable_iff.1 hp⟩

/-- Only the holder of the last issued token takes a job to a terminal status. -/
theorem TerminalTransition.presents {ops : List (StoreOp F)}
    (h : TerminalTransition db (execute db ops) op jobId) :
    ∃ token, op.Presents jobId token ∧
      ((execute db ops).issuedTokens jobId).getLast? = some token := by
  obtain ⟨hb, job', hj', ht⟩ := h
  have he := op.effect_perform db (execute db ops).store
  change (op.perform db (execute db ops).store).1.job? jobId = some job' at hj'
  generalize op.perform db (execute db ops).store = r at he hj'
  cases he with
  | unchanged =>
    rw [hb job' hj'] at ht
    cases ht
  | admitted sub uuid absent jobs =>
    rw [jobs] at hj'
    split at hj'
    · cases hj'
      cases ht
    · rw [hb job' hj'] at ht
      cases ht
  | claimed job now lease uuid found claimable hl jobs =>
    rw [jobs] at hj'
    split at hj'
    · cases hj'
      cases ht
    · rw [hb job' hj'] at ht
      cases ht
  | failed j token code detail failedAt held jobs =>
    rw [jobs] at hj'
    split at hj'
    · rename_i he
      subst he
      exact ⟨token, .fail j token code detail failedAt, held_token_last held⟩
    · rw [hb job' hj'] at ht
      cases ht
  | succeeded j token aggregate rows completedAt held jobs =>
    rw [jobs] at hj'
    split at hj'
    · rename_i he
      subst he
      exact ⟨token, .complete j token aggregate rows completedAt, held_token_last held⟩
    · rw [hb job' hj'] at ht
      cases ht
  | deleted now limit nodup expired jobs =>
    rw [jobs] at hj'
    split at hj'
    · cases hj'
    · rw [hb job' hj'] at ht
      cases ht

end Steps

/-- What claim tokens and leases guarantee in a run of the store. -/
structure ClaimFencing (db : Database) (ops : List (StoreOp F)) : Prop where
  terminal_by_last_token : ∀ pre op post jobId, ops = pre ++ op :: post →
    TerminalTransition db (execute db pre) op jobId →
    ∃ token, op.Presents jobId token ∧
      ((execute db pre).issuedTokens jobId).getLast? = some token
  terminal_once : ∀ pre op mid op' post jobId, ops = pre ++ op :: (mid ++ op' :: post) →
    TerminalTransition db (execute db pre) op jobId →
    TerminalTransition db (execute db (pre ++ op :: mid)) op' jobId →
    DeletedIn db (execute db (pre ++ [op])) mid jobId
  stale_refused : ∀ jobId token, Stale (execute db ops) jobId token →
    (∀ code detail failedAt, (execute db ops).store.failClaim db jobId token code detail failedAt =
      .ok (false, (execute db ops).store)) ∧
    ∀ aggregate rows completedAt,
      (execute db ops).store.completeClaim db jobId token aggregate rows completedAt =
        .ok (false, (execute db ops).store)
  terminal_unchanged : ∀ pre post jobId job, ops = pre ++ post →
    (execute db pre).store.job? jobId = some job → job.terminal = true →
    (execute db ops).store.job? jobId = some job ∨ DeletedIn db (execute db pre) post jobId
  claims_least : ∀ now lease uuid claim s,
    (execute db ops).store.claimNext db now lease uuid = .ok (some claim, s) →
    ∃ job ∈ (execute db ops).store.jobs.rows, claim = job.claimed uuid lease ∧ Eligible now job ∧
      ∀ other ∈ (execute db ops).store.jobs.rows, Eligible now other →
        job = other ∨ db.jobOrder (·.submittedAt) job other
  claims_granted : ∀ now lease uuid, now < lease →
    ∀ job ∈ (execute db ops).store.jobs.rows, Eligible now job →
      ∃ claim s, (execute db ops).store.claimNext db now lease uuid = .ok (some claim, s)
  claims_none : ∀ now lease uuid, now < lease →
    ((∃ s, (execute db ops).store.claimNext db now lease uuid = .ok (none, s)) ↔
      ∀ job ∈ (execute db ops).store.jobs.rows, ¬ Eligible now job)
  lease_respected : ∀ pre op mid op' post jobId now lease now' lease',
    ops = pre ++ op :: (mid ++ op' :: post) →
    Grants db (execute db pre) op jobId now lease →
    Grants db (execute db (pre ++ op :: mid)) op' jobId now' lease' →
    lease ≤ now' ∨ DeletedIn db (execute db (pre ++ [op])) mid jobId

section Runs

variable {db : Database} {pre mid : List (StoreOp F)} {op op' : StoreOp F}

theorem run_after (pre mid : List (StoreOp F)) (op : StoreOp F) :
    execute db (pre ++ op :: mid) = (execute db (pre ++ [op])).run db mid := by
  rw [← execute_append, List.append_assoc, List.singleton_append]

theorem terminal_once_of_run (h : TerminalTransition db (execute db pre) op jobId)
    (h' : TerminalTransition db (execute db (pre ++ op :: mid)) op' jobId) :
    DeletedIn db (execute db (pre ++ [op])) mid jobId := by
  obtain ⟨-, job, hj, ht⟩ := h
  rw [← execute_snoc] at hj
  rcases kept_or_deleted (P := fun job => job.terminal = true)
    (fun op job job' he ht => by rw [terminal_kept op job job' he ht]; exact ht)
    hj ht db mid with ⟨job', hj', ht'⟩ | hd
  · rw [← run_after] at hj'
    rw [h'.1 job' hj'] at ht'
    cases ht'
  · exact hd

theorem terminal_unchanged_of_run (hj : (execute db pre).store.job? jobId = some job)
    (ht : job.terminal = true) (post : List (StoreOp F)) :
    (execute db (pre ++ post)).store.job? jobId = some job ∨
      DeletedIn db (execute db pre) post jobId := by
  rw [execute_append]
  rcases kept_or_deleted (P := fun job' => job' = job)
    (fun op job₁ job₂ he h₁ => (terminal_kept op job₁ job₂ he (h₁ ▸ ht)).trans h₁)
    hj rfl db post with ⟨job', hj', rfl⟩ | hd
  · exact .inl hj'
  · exact .inr hd

theorem lease_respected_of_run (h : Grants db (execute db pre) op jobId now lease)
    (h' : Grants db (execute db (pre ++ op :: mid)) op' jobId now' lease') :
    lease ≤ now' ∨ DeletedIn db (execute db (pre ++ [op])) mid jobId := by
  obtain ⟨job, hj, hl⟩ := h.leasedUntil
  obtain ⟨job', hj', he⟩ := h'.eligible
  rw [← execute_snoc] at hj
  rcases kept_or_deleted leasedUntil_kept hj hl db mid with ⟨job'', hj'', hl''⟩ | hd
  · rw [← run_after] at hj''
    cases hj''.symm.trans hj'
    exact .inl (hl''.eligible he)
  · exact .inr hd

theorem claims_none_iff (s : ScenarioJobStore F) (uuid : String) (hl : now < lease) :
    (∃ s', s.claimNext db now lease uuid = .ok (none, s')) ↔
      ∀ job ∈ s.jobs.rows, ¬ Eligible now job := by
  simp only [← claimable_iff]
  have hnone : _ ↔ s.claimCandidate db now = none := claimCandidate_eq_none.symm
  rw [hnone, claimNext_of_lt hl]
  cases s.claimCandidate db now with
  | none => simp
  | some job => simp

/-- A claim is granted whenever a job is eligible. -/
theorem claimNext_of_eligible {s : ScenarioJobStore F} (uuid : String) (hl : now < lease)
    (hj : job ∈ s.jobs.rows) (he : Eligible now job) :
    ∃ claim s', s.claimNext db now lease uuid = .ok (some claim, s') := by
  rw [claimNext_of_lt hl]
  cases hc : s.claimCandidate db now with
  | none => exact absurd (claimable_iff.2 he) (by simpa using claimCandidate_eq_none.1 hc job hj)
  | some candidate => exact ⟨_, _, rfl⟩

end Runs

theorem claim_fencing (db : Database) (ops : List (StoreOp F)) (hf : FreshTokens ops) :
    ClaimFencing db ops where
  terminal_by_last_token pre op post jobId _ h := h.presents
  terminal_once pre op mid op' post jobId _ h h' := terminal_once_of_run h h'
  stale_refused jobId token h :=
    ⟨fun _ _ _ => failClaim_of_not_held (h.not_held hf),
      fun _ _ _ => completeClaim_of_not_held (h.not_held hf)⟩
  terminal_unchanged pre post jobId job he hj ht := by
    subst he
    exact terminal_unchanged_of_run hj ht post
  claims_least now lease uuid claim s h := by
    obtain ⟨-, ⟨-, hn, -⟩ | ⟨job, hc, he, -⟩⟩ := claimNext_eq_ok h
    · cases hn
    cases he
    obtain ⟨hm, hp, hl⟩ := claimCandidate_spec hc
    exact ⟨job, hm, rfl, claimable_iff.1 hp, fun other ho he =>
      hl other ho (claimable_iff.2 he)⟩
  claims_granted now lease uuid hl job hj he := claimNext_of_eligible uuid hl hj he
  claims_none now lease uuid hl := claims_none_iff _ uuid hl
  lease_respected pre op mid op' post jobId now lease now' lease' _ h h' :=
    lease_respected_of_run h h'

/-- A worker whose lease lapsed publishes after another one took over. -/
def overtakenRun : List (StoreOp ℚ) := [
  .submit ⟨"tenant", "key", "sha256:0", "pack", "sha256:1", .null, none, none, 0, 100⟩ "job",
  .claimNext 1 10 "first",
  .claimNext 20 30 "second",
  .completeClaim "job" "first" (.int 1) [] 21,
  .completeClaim "job" "second" (.int 2) [] 22]

theorem claim_fencing_overtaken : ClaimFencing .codePoint overtakenRun ∧
    (execute .codePoint overtakenRun).issuedTokens "job" = ["first", "second"] :=
  ⟨claim_fencing .codePoint overtakenRun (by decide), by decide⟩

end LotusRisk
