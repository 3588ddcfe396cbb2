import LotusRisk.ScenarioJobs.ClaimFencing

namespace LotusRisk
open Relational JsonText Fencing ScenarioJobStore
set_option autoImplicit true

/-- The columns a submission writes once. -/
structure JobAdmission where
  tenantId : String
  idempotencyKey : String
  requestFingerprint : String
  scenarioPackId : String
  scenarioPackRevision : String
  immutableRequestJson : String
  submittedAt : Timestamp
  expiresAt : Timestamp

def ScenarioEvaluationJobRecord.admission (job : ScenarioEvaluationJobRecord) : JobAdmission where
  tenantId := job.tenantId
  idempotencyKey := job.idempotencyKey
  requestFingerprint := job.requestFingerprint
  scenarioPackId := job.scenarioPackId
  scenarioPackRevision := job.scenarioPackRevision
  immutableRequestJson := job.immutableRequestJson
  submittedAt := job.submittedAt
  expiresAt := job.expiresAt

/-- The columns of one status; `claims` is the number of claims granted on the job. -/
def StatusColumns (claims : Nat) (job : ScenarioEvaluationJobRecord) : Prop :=
  match job.status with
  | .queued => job.claimToken = none ∧ job.leaseExpiresAt = none ∧ job.resultJson = none ∧
      job.failureCode = none ∧ job.completedAt = none ∧ job.attemptCount = 0
  | .running => job.claimToken.isSome ∧ job.leaseExpiresAt.isSome ∧ job.attemptCount = claims ∧
      1 ≤ job.attemptCount ∧ job.resultJson = none ∧ job.failureCode = none ∧
      job.completedAt = none
  | .succeeded => job.resultJson.isSome ∧ job.completedAt.isSome ∧ job.failureCode = none
  | .failed => job.failureCode.isSome ∧ job.completedAt.isSome ∧ job.resultJson = none

/-- The call publishes the job and its contribution rows. -/
def Completes (db : Database) (σ : System F) (op : StoreOp F) (jobId : String) (aggregate : Json)
    (rows : List (ScenarioEvaluationJobContributionRecord F)) (completedAt : Timestamp) : Prop :=
  ∃ token s, op = .completeClaim jobId token aggregate rows completedAt ∧
    σ.store.completeClaim db jobId token aggregate rows completedAt = .ok (true, s)

/-- The call after `pre` published the job as it still is after `post`. -/
def WonAt (db : Database) (pre : List (StoreOp F)) (op : StoreOp F) (post : List (StoreOp F))
    (jobId : String) (aggregate : Json)
    (rows : List (ScenarioEvaluationJobContributionRecord F)) (completedAt : Timestamp) : Prop :=
  Completes db (execute db pre) op jobId aggregate rows completedAt ∧
    ¬ DeletedIn db (execute db (pre ++ [op])) post jobId

section Phases

theorem held_pos {acts : List (JobAct F)}
    (h : Phase.absent.run acts = some (.held sub token lease n)) : 1 ≤ n := by
  obtain ⟨pre, life, now, -, -, rfl⟩ := run_lived h
  exact Nat.le_add_left 1 _

theorem statusColumns_of_tracks {s : ScenarioJobStore F} (h : Tracks s jobId acts)
    (hj : s.job? jobId = some job) : StatusColumns (grantsInLife acts) job := by
  obtain ⟨p, hp, hr, -⟩ := h
  have hrow := hr.symm.trans hj
  cases p with
  | absent => cases hrow
  | waiting sub =>
    cases hrow
    exact ⟨rfl, rfl, rfl, rfl, rfl, rfl⟩
  | held sub token lease n =>
    cases hrow
    exact ⟨rfl, rfl, (held_grants hp).symm, held_pos hp, rfl, rfl, rfl⟩
  | finished sub token n outcome =>
    cases outcome with
    | succeeded aggregate rows completedAt =>
      cases hrow
      exact ⟨rfl, rfl, rfl⟩
    | failed code detail failedAt =>
      cases hrow
      exact ⟨rfl, rfl, rfl⟩

theorem contributions_of_tracks {s : ScenarioJobStore F} (h : Tracks s jobId acts)
    (hc : s.contributionsOf jobId ≠ []) :
    ∃ job, s.job? jobId = some job ∧ job.status = .succeeded := by
  obtain ⟨p, hp, hr, hk⟩ := h
  rw [hk] at hc
  cases p with
  | absent | waiting | held => exact absurd rfl hc
  | finished sub token n outcome =>
    cases outcome with
    | succeeded aggregate rows completedAt => exact ⟨_, hr, rfl⟩
    | failed code detail failedAt => exact absurd rfl hc

/-- Until a job succeeds, it has no contribution row. -/
theorem contributionsOf_of_not_succeeded {s : ScenarioJobStore F} (h : Tracks s jobId acts)
    (hj : ∀ job, s.job? jobId = some job → job.status ≠ .succeeded) :
    s.contributionsOf jobId = [] := by
  by_contra hc
  obtain ⟨job, hf, hs⟩ := contributions_of_tracks h hc
  exact hj job hf hs

end Phases

section Publication

variable {db : Database} {ops pre mid post : List (StoreOp F)} {op op' : StoreOp F}

theorem DeletedIn.append {σ : System F} (h : DeletedIn db σ mid jobId) (post : List (StoreOp F)) :
    DeletedIn db σ (mid ++ post) jobId := by
  obtain ⟨pre, now, limit, rest, rfl, hs, hn⟩ := h
  exact ⟨pre, now, limit, rest ++ post, by simp, hs, hn⟩

theorem not_deletedIn_nil {σ : System F} : ¬ DeletedIn db σ [] jobId := by
  rintro ⟨pre, now, limit, rest, h, -⟩
  cases pre <;> cases h

theorem deletedIn_snoc_of_kept {σ : System F} (h : DeletedIn db σ (mid ++ [op]) jobId)
    (hj : ((σ.run db (mid ++ [op])).store.job? jobId).isSome) : DeletedIn db σ mid jobId := by
  obtain ⟨pre, now, limit, rest, he, hs, hn⟩ := h
  cases rest using List.reverseRecOn with
  | nil =>
    obtain ⟨rfl, ho⟩ := List.append_inj' he rfl
    rw [List.singleton_inj] at ho
    subst ho
    rw [System.run_append] at hj
    change ((System.perform db _ _).store.job? jobId).isSome at hj
    rw [hn] at hj
    cases hj
  | append_singleton rest last =>
    rw [← List.cons_append, ← List.append_assoc] at he
    obtain ⟨rfl, -⟩ := List.append_inj' he rfl
    exact ⟨pre, now, limit, rest, rfl, hs, hn⟩

theorem Completes.running {σ : System F}
    (h : Completes db σ op jobId aggregate rows completedAt) :
    ∃ job, σ.store.job? jobId = some job ∧ job.terminal = false := by
  obtain ⟨token, s, rfl, hc⟩ := h
  obtain ⟨hd, -⟩ | ⟨-, ⟨job, hf, hs, -⟩, -⟩ := completeClaim_eq_ok hc
  · cases hd
  · exact ⟨job, hf, not_terminal_of_running hs⟩

theorem Completes.succeeded {σ : System F}
    (h : Completes db σ op jobId aggregate rows completedAt) :
    ∃ job, (σ.perform db op).store.job? jobId = some job ∧ job.status = .succeeded ∧
      job.resultJson = some (dumps aggregate) ∧ job.completedAt = some completedAt := by
  obtain ⟨token, s, rfl, hc⟩ := h
  obtain ⟨hd, -⟩ | ⟨-, ⟨job, hf, -⟩, -, hj, -⟩ := completeClaim_eq_ok hc
  · cases hd
  · refine ⟨job.succeededWith (dumps aggregate) completedAt, ?_, rfl, rfl, rfl⟩
    unfold System.perform StoreOp.perform
    dsimp only
    rw [hc]
    exact (hj jobId).trans (by rw [if_pos rfl, hf]; rfl)

/-- A call leaves a succeeded job with its contribution rows, or deletes it, or publishes it. -/
theorem StoreOp.Effect.publication {s : ScenarioJobStore F} {op : StoreOp F}
    {r : ScenarioJobStore F × List (JobEvent F)} (h : op.Effect s r) (ht : Tracks s jobId acts)
    (hj : r.1.job? jobId = some job) (hs : job.status = .succeeded) :
    (s.job? jobId = some job ∧ r.1.contributionsOf jobId = s.contributionsOf jobId) ∨
    ∃ token aggregate completedAt,
      r.2 = [⟨jobId, .finish token
        (.succeeded aggregate (r.1.contributionsOf jobId) completedAt)⟩] ∧
      job.resultJson = some (dumps aggregate) ∧ job.completedAt = some completedAt := by
  cases h with
  | unchanged => exact .inl ⟨hj, rfl⟩
  | admitted sub uuid absent jobs contributions =>
    rw [jobs] at hj
    split at hj
    · cases hj
      cases hs
    · exact .inl ⟨hj, contributions _⟩
  | claimed job' now lease uuid found claimable hl jobs contributions =>
    rw [jobs] at hj
    split at hj
    · cases hj
      cases hs
    · exact .inl ⟨hj, contributions _⟩
  | failed j token code detail failedAt held jobs contributions =>
    rw [jobs] at hj
    split at hj
    · cases hj
      cases hs
    · exact .inl ⟨hj, contributions _⟩
  | succeeded j token aggregate rows completedAt held jobs contributions =>
    rw [jobs] at hj
    split at hj
    · rename_i he
      subst he
      cases hj
      have hn : s.contributionsOf j = [] := by
        apply contributionsOf_of_not_succeeded ht
        intro job' hf hs'
        cases hf.symm.trans held.1
        rw [held.2.1] at hs'
        cases hs'
      have hc := contributions j
      rw [hn, if_pos rfl, List.nil_append] at hc
      exact .inr ⟨token, aggregate, completedAt, by rw [hc], rfl, rfl⟩
    · rename_i he
      have hc := contributions jobId
      rw [if_neg he, List.append_nil] at hc
      exact .inl ⟨hj, hc⟩
  | deleted now limit nodup expired jobs contributions =>
    rw [jobs] at hj
    split at hj
    · cases hj
    · rename_i hm
      have hc := contributions jobId
      rw [if_neg hm] at hc
      exact .inl ⟨hj, hc⟩

/-- Only a `complete_claim` that answered `True` records a success. -/
theorem completes_of_event {σ : System F} {rows : List (ScenarioEvaluationJobContributionRecord F)}
    (h : (op.perform db σ.store).2 =
      [⟨jobId, .finish token (.succeeded aggregate rows completedAt)⟩]) :
    Completes db σ op jobId aggregate rows completedAt := by
  cases op with
  | completeClaim jobId' token' aggregate' rows' completedAt' =>
    unfold StoreOp.perform at h
    dsimp only at h
    cases hc : σ.store.completeClaim db jobId' token' aggregate' rows' completedAt' with
    | error e => rw [hc] at h; cases h
    | ok r =>
      obtain ⟨done, s⟩ := r
      cases done with
      | false => rw [hc] at h; cases h
      | true =>
        rw [hc] at h
        cases h
        exact ⟨token, s, rfl, hc⟩
  | submit sub uuid =>
    have he := StoreOp.effect_submit db σ.store sub uuid
    generalize (StoreOp.submit sub uuid).perform db σ.store = r at h he
    cases he <;> cases h
  | claimNext now lease uuid =>
    have he := StoreOp.effect_claimNext db σ.store now lease uuid
    generalize (StoreOp.claimNext now lease uuid).perform db σ.store = r at h he
    cases he <;> cases h
  | failClaim jobId' token' code detail failedAt =>
    have he := StoreOp.effect_failClaim db σ.store jobId' token' code detail failedAt
    generalize (StoreOp.failClaim jobId' token' code detail failedAt).perform db σ.store = r at h he
    cases he <;> cases h
  | deleteExpired now limit =>
    have he := StoreOp.effect_deleteExpired db σ.store now limit
    generalize (StoreOp.deleteExpired now limit).perform db σ.store = r at h he
    cases he with
    | unchanged => cases h
    | @deleted s' removed _ _ nodup =>
      cases removed with
      | nil => cases h
      | cons j removed => cases h

theorem won_exists (hj : (execute db ops).store.job? jobId = some job)
    (hs : job.status = .succeeded) :
    ∃ pre op post aggregate completedAt, ops = pre ++ op :: post ∧
      WonAt db pre op post jobId aggregate ((execute db ops).store.contributionsOf jobId)
        completedAt ∧
      job.resultJson = some (dumps aggregate) ∧ job.completedAt = some completedAt := by
  induction ops using List.reverseRecOn with
  | nil => cases hj
  | append_singleton ops op ih =>
    rw [execute_snoc] at hj ⊢
    rcases (op.effect_perform db (execute db ops).store).publication (tracks_execute db ops jobId)
      hj hs with ⟨hj', hc⟩ | ⟨token, aggregate, completedAt, he, hr, ht⟩
    · obtain ⟨pre, op', post, aggregate, completedAt, rfl, ⟨hw, hd⟩, hr, ht⟩ := ih hj'
      refine ⟨pre, op', post ++ [op], aggregate, completedAt, by simp, ⟨?_, fun h => hd ?_⟩, hr, ht⟩
      · rw [show ((execute db (pre ++ op' :: post)).perform db op).store.contributionsOf jobId =
          (execute db (pre ++ op' :: post)).store.contributionsOf jobId from hc]
        exact hw
      · apply deletedIn_snoc_of_kept h
        rw [System.run_append, ← run_after]
        change ((System.perform db _ op).store.job? jobId).isSome
        rw [hj]
        rfl
    · exact ⟨ops, op, [], aggregate, completedAt, rfl,
        ⟨completes_of_event he, not_deletedIn_nil⟩, hr, ht⟩

/-- A job that was published and not deleted since is not published again. -/
theorem WonAt.not_before {mid : List (StoreOp F)}
    (h : WonAt db pre op (mid ++ op' :: post) jobId aggregate rows completedAt)
    (h' : Completes db (execute db (pre ++ op :: mid)) op' jobId aggregate' rows' completedAt') :
    False := by
  obtain ⟨hw, hd⟩ := h
  obtain ⟨job, hj, hs, -, -⟩ := hw.succeeded
  obtain ⟨job', hj', ht'⟩ := h'.running
  have ht : job.terminal = true := by
    unfold ScenarioEvaluationJobRecord.terminal
    rw [hs]
    rfl
  rw [← execute_snoc] at hj
  rcases terminal_unchanged_of_run hj ht mid with hk | hk
  · rw [List.append_assoc, List.singleton_append] at hk
    cases hk.symm.trans hj'
    rw [ht] at ht'
    cases ht'
  · exact hd (hk.append _)

theorem WonAt.unique {pre' post' : List (StoreOp F)}
    (h : WonAt db pre op post jobId aggregate rows completedAt)
    (h' : WonAt db pre' op' post' jobId aggregate' rows' completedAt')
    (he : pre ++ op :: post = pre' ++ op' :: post') : pre = pre' := by
  rcases List.append_eq_append_iff.1 he with ⟨mid, hp, hr⟩ | ⟨mid, hp, hr⟩
  · cases mid with
    | nil => rw [hp, List.append_nil]
    | cons first mid =>
      rw [List.cons_append, List.cons.injEq] at hr
      obtain ⟨rfl, rfl⟩ := hr
      subst hp
      exact (h.not_before h'.1).elim
  · cases mid with
    | nil => rw [hp, List.append_nil]
    | cons first mid =>
      rw [List.cons_append, List.cons.injEq] at hr
      obtain ⟨rfl, rfl⟩ := hr
      subst hp
      exact (h'.not_before h.1).elim

end Publication

/-- What the columns of both tables say in a run of the store. -/
structure RowInvariant (db : Database) (ops : List (StoreOp F)) : Prop where
  columns : ∀ jobId job, (execute db ops).store.job? jobId = some job →
    StatusColumns (grantsInLife (actsOf (execute db ops).log jobId)) job
  published : ∀ jobId job, (execute db ops).store.job? jobId = some job →
    job.status = .succeeded →
    ∃ pre op post aggregate completedAt, ops = pre ++ op :: post ∧
      WonAt db pre op post jobId aggregate ((execute db ops).store.contributionsOf jobId)
        completedAt ∧
      job.resultJson = some (dumps aggregate) ∧ job.completedAt = some completedAt
  published_once : ∀ jobId pre op post aggregate rows completedAt pre' op' post' aggregate' rows'
    completedAt', ops = pre ++ op :: post → ops = pre' ++ op' :: post' →
    WonAt db pre op post jobId aggregate rows completedAt →
    WonAt db pre' op' post' jobId aggregate' rows' completedAt' → pre = pre'
  no_orphans : ∀ row ∈ (execute db ops).store.contributions.rows,
    ∃ job, (execute db ops).store.job? row.jobId = some job ∧ job.status = .succeeded
  admission_kept : ∀ pre post jobId job, ops = pre ++ post →
    (execute db pre).store.job? jobId = some job →
    (∃ job', (execute db ops).store.job? jobId = some job' ∧ job'.admission = job.admission) ∨
      DeletedIn db (execute db pre) post jobId
  deletion_bounded : ∀ now limit n s,
    (execute db ops).store.deleteExpired db now limit = .ok (n, s) →
    ∃ removed : List String, removed.Nodup ∧ removed.length = n ∧ (n : Int) ≤ limit ∧
      (∀ jobId ∈ removed, ∃ job, (execute db ops).store.job? jobId = some job ∧
        job.expiresAt ≤ now) ∧
      s.jobs.rows = (execute db ops).store.jobs.rows.filter (fun job => job.jobId ∉ removed) ∧
      s.contributions.rows =
        (execute db ops).store.contributions.rows.filter (fun row => row.jobId ∉ removed)

section Cleanup

theorem admission_kept_of_run {pre : List (StoreOp F)}
    (hj : (execute db pre).store.job? jobId = some job) (post : List (StoreOp F)) :
    (∃ job', (execute db (pre ++ post)).store.job? jobId = some job' ∧
      job'.admission = job.admission) ∨ DeletedIn db (execute db pre) post jobId := by
  rw [execute_append]
  apply kept_or_deleted (P := fun job' => job'.admission = job.admission) _ hj rfl
  intro op job₁ job₂ he h₁
  cases he <;> exact h₁

theorem deletion_bounded_of_store {s s' : ScenarioJobStore F}
    (h : s.deleteExpired db now limit = .ok (n, s')) :
    ∃ removed : List String, removed.Nodup ∧ removed.length = n ∧ (n : Int) ≤ limit ∧
      (∀ jobId ∈ removed, ∃ job, s.job? jobId = some job ∧ job.expiresAt ≤ now) ∧
      s'.jobs.rows = s.jobs.rows.filter (fun job => job.jobId ∉ removed) ∧
      s'.contributions.rows = s.contributions.rows.filter (fun row => row.jobId ∉ removed) := by
  obtain ⟨hl, hn, hs⟩ := deleteExpired_eq_ok h
  have hle := length_expiredJobIds_le db s now limit.toNat
  refine ⟨s.expiredJobIds db now limit.toNat, expiredJobIds_nodup db s now limit.toNat, hn.symm,
    by omega, fun j hj => mem_expiredJobIds hj, ?_⟩
  rcases hs with ⟨he, rfl⟩ | rfl
  · rw [he]
    simp
  · constructor
    · unfold deleteJobs Table.deleteWhere
      simp
    · unfold deleteJobs Table.deleteWhere
      simp

end Cleanup

theorem row_invariant (db : Database) (ops : List (StoreOp F)) : RowInvariant db ops where
  columns jobId job hj := statusColumns_of_tracks (tracks_execute db ops jobId) hj
  published jobId job hj hs := won_exists hj hs
  published_once jobId pre op post aggregate rows completedAt pre' op' post' aggregate' rows'
      completedAt' he he' h h' := h.unique h' (he.symm.trans he')
  no_orphans row hr := by
    apply contributions_of_tracks (tracks_execute db ops row.jobId)
    exact List.ne_nil_of_mem (mem_contributionsOf.2 ⟨hr, rfl⟩)
  admission_kept pre post jobId job he hj := by
    subst he
    exact admission_kept_of_run hj post
  deletion_bounded now limit n s h := deletion_bounded_of_store h

end LotusRisk
