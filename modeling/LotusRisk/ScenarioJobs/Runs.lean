import LotusRisk.Lib.Fencing
import LotusRisk.ScenarioJobs.StoreSpec

/-! Runs of the store under any number of callers, and the history each job had in them. -/

namespace LotusRisk
open Relational JsonText Fencing
set_option autoImplicit true

/-- What a terminal operation publishes. -/
inductive JobOutcome (F : Type) where
  | succeeded (aggregateResult : Json)
      (contributions : List (ScenarioEvaluationJobContributionRecord F)) (completedAt : Timestamp)
  | failed (failureCode failureDetail : String) (failedAt : Timestamp)

abbrev JobAct (F : Type) := Act JobSubmission String Timestamp (JobOutcome F)

abbrev JobPhase (F : Type) := Phase JobSubmission String Timestamp (JobOutcome F)

/-- A record that one job was admitted, claimed, finished or deleted. -/
structure JobEvent (F : Type) where
  jobId : String
  act : JobAct F

/-- A call of a mutating store operation, with the `uuid4` it draws. -/
inductive StoreOp (F : Type) where
  | submit (sub : JobSubmission) (uuid : String)
  | claimNext (now leaseExpiresAt : Timestamp) (uuid : String)
  | failClaim (jobId claimToken failureCode failureDetail : String) (failedAt : Timestamp)
  | completeClaim (jobId claimToken : String) (aggregateResult : Json)
      (contributions : List (ScenarioEvaluationJobContributionRecord F)) (completedAt : Timestamp)
  | deleteExpired (now : Timestamp) (limit : Int)

def StoreOp.claimUuid? : StoreOp F → Option String
  | .claimNext _ _ uuid => some uuid
  | _ => none

/-- The jobs of the first store that the second no longer has. -/
def removedJobs (s s' : ScenarioJobStore F) : List String :=
  (s.jobs.rows.map (·.jobId)).filter (fun jobId => (s'.job? jobId).isNone)

/-- The store a call leaves, and what its answer says it did. A call that raises is rolled back. -/
def StoreOp.perform (db : Database) (s : ScenarioJobStore F) :
    StoreOp F → ScenarioJobStore F × List (JobEvent F)
  | .submit sub uuid =>
    match s.submit db sub uuid with
    | .ok ((job, true), s') => (s', [⟨job.jobId, .enter sub⟩])
    | .ok ((_, false), s') => (s', [])
    | .error _ => (s, [])
  | .claimNext now leaseExpiresAt uuid =>
    match s.claimNext db now leaseExpiresAt uuid with
    | .ok (some job, s') => (s', [⟨job.jobId, .grant uuid now leaseExpiresAt⟩])
    | .ok (none, s') => (s', [])
    | .error _ => (s, [])
  | .failClaim jobId claimToken failureCode failureDetail failedAt =>
    match s.failClaim db jobId claimToken failureCode failureDetail failedAt with
    | .ok (true, s') =>
      (s', [⟨jobId, .finish claimToken (.failed failureCode failureDetail failedAt)⟩])
    | .ok (false, s') => (s', [])
    | .error _ => (s, [])
  | .completeClaim jobId claimToken aggregateResult contributions completedAt =>
    match s.completeClaim db jobId claimToken aggregateResult contributions completedAt with
    | .ok (true, s') =>
      (s', [⟨jobId, .finish claimToken (.succeeded aggregateResult contributions completedAt)⟩])
    | .ok (false, s') => (s', [])
    | .error _ => (s, [])
  | .deleteExpired now limit =>
    match s.deleteExpired db now limit with
    | .ok (_, s') => (s', (removedJobs s s').map (⟨·, .close⟩))
    | .error _ => (s, [])

/-- The store together with the history of its jobs. -/
structure System (F : Type) where
  store : ScenarioJobStore F
  log : List (JobEvent F)

def System.init : System F := ⟨.empty, []⟩

def System.perform (db : Database) (σ : System F) (op : StoreOp F) : System F :=
  ⟨(op.perform db σ.store).1, σ.log ++ (op.perform db σ.store).2⟩

def System.run (db : Database) (σ : System F) (ops : List (StoreOp F)) : System F :=
  ops.foldl (System.perform db) σ

/-- The transactions of any number of callers, in the order the store serializes them. -/
def execute (db : Database) (ops : List (StoreOp F)) : System F := System.init.run db ops

/-- Claim tokens are `uuid4` texts, so no two claims draw the same one. -/
def FreshTokens (ops : List (StoreOp F)) : Prop := (ops.filterMap StoreOp.claimUuid?).Nodup

instance (ops : List (StoreOp F)) : Decidable (FreshTokens ops) :=
  inferInstanceAs (Decidable (List.Nodup _))

def actsOf (log : List (JobEvent F)) (jobId : String) : List (JobAct F) :=
  log.filterMap (fun e => if e.jobId = jobId then some e.act else none)

/-- The claim tokens issued for a job, oldest first. -/
def System.issuedTokens (σ : System F) (jobId : String) : List String :=
  grantTokens (actsOf σ.log jobId)

section Histories

@[simp] theorem actsOf_nil (jobId : String) : actsOf ([] : List (JobEvent F)) jobId = [] := rfl

@[simp] theorem actsOf_append (xs ys : List (JobEvent F)) (jobId : String) :
    actsOf (xs ++ ys) jobId = actsOf xs jobId ++ actsOf ys jobId :=
  List.filterMap_append

@[simp] theorem actsOf_singleton (j jobId : String) (act : JobAct F) :
    actsOf [⟨j, act⟩] jobId = if j = jobId then [act] else [] := by
  unfold actsOf
  by_cases h : j = jobId <;> simp [h]

theorem actsOf_close {jobIds : List String} (hn : jobIds.Nodup) (jobId : String) :
    actsOf (jobIds.map (fun j => (⟨j, .close⟩ : JobEvent F))) jobId =
      if jobId ∈ jobIds then [.close] else [] := by
  induction jobIds with
  | nil => rfl
  | cons j jobIds ih =>
    obtain ⟨hj, hn⟩ := List.nodup_cons.1 hn
    rw [List.map_cons, ← List.singleton_append, actsOf_append, actsOf_singleton, ih hn]
    by_cases he : j = jobId
    · subst he
      simp [hj]
    · have he' : ¬ jobId = j := fun h => he h.symm
      simp [he, he']

theorem System.run_append (db : Database) (σ : System F) (xs ys : List (StoreOp F)) :
    σ.run db (xs ++ ys) = (σ.run db xs).run db ys :=
  List.foldl_append

theorem execute_append (db : Database) (xs ys : List (StoreOp F)) :
    execute db (xs ++ ys) = (execute db xs).run db ys :=
  System.run_append db _ xs ys

theorem execute_snoc (db : Database) (ops : List (StoreOp F)) (op : StoreOp F) :
    execute db (ops ++ [op]) = (execute db ops).perform db op :=
  execute_append db ops [op]

/-- The history of a run extends the history of every earlier point of it. -/
theorem System.log_run (db : Database) (σ : System F) (ops : List (StoreOp F)) :
    ∃ log, (σ.run db ops).log = σ.log ++ log := by
  induction ops generalizing σ with
  | nil => exact ⟨[], by simp [System.run]⟩
  | cons op ops ih =>
    obtain ⟨log, h⟩ := ih (σ.perform db op)
    refine ⟨(op.perform db σ.store).2 ++ log, ?_⟩
    rw [← List.append_assoc]
    exact h

theorem removedJobs_nodup (s s' : ScenarioJobStore F) : (removedJobs s s').Nodup :=
  s.jobs.unique.filter _

theorem mem_removedJobs {s s' : ScenarioJobStore F} :
    jobId ∈ removedJobs s s' ↔ (s.job? jobId).isSome ∧ s'.job? jobId = none := by
  unfold removedJobs
  rw [List.mem_filter, ← Table.find?_isSome, Option.isNone_iff_eq_none]
  rfl

theorem removedJobs_self (s : ScenarioJobStore F) : removedJobs s s = [] := by
  apply List.eq_nil_iff_forall_not_mem.2
  intro jobId h
  obtain ⟨hs, hn⟩ := mem_removedJobs.1 h
  rw [hn] at hs
  cases hs

end Histories

section Effects

open ScenarioJobStore

/-- What a call can do to the two tables, with the history it records. -/
inductive StoreOp.Effect (s : ScenarioJobStore F) :
    StoreOp F → ScenarioJobStore F × List (JobEvent F) → Prop where
  | unchanged (op : StoreOp F) : Effect s op (s, [])
  | admitted {s' : ScenarioJobStore F} (sub : JobSubmission) (uuid : String)
      (absent : s.job? uuid = none)
      (jobs : ∀ j, s'.job? j = if uuid = j then some (sub.candidate uuid) else s.job? j)
      (contributions : ∀ j, s'.contributionsOf j = s.contributionsOf j) :
      Effect s (.submit sub uuid) (s', [⟨uuid, .enter sub⟩])
  | claimed {s' : ScenarioJobStore F} (job : ScenarioEvaluationJobRecord)
      (now leaseExpiresAt : Timestamp) (uuid : String)
      (found : s.job? job.jobId = some job) (claimable : job.claimable now = true)
      (lease : now < leaseExpiresAt)
      (jobs : ∀ j, s'.job? j =
        if job.jobId = j then some (job.claimed uuid leaseExpiresAt) else s.job? j)
      (contributions : ∀ j, s'.contributionsOf j = s.contributionsOf j) :
      Effect s (.claimNext now leaseExpiresAt uuid)
        (s', [⟨job.jobId, .grant uuid now leaseExpiresAt⟩])
  | failed {s' : ScenarioJobStore F} {job : ScenarioEvaluationJobRecord}
      (jobId token code detail : String) (failedAt : Timestamp)
      (held : s.Held jobId token job)
      (jobs : ∀ j, s'.job? j =
        if jobId = j then some (job.failedWith code detail failedAt) else s.job? j)
      (contributions : ∀ j, s'.contributionsOf j = s.contributionsOf j) :
      Effect s (.failClaim jobId token code detail failedAt)
        (s', [⟨jobId, .finish token (.failed code detail failedAt)⟩])
  | succeeded {s' : ScenarioJobStore F} {job : ScenarioEvaluationJobRecord}
      (jobId token : String) (aggregate : Json)
      (rows : List (ScenarioEvaluationJobContributionRecord F)) (completedAt : Timestamp)
      (held : s.Held jobId token job)
      (jobs : ∀ j, s'.job? j =
        if jobId = j then some (job.succeededWith (dumps aggregate) completedAt) else s.job? j)
      (contributions : ∀ j, s'.contributionsOf j =
        s.contributionsOf j ++ if jobId = j then rows else []) :
      Effect s (.completeClaim jobId token aggregate rows completedAt)
        (s', [⟨jobId, .finish token (.succeeded aggregate rows completedAt)⟩])
  | deleted {s' : ScenarioJobStore F} {removed : List String} (now : Timestamp) (limit : Int)
      (nodup : removed.Nodup)
      (expired : ∀ j ∈ removed, ∃ job, s.job? j = some job ∧ job.expiresAt ≤ now)
      (jobs : ∀ j, s'.job? j = if j ∈ removed then none else s.job? j)
      (contributions : ∀ j, s'.contributionsOf j = if j ∈ removed then [] else s.contributionsOf j) :
      Effect s (.deleteExpired now limit) (s', removed.map (⟨·, .close⟩))

theorem StoreOp.effect_submit (db : Database) (s : ScenarioJobStore F) (sub : JobSubmission)
    (uuid : String) :
    Effect s (.submit sub uuid) ((StoreOp.submit sub uuid).perform db s) := by
  unfold StoreOp.perform
  dsimp only
  rcases submit_cases db s sub uuid with ⟨s', h, hi⟩ | ⟨job, h, -⟩ | ⟨e, h⟩
  · rw [h]
    obtain ⟨-, -, hn, -, hc, hj⟩ := insertCandidate_eq_ok hi
    exact .admitted sub uuid hn hj (fun j => by unfold contributionsOf; rw [hc])
  · rw [h]
    exact .unchanged _
  · rw [h]
    exact .unchanged _

theorem StoreOp.effect_claimNext (db : Database) (s : ScenarioJobStore F)
    (now leaseExpiresAt : Timestamp) (uuid : String) :
    Effect s (.claimNext now leaseExpiresAt uuid)
      ((StoreOp.claimNext now leaseExpiresAt uuid).perform db s) := by
  unfold StoreOp.perform
  dsimp only
  cases h : s.claimNext db now leaseExpiresAt uuid with
  | error e => exact .unchanged _
  | ok r =>
    obtain ⟨claim, s'⟩ := r
    obtain ⟨hl, ⟨-, rfl, rfl⟩ | ⟨job, hc, rfl, rfl⟩⟩ := claimNext_eq_ok h
    · exact .unchanged _
    · obtain ⟨hm, hp, -⟩ := claimCandidate_spec hc
      have hf : s.job? job.jobId = some job := job?_eq_some.2 ⟨hm, rfl⟩
      exact .claimed job now leaseExpiresAt uuid hf hp hl
        (job?_updateJob_of_found hf _ _ _) (fun _ => rfl)

theorem StoreOp.effect_failClaim (db : Database) (s : ScenarioJobStore F)
    (jobId token code detail : String) (failedAt : Timestamp) :
    Effect s (.failClaim jobId token code detail failedAt)
      ((StoreOp.failClaim jobId token code detail failedAt).perform db s) := by
  unfold StoreOp.perform
  dsimp only
  cases h : s.failClaim db jobId token code detail failedAt with
  | error e => exact .unchanged _
  | ok r =>
    obtain ⟨done, s'⟩ := r
    obtain ⟨rfl, rfl, -⟩ | ⟨rfl, ⟨job, hh⟩, rfl⟩ := failClaim_eq_ok h
    · exact .unchanged _
    · exact .failed jobId token code detail failedAt hh (job?_updateJob_of_found hh.1 _ _ _)
        (fun _ => rfl)

theorem StoreOp.effect_completeClaim (db : Database) (s : ScenarioJobStore F)
    (jobId token : String) (aggregate : Json)
    (rows : List (ScenarioEvaluationJobContributionRecord F)) (completedAt : Timestamp) :
    Effect s (.completeClaim jobId token aggregate rows completedAt)
      ((StoreOp.completeClaim jobId token aggregate rows completedAt).perform db s) := by
  unfold StoreOp.perform
  dsimp only
  cases h : s.completeClaim db jobId token aggregate rows completedAt with
  | error e => exact .unchanged _
  | ok r =>
    obtain ⟨done, s'⟩ := r
    obtain ⟨rfl, rfl, -⟩ | ⟨rfl, ⟨job, hh⟩, -, hj, hc⟩ := completeClaim_eq_ok h
    · exact .unchanged _
    · refine .succeeded jobId token aggregate rows completedAt hh (fun j => ?_) hc
      rw [hj]
      split
      · rename_i he
        rw [← he, hh.1, Option.map_some]
      · rfl

theorem StoreOp.effect_deleteExpired (db : Database) (s : ScenarioJobStore F) (now : Timestamp)
    (limit : Int) :
    Effect s (.deleteExpired now limit) ((StoreOp.deleteExpired now limit).perform db s) := by
  unfold StoreOp.perform
  dsimp only
  cases h : s.deleteExpired db now limit with
  | error e => exact .unchanged _
  | ok r =>
    obtain ⟨n, s'⟩ := r
    obtain ⟨-, -, ⟨-, rfl⟩ | rfl⟩ := deleteExpired_eq_ok h
    · simp only [removedJobs_self]
      exact .unchanged _
    · have hm (j : String) :
          j ∈ removedJobs s (s.deleteJobs (s.expiredJobIds db now limit.toNat)) ↔
            j ∈ s.expiredJobIds db now limit.toNat := by
        rw [mem_removedJobs, job?_deleteJobs]
        constructor
        · rintro ⟨hs, hn⟩
          by_contra hj
          rw [if_neg hj] at hn
          rw [hn] at hs
          cases hs
        · intro hj
          obtain ⟨job, hf, -⟩ := mem_expiredJobIds hj
          rw [if_pos hj, hf]
          exact ⟨rfl, rfl⟩
      refine .deleted now limit (removedJobs_nodup _ _)
        (fun j hj => mem_expiredJobIds ((hm j).1 hj)) (fun j => ?_) (fun j => ?_)
      · simp only [job?_deleteJobs, hm]
      · simp only [contributionsOf_deleteJobs, hm]

theorem StoreOp.effect_perform (db : Database) (s : ScenarioJobStore F) (op : StoreOp F) :
    op.Effect s (op.perform db s) := by
  cases op with
  | submit sub uuid => exact effect_submit db s sub uuid
  | claimNext now lease uuid => exact effect_claimNext db s now lease uuid
  | failClaim jobId token code detail failedAt =>
    exact effect_failClaim db s jobId token code detail failedAt
  | completeClaim jobId token aggregate rows completedAt =>
    exact effect_completeClaim db s jobId token aggregate rows completedAt
  | deleteExpired now limit => exact effect_deleteExpired db s now limit

/-- What a call can do to a job that is there. -/
inductive StoreOp.RowEffect (job : ScenarioEvaluationJobRecord) :
    StoreOp F → Option ScenarioEvaluationJobRecord → Prop where
  | kept (op : StoreOp F) : RowEffect job op (some job)
  | claimed (now leaseExpiresAt : Timestamp) (uuid : String) (claimable : job.claimable now = true)
      (lease : now < leaseExpiresAt) :
      RowEffect job (.claimNext now leaseExpiresAt uuid) (some (job.claimed uuid leaseExpiresAt))
  | failed (token code detail : String) (failedAt : Timestamp) (held : job.heldBy token = true) :
      RowEffect job (.failClaim job.jobId token code detail failedAt)
        (some (job.failedWith code detail failedAt))
  | succeeded (token : String) (aggregate : Json)
      (rows : List (ScenarioEvaluationJobContributionRecord F)) (completedAt : Timestamp)
      (held : job.heldBy token = true) :
      RowEffect job (.completeClaim job.jobId token aggregate rows completedAt)
        (some (job.succeededWith (dumps aggregate) completedAt))
  | deleted (now : Timestamp) (limit : Int) (expired : job.expiresAt ≤ now) :
      RowEffect job (.deleteExpired now limit) none

theorem StoreOp.Effect.row {s : ScenarioJobStore F} {op : StoreOp F}
    {r : ScenarioJobStore F × List (JobEvent F)} (h : op.Effect s r)
    (hj : s.job? jobId = some job) : op.RowEffect job (r.1.job? jobId) := by
  have hid : job.jobId = jobId := (job?_eq_some.1 hj).2
  cases h with
  | unchanged =>
    rw [hj]
    exact .kept _
  | admitted sub uuid absent jobs contributions =>
    rw [jobs, if_neg (fun he => by rw [he, hj] at absent; cases absent), hj]
    exact .kept _
  | claimed job' now lease uuid found claimable hl jobs contributions =>
    rw [jobs]
    split
    · rename_i he
      cases found.symm.trans (he ▸ hj)
      exact .claimed now lease uuid claimable hl
    · rw [hj]
      exact .kept _
  | failed j token code detail failedAt held jobs contributions =>
    obtain ⟨found, hs, ht⟩ := held
    rw [jobs]
    split
    · rename_i he
      cases found.symm.trans (he ▸ hj)
      rw [he, ← hid]
      exact .failed token code detail failedAt (by simp [ScenarioEvaluationJobRecord.heldBy, hs, ht])
    · rw [hj]
      exact .kept _
  | succeeded j token aggregate rows completedAt held jobs contributions =>
    obtain ⟨found, hs, ht⟩ := held
    rw [jobs]
    split
    · rename_i he
      cases found.symm.trans (he ▸ hj)
      rw [he, ← hid]
      exact .succeeded token aggregate rows completedAt
        (by simp [ScenarioEvaluationJobRecord.heldBy, hs, ht])
    · rw [hj]
      exact .kept _
  | deleted now limit nodup expired jobs contributions =>
    rw [jobs]
    split
    · rename_i hm
      obtain ⟨job', hj', he⟩ := expired _ hm
      cases hj'.symm.trans hj
      exact .deleted now limit he
    · rw [hj]
      exact .kept _

end Effects

section Tokens

/-- One call issues at most the token it drew. -/
theorem StoreOp.Effect.tokens {s : ScenarioJobStore F} {op : StoreOp F}
    {r : ScenarioJobStore F × List (JobEvent F)} (h : op.Effect s r) (jobId : String) :
    (grantTokens (actsOf r.2 jobId)).Sublist op.claimUuid?.toList := by
  cases h with
  | unchanged => exact List.nil_sublist _
  | claimed job now lease uuid =>
    rw [actsOf_singleton]
    split
    · exact List.Sublist.refl _
    · exact List.nil_sublist _
  | admitted | failed | succeeded =>
    rw [actsOf_singleton]
    split <;> exact List.nil_sublist _
  | deleted now limit hn =>
    rw [actsOf_close hn]
    split <;> exact List.nil_sublist _

theorem issuedTokens_sublist (db : Database) (ops : List (StoreOp F)) (jobId : String) :
    ((execute db ops).issuedTokens jobId).Sublist (ops.filterMap StoreOp.claimUuid?) := by
  induction ops using List.reverseRecOn with
  | nil => exact List.nil_sublist _
  | append_singleton ops op ih =>
    rw [execute_snoc, List.filterMap_append]
    unfold System.issuedTokens System.perform
    rw [actsOf_append, grantTokens_append]
    apply ih.append
    have hs := (op.effect_perform db (execute db ops).store).tokens jobId
    cases op <;> exact hs

/-- Distinct `uuid4` texts are distinct claim tokens of every job. -/
theorem issuedTokens_nodup {ops : List (StoreOp F)} (h : FreshTokens ops) (db : Database)
    (jobId : String) : ((execute db ops).issuedTokens jobId).Nodup :=
  h.sublist (issuedTokens_sublist db ops jobId)

end Tokens

end LotusRisk
