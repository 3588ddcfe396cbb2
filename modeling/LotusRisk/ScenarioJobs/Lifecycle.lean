import LotusRisk.ScenarioJobs.Runs

/-! The rows of a job are what its history says: the two tables refine one fenced life per job. -/

namespace LotusRisk
open Relational JsonText Fencing ScenarioJobStore
set_option autoImplicit true

/-- The job row at a point of its life. -/
def rowOf (jobId : String) : JobPhase F → Option ScenarioEvaluationJobRecord
  | .absent => none
  | .waiting sub => some (sub.candidate jobId)
  | .held sub token lease n => some { sub.candidate jobId with
      status := .running
      claimToken := some token
      leaseExpiresAt := some lease
      attemptCount := n }
  | .finished sub token n (.succeeded aggregate _ completedAt) => some { sub.candidate jobId with
      status := .succeeded
      claimToken := some token
      leaseExpiresAt := some completedAt
      attemptCount := n
      resultJson := some (dumps aggregate)
      completedAt := some completedAt }
  | .finished sub token n (.failed code detail failedAt) => some { sub.candidate jobId with
      status := .failed
      claimToken := some token
      leaseExpiresAt := some failedAt
      attemptCount := n
      failureCode := some code
      failureDetail := some detail
      completedAt := some failedAt }

/-- The contribution rows of the job at a point of its life. -/
def contributionsIn : JobPhase F → List (ScenarioEvaluationJobContributionRecord F)
  | .finished _ _ _ (.succeeded _ contributions _) => contributions
  | _ => []

theorem rowOf_eq_none {p : JobPhase F} (h : rowOf jobId p = none) : p = .absent := by
  cases p with
  | absent => rfl
  | waiting | held => cases h
  | finished a token n outcome => cases outcome <;> cases h

theorem rowOf_claimable {p : JobPhase F} (h : rowOf jobId p = some job)
    (hc : job.claimable now = true) (uuid : String) (leaseExpiresAt : Timestamp) :
    ∃ q, p.step (.grant uuid now leaseExpiresAt) = some q ∧
      rowOf jobId q = some (job.claimed uuid leaseExpiresAt) ∧
      contributionsIn q = contributionsIn p := by
  cases p with
  | absent => cases h
  | waiting sub =>
    cases h
    exact ⟨_, rfl, rfl, rfl⟩
  | held sub token lease n =>
    cases h
    have hl : lease ≤ now := by
      unfold ScenarioEvaluationJobRecord.claimable at hc
      simp only [reduceCtorEq, decide_false, decide_true, Bool.false_or, Bool.true_and,
        Option.any_some, Bool.and_eq_true, decide_eq_true_eq] at hc
      exact hc.1
    exact ⟨.held sub uuid leaseExpiresAt (n + 1), if_pos hl, rfl, rfl⟩
  | finished sub token n outcome =>
    cases outcome <;> (cases h; simp [ScenarioEvaluationJobRecord.claimable] at hc)

theorem rowOf_running {p : JobPhase F} (h : rowOf jobId p = some job)
    (hs : job.status = .running) (ht : job.claimToken = some token) :
    ∃ sub lease n, p = .held sub token lease n ∧ job.leaseExpiresAt = some lease ∧
      job.attemptCount = n := by
  cases p with
  | absent => cases h
  | waiting sub =>
    cases h
    cases hs
  | held sub token' lease n =>
    cases h
    cases ht
    exact ⟨sub, lease, n, rfl, rfl, rfl⟩
  | finished sub token' n outcome =>
    cases outcome <;> (cases h; cases hs)

/-- The rows of one job are those of the phase its history leads to. -/
def Tracks (s : ScenarioJobStore F) (jobId : String) (acts : List (JobAct F)) : Prop :=
  ∃ p : JobPhase F, Phase.absent.run acts = some p ∧ s.job? jobId = rowOf jobId p ∧
    s.contributionsOf jobId = contributionsIn p

theorem Tracks.of_same {s s' : ScenarioJobStore F} (h : Tracks s jobId acts)
    (hj : s'.job? jobId = s.job? jobId)
    (hc : s'.contributionsOf jobId = s.contributionsOf jobId) : Tracks s' jobId (acts ++ []) := by
  obtain ⟨p, hp, hr, hk⟩ := h
  rw [List.append_nil]
  exact ⟨p, hp, hj.trans hr, hc.trans hk⟩

theorem Tracks.of_step {s' : ScenarioJobStore F} {p q : JobPhase F} {acts : List (JobAct F)}
    {act : JobAct F} (hp : Phase.absent.run acts = some p) (hs : p.step act = some q)
    (hj : s'.job? jobId = rowOf jobId q) (hc : s'.contributionsOf jobId = contributionsIn q) :
    Tracks s' jobId (acts ++ [act]) :=
  ⟨q, (Phase.run_snoc hp act).trans hs, hj, hc⟩

theorem Tracks.effect {s : ScenarioJobStore F} {op : StoreOp F}
    {r : ScenarioJobStore F × List (JobEvent F)} (h : op.Effect s r)
    (ht : Tracks s jobId acts) : Tracks r.1 jobId (acts ++ actsOf r.2 jobId) := by
  cases h with
  | unchanged => exact ht.of_same rfl rfl
  | admitted sub uuid absent jobs contributions =>
    rw [actsOf_singleton]
    split
    · rename_i he
      subst he
      obtain ⟨p, hp, hr, hk⟩ := ht
      cases rowOf_eq_none (hr.symm.trans absent)
      refine Tracks.of_step hp rfl ?_ ?_
      · rw [jobs, if_pos rfl]
        rfl
      · exact (contributions _).trans hk
    · rename_i he
      exact ht.of_same (by rw [jobs, if_neg he]) (contributions _)
  | claimed job now lease uuid found claimable hl jobs contributions =>
    rw [actsOf_singleton]
    split
    · rename_i he
      subst he
      obtain ⟨p, hp, hr, hk⟩ := ht
      obtain ⟨q, hs, hq, hc⟩ := rowOf_claimable (hr.symm.trans found) claimable uuid lease
      refine Tracks.of_step hp hs ?_ ?_
      · rw [jobs, if_pos rfl]
        exact hq.symm
      · exact (contributions _).trans (hk.trans hc.symm)
    · rename_i he
      exact ht.of_same (by rw [jobs, if_neg he]) (contributions _)
  | failed j token code detail failedAt held jobs contributions =>
    rw [actsOf_singleton]
    split
    · rename_i he
      subst he
      obtain ⟨p, hp, hr, hk⟩ := ht
      obtain ⟨found, hs, htok⟩ := held
      have hrow := hr.symm.trans found
      obtain ⟨sub, lease, n, rfl, -, -⟩ := rowOf_running hrow hs htok
      refine Tracks.of_step hp (if_pos rfl) ?_ ?_
      · rw [jobs, if_pos rfl]
        cases hrow
        rfl
      · exact (contributions _).trans hk
    · rename_i he
      exact ht.of_same (by rw [jobs, if_neg he]) (contributions _)
  | succeeded j token aggregate rows completedAt held jobs contributions =>
    rw [actsOf_singleton]
    split
    · rename_i he
      subst he
      obtain ⟨p, hp, hr, hk⟩ := ht
      obtain ⟨found, hs, htok⟩ := held
      have hrow := hr.symm.trans found
      obtain ⟨sub, lease, n, rfl, -, -⟩ := rowOf_running hrow hs htok
      refine Tracks.of_step hp (if_pos rfl) ?_ ?_
      · rw [jobs, if_pos rfl]
        cases hrow
        rfl
      · rw [contributions, if_pos rfl, hk]
        rfl
    · rename_i he
      refine ht.of_same (by rw [jobs, if_neg he]) ?_
      rw [contributions, if_neg he, List.append_nil]
  | deleted now limit nodup expired jobs contributions =>
    rw [actsOf_close nodup]
    split
    · rename_i hm
      obtain ⟨p, hp, hr, hk⟩ := ht
      obtain ⟨job, hj, -⟩ := expired _ hm
      have hs : p.step .close = some .absent := by
        cases p with
        | absent => cases hr.symm.trans hj
        | waiting | held | finished => rfl
      refine Tracks.of_step hp hs ?_ ?_
      · rw [jobs, if_pos hm]
        rfl
      · rw [contributions, if_pos hm]
        rfl
    · rename_i hm
      exact ht.of_same (by rw [jobs, if_neg hm]) (by rw [contributions, if_neg hm])

theorem tracks_run {σ : System F} (h : Tracks σ.store jobId (actsOf σ.log jobId))
    (db : Database) (ops : List (StoreOp F)) :
    Tracks (σ.run db ops).store jobId (actsOf (σ.run db ops).log jobId) := by
  induction ops generalizing σ with
  | nil => exact h
  | cons op ops ih =>
    apply ih
    have he := Tracks.effect (op.effect_perform db σ.store) h
    rw [← actsOf_append] at he
    exact he

/-- In every run, every job is where its history leads. -/
theorem tracks_execute (db : Database) (ops : List (StoreOp F)) (jobId : String) :
    Tracks (execute db ops).store jobId (actsOf (execute db ops).log jobId) :=
  tracks_run (σ := System.init) ⟨.absent, rfl, rfl, rfl⟩ db ops

section Deletion

/-- Some call among `more` deletes the job, which is there until then. -/
def DeletedIn (db : Database) (σ : System F) (more : List (StoreOp F)) (jobId : String) : Prop :=
  ∃ pre now limit post, more = pre ++ .deleteExpired now limit :: post ∧
    ((σ.run db pre).store.job? jobId).isSome ∧
    ((σ.run db pre).perform db (.deleteExpired now limit)).store.job? jobId = none

theorem DeletedIn.cons {σ : System F} {op : StoreOp F}
    (h : DeletedIn db (σ.perform db op) more jobId) : DeletedIn db σ (op :: more) jobId := by
  obtain ⟨pre, now, limit, post, rfl, hs, hn⟩ := h
  exact ⟨op :: pre, now, limit, post, rfl, hs, hn⟩

/-- What every call but a deletion preserves of a job's row holds until the job is deleted. -/
theorem kept_or_deleted {P : ScenarioEvaluationJobRecord → Prop}
    (step : ∀ (op : StoreOp F) job job', op.RowEffect job (some job') → P job → P job')
    {σ : System F} (hj : σ.store.job? jobId = some job) (hp : P job) (db : Database)
    (more : List (StoreOp F)) :
    (∃ job', (σ.run db more).store.job? jobId = some job' ∧ P job') ∨
      DeletedIn db σ more jobId := by
  induction more generalizing σ job with
  | nil => exact .inl ⟨job, hj, hp⟩
  | cons op more ih =>
    have he := (op.effect_perform db σ.store).row hj
    cases hr : (op.perform db σ.store).1.job? jobId with
    | some job' =>
      rw [hr] at he
      rcases ih (σ := σ.perform db op) hr (step op job job' he hp) with h | h
      · exact .inl h
      · exact .inr h.cons
    | none =>
      rw [hr] at he
      cases he with
      | deleted now limit expired =>
        exact .inr ⟨[], now, limit, more, rfl, by rw [System.run, List.foldl_nil, hj]; rfl, hr⟩

end Deletion

end LotusRisk
