import LotusRisk.ScenarioJobs.Store

/-! What each store operation can do, said once: the invariants below use these lemmas and never
unfold an operation. -/

namespace LotusRisk
open Relational JsonText
set_option autoImplicit true

namespace ScenarioJobStore

variable {F : Type} {db : Database} {s s' : ScenarioJobStore F}

section Updates

variable {f : ScenarioEvaluationJobRecord → ScenarioEvaluationJobRecord}
  {hid : ∀ job, (f job).jobId = job.jobId} {hkey : ∀ job, (f job).tenantKey = job.tenantKey}

theorem job?_updateJob (jobId j : String) :
    (s.updateJob jobId f hid hkey).job? j =
      if jobId = j then (s.job? j).map f else s.job? j :=
  Table.find?_modify s.jobs f hid jobId j

theorem job?_updateJob_of_found (h : s.job? jobId = some job)
    (f : ScenarioEvaluationJobRecord → ScenarioEvaluationJobRecord)
    (hid : ∀ job, (f job).jobId = job.jobId) (hkey : ∀ job, (f job).tenantKey = job.tenantKey)
    (j : String) :
    (s.updateJob jobId f hid hkey).job? j = if jobId = j then some (f job) else s.job? j := by
  rw [job?_updateJob]
  split
  · rename_i he
    rw [← he, h, Option.map_some]
  · rfl

@[simp] theorem contributionsOf_updateJob (jobId j : String) :
    (s.updateJob jobId f hid hkey).contributionsOf j = s.contributionsOf j := rfl

theorem job?_deleteJobs (jobIds : List String) (j : String) :
    (s.deleteJobs jobIds).job? j = if j ∈ jobIds then none else s.job? j := by
  unfold deleteJobs job?
  rw [Table.find?_deleteWhere]
  cases hj : s.jobs.find? j with
  | none => simp
  | some job =>
    have hk : job.jobId = j := Table.key_of_find? hj
    by_cases hm : j ∈ jobIds <;> simp [hk, hm, Option.filter]

theorem contributionsOf_deleteJobs (jobIds : List String) (j : String) :
    (s.deleteJobs jobIds).contributionsOf j = if j ∈ jobIds then [] else s.contributionsOf j := by
  unfold deleteJobs contributionsOf Table.deleteWhere
  rw [List.filter_filter]
  split
  · rename_i hm
    rw [List.filter_eq_nil_iff]
    intro row _ hr
    simp only [Bool.and_eq_true, decide_eq_true_eq, Bool.not_eq_eq_eq_not, Bool.not_true,
      decide_eq_false_iff_not] at hr
    exact hr.2 (hr.1 ▸ hm)
  · rename_i hm
    apply List.filter_congr
    intro row _
    by_cases hr : row.jobId = j <;> simp [hr, hm]

end Updates

section Submit

theorem insertCandidate_cases (db : Database) (s : ScenarioJobStore F)
    (c : ScenarioEvaluationJobRecord) :
    (∃ s', s.insertCandidate db c = .ok s' ∧ db.acceptsJob c = true ∧
      c.tenantKey ∉ s.jobs.rows.map (·.tenantKey) ∧ s.job? c.jobId = none ∧
      s'.jobs.rows = s.jobs.rows ++ [c] ∧ s'.contributions = s.contributions ∧
      ∀ j, s'.job? j = if c.jobId = j then some c else s.job? j) ∨
    (s.insertCandidate db c = .error .integrityError ∧ db.acceptsJob c = true ∧
      (c.tenantKey ∈ s.jobs.rows.map (·.tenantKey) ∨ (s.job? c.jobId).isSome)) ∨
    (s.insertCandidate db c = .error .dataError ∧ db.acceptsJob c = false) := by
  unfold insertCandidate
  split
  · rename_i ha
    exact .inr (.inr ⟨rfl, ha⟩)
  rename_i ha
  have ha : db.acceptsJob c = true := by simpa using ha
  split
  · rename_i hk
    exact .inr (.inl ⟨rfl, ha, .inl hk⟩)
  rename_i hk
  split
  · rename_i hj
    exact .inr (.inl ⟨rfl, ha, .inr (Table.find?_isSome.2 (Table.insert?_eq_none.1 hj))⟩)
  · rename_i jobs hj
    obtain ⟨hn, hr⟩ := Table.insert?_eq_some.1 hj
    refine .inl ⟨_, rfl, ha, hk, ?_, hr, rfl, Table.find?_insert? hj⟩
    cases hs : s.job? c.jobId with
    | none => rfl
    | some old =>
      have hs' : (s.jobs.find? c.jobId).isSome := by
        change (s.job? c.jobId).isSome
        rw [hs]
        rfl
      exact absurd (Table.find?_isSome.1 hs') hn

theorem insertCandidate_eq_ok {c : ScenarioEvaluationJobRecord}
    (h : s.insertCandidate db c = .ok s') :
    db.acceptsJob c = true ∧ c.tenantKey ∉ s.jobs.rows.map (·.tenantKey) ∧
      s.job? c.jobId = none ∧ s'.jobs.rows = s.jobs.rows ++ [c] ∧
      s'.contributions = s.contributions ∧
      ∀ j, s'.job? j = if c.jobId = j then some c else s.job? j := by
  rcases insertCandidate_cases db s c with ⟨s₁, hs, hr⟩ | ⟨hs, -⟩ | ⟨hs, -⟩
  · rw [hs] at h
    cases h
    exact hr
  · rw [hs] at h
    cases h
  · rw [hs] at h
    cases h

theorem getByKey_eq_some {tenantKey : String × String} :
    s.getByKey tenantKey = some job ↔ job ∈ s.jobs.rows ∧ job.tenantKey = tenantKey := by
  constructor
  · intro h
    exact ⟨List.mem_of_find?_eq_some h, by simpa using List.find?_some h⟩
  · rintro ⟨hm, hk⟩
    cases hf : s.getByKey tenantKey with
    | none =>
      have := List.find?_eq_none.1 hf job hm
      simp [hk] at this
    | some other =>
      have hm' := List.mem_of_find?_eq_some hf
      have hk' : other.tenantKey = tenantKey := by simpa using List.find?_some hf
      rw [s.eq_of_tenantKey hm' hm (hk'.trans hk.symm)]

theorem getByKey_eq_none {tenantKey : String × String} :
    s.getByKey tenantKey = none ↔ tenantKey ∉ s.jobs.rows.map (·.tenantKey) := by
  simp [getByKey]

/-- A tenant finds its own jobs, by their identifiers. -/
theorem getForTenant_eq_some {tenantId jobId : String} :
    s.getForTenant tenantId jobId = some job ↔
      s.job? jobId = some job ∧ job.tenantId = tenantId := by
  unfold getForTenant
  constructor
  · intro h
    have hp := List.find?_some h
    simp only [Bool.and_eq_true, decide_eq_true_eq] at hp
    exact ⟨job?_eq_some.2 ⟨List.mem_of_find?_eq_some h, hp.2⟩, hp.1⟩
  · rintro ⟨hj, ht⟩
    obtain ⟨hm, hi⟩ := job?_eq_some.1 hj
    cases hf : s.jobs.rows.find? (fun job => job.tenantId = tenantId && job.jobId = jobId) with
    | none =>
      have hn := List.find?_eq_none.1 hf job hm
      simp [ht, hi] at hn
    | some job' =>
      have hp := List.find?_some hf
      simp only [Bool.and_eq_true, decide_eq_true_eq] at hp
      have hj' := job?_eq_some.2 ⟨List.mem_of_find?_eq_some hf, hp.2⟩
      exact hj'.symm.trans hj

/-- An admission either inserts its candidate, or changes nothing. -/
theorem submit_cases (db : Database) (s : ScenarioJobStore F) (sub : JobSubmission)
    (jobId : String) :
    (∃ s', s.submit db sub jobId = .ok ((sub.candidate jobId, true), s') ∧
      s.insertCandidate db (sub.candidate jobId) = .ok s') ∨
    (∃ job, s.submit db sub jobId = .ok ((job, false), s) ∧
      s.resolveExisting sub = .ok (job, false)) ∨
    ∃ e, s.submit db sub jobId = .error e := by
  unfold submit
  rcases insertCandidate_cases db s (sub.candidate jobId) with ⟨s', hs, -⟩ | ⟨hs, -⟩ | ⟨hs, -⟩
  · rw [hs]
    exact .inl ⟨s', rfl, rfl⟩
  · rw [hs]
    cases hr : s.resolveExisting sub with
    | error e => exact .inr (.inr ⟨e, rfl⟩)
    | ok r =>
      have hf : r.2 = false := by
        unfold resolveExisting at hr
        split at hr
        · cases hr
        · split at hr
          · cases hr
          · cases hr
            rfl
      obtain ⟨job, created⟩ := r
      subst hf
      exact .inr (.inl ⟨job, rfl, rfl⟩)
  · rw [hs]
    exact .inr (.inr ⟨_, rfl⟩)

theorem resolveExisting_of_mem {sub : JobSubmission} (hm : job ∈ s.jobs.rows)
    (hk : job.tenantKey = sub.tenantKey) :
    s.resolveExisting sub =
      if job.requestFingerprint ≠ sub.requestFingerprint then
        .error (.idempotencyConflict
          "Idempotency-Key was previously used with different scenario job input")
      else .ok (job, false) := by
  unfold resolveExisting
  rw [getByKey_eq_some.2 ⟨hm, hk⟩]

end Submit

section Claim

theorem claimCandidate_spec (h : s.claimCandidate db now = some job) :
    job ∈ s.jobs.rows ∧ job.claimable now = true ∧
      ∀ other ∈ s.jobs.rows, other.claimable now = true →
        job = other ∨ db.jobOrder (·.submittedAt) job other :=
  selectOrdered_head _ h

theorem claimCandidate_eq_none :
    s.claimCandidate db now = none ↔ ∀ job ∈ s.jobs.rows, ¬ job.claimable now = true :=
  selectOrdered_head_none _

theorem claimNext_eq_ok {token : String}
    (h : s.claimNext db now lease token = .ok (claim, s')) :
    now < lease ∧ ((s.claimCandidate db now = none ∧ claim = none ∧ s' = s) ∨
      ∃ job, s.claimCandidate db now = some job ∧ claim = some (job.claimed token lease) ∧
        s' = s.updateJob job.jobId (·.claimed token lease) (fun _ => rfl) (fun _ => rfl)) := by
  obtain ⟨hl, h⟩ := raiseIf_bind_eq_ok.1 h
  refine ⟨by simpa using hl, ?_⟩
  split at h
  · rename_i hc
    cases h
    exact .inl ⟨hc, rfl, rfl⟩
  · rename_i job hc
    cases h
    exact .inr ⟨job, hc, rfl, rfl⟩

theorem claimNext_of_lt (hl : now < lease) (token : String) :
    s.claimNext db now lease token = .ok (match s.claimCandidate db now with
      | none => (none, s)
      | some job => (some (job.claimed token lease),
          s.updateJob job.jobId (·.claimed token lease) (fun _ => rfl) (fun _ => rfl))) := by
  unfold claimNext
  rw [decide_eq_false (not_le.2 hl)]
  simp only [raiseIf_false, bind, Except.bind]
  cases s.claimCandidate db now <;> rfl

end Claim

section Terminal

/-- The row a terminal operation is fenced on: running, under the presented token. -/
def Held (s : ScenarioJobStore F) (jobId token : String) (job : ScenarioEvaluationJobRecord) :
    Prop :=
  s.job? jobId = some job ∧ job.status = .running ∧ job.claimToken = some token

theorem any_heldBy :
    (s.job? jobId).any (·.heldBy token) = true ↔ ∃ job, s.Held jobId token job := by
  unfold Held
  cases s.job? jobId with
  | none => simp
  | some job => simp [ScenarioEvaluationJobRecord.heldBy]

/-- Without the current token a terminal operation answers `False` and changes nothing. -/
theorem failClaim_of_not_held (h : ∀ job, ¬ s.Held jobId token job) :
    s.failClaim db jobId token code detail at_ = .ok (false, s) := by
  unfold failClaim
  rw [if_neg]
  · rfl
  · rw [any_heldBy]
    rintro ⟨job, hj⟩
    exact h job hj

theorem completeClaim_of_not_held {rows : List (ScenarioEvaluationJobContributionRecord F)}
    (h : ∀ job, ¬ s.Held jobId token job) :
    s.completeClaim db jobId token aggregate rows at_ = .ok (false, s) := by
  unfold completeClaim
  rw [if_neg]
  · rfl
  · rw [any_heldBy]
    rintro ⟨job, hj⟩
    exact h job hj

theorem failClaim_eq_ok (h : s.failClaim db jobId token code detail at_ = .ok (done, s')) :
    (done = false ∧ s' = s ∧ ∀ job, ¬ s.Held jobId token job) ∨
    (done = true ∧ (∃ job, s.Held jobId token job) ∧
      s' = s.updateJob jobId (·.failedWith code detail at_) (fun _ => rfl) (fun _ => rfl)) := by
  unfold failClaim at h
  split at h
  · rename_i hh
    obtain ⟨-, h⟩ := raiseIf_bind_eq_ok.1 h
    cases h
    exact .inr ⟨rfl, any_heldBy.1 hh, rfl⟩
  · rename_i hh
    cases h
    exact .inl ⟨rfl, rfl, fun job hj => hh (any_heldBy.2 ⟨job, hj⟩)⟩

theorem completeClaim_eq_ok {rows : List (ScenarioEvaluationJobContributionRecord F)}
    (h : s.completeClaim db jobId token aggregate rows at_ = .ok (done, s')) :
    (done = false ∧ s' = s ∧ ∀ job, ¬ s.Held jobId token job) ∨
    (done = true ∧ (∃ job, s.Held jobId token job) ∧ (∀ row ∈ rows, row.jobId = jobId) ∧
      (∀ j, s'.job? j = if jobId = j then
        (s.job? j).map (·.succeededWith (dumps aggregate) at_) else s.job? j) ∧
      ∀ j, s'.contributionsOf j =
        s.contributionsOf j ++ if jobId = j then rows else []) := by
  unfold completeClaim at h
  split at h
  · rename_i hh
    obtain ⟨ho, h⟩ := raiseIf_bind_eq_ok.1 h
    obtain ⟨-, h⟩ := raiseIf_bind_eq_ok.1 h
    have ho : ∀ row ∈ rows, row.jobId = jobId := by simpa using ho
    split at h
    · cases h
    · rename_i table ht
      cases h
      refine .inr ⟨rfl, any_heldBy.1 hh, ho, fun j => ?_, fun j => ?_⟩
      · exact Table.find?_modify s.jobs (·.succeededWith (dumps aggregate) at_) (fun _ => rfl)
          jobId j
      · have hr := (Table.insertAll?_eq_some.1 ht).2.2
        change table.rows.filter (fun row => row.jobId = j) = _
        rw [hr, List.filter_append]
        congr 1
        split
        · rename_i he
          subst he
          exact List.filter_eq_self.2 (fun row hrow => by simpa using ho row hrow)
        · rename_i he
          refine List.filter_eq_nil_iff.2 (fun row hrow => ?_)
          simpa [ho row hrow] using he
  · rename_i hh
    cases h
    exact .inl ⟨rfl, rfl, fun job hj => hh (any_heldBy.2 ⟨job, hj⟩)⟩

theorem failClaim_of_held (h : s.Held jobId token job) (hc : db.fits 128 code = true)
    (hd : detail.toList.all db.storable = true) (at_ : Timestamp) :
    s.failClaim db jobId token code detail at_ =
      .ok (true, s.updateJob jobId (·.failedWith code detail at_) (fun _ => rfl) (fun _ => rfl)) := by
  unfold failClaim
  rw [if_pos (any_heldBy.2 ⟨job, h⟩), hc, hd]
  rfl

/-- The engine takes the rows of one publication: their texts fit and their keys differ. -/
def Storable (db : Database) (rows : List (ScenarioEvaluationJobContributionRecord F)) : Prop :=
  rows.all db.acceptsContribution = true ∧ (rows.map (·.key)).Nodup

theorem key_fresh (hn : s.contributionsOf jobId = [])
    {row : ScenarioEvaluationJobContributionRecord F} (hr : row.jobId = jobId) :
    row.key ∉ s.contributions.rows.map (·.key) := by
  intro hm
  obtain ⟨other, ho, he⟩ := List.mem_map.1 hm
  have hj : other.jobId = row.jobId := congrArg Prod.fst he
  have hc : other ∈ s.contributionsOf jobId := mem_contributionsOf.2 ⟨ho, hj.trans hr⟩
  rw [hn] at hc
  cases hc

theorem completeClaim_of_storable {rows : List (ScenarioEvaluationJobContributionRecord F)}
    (h : s.Held jobId token job) (hn : s.contributionsOf jobId = [])
    (hr : ∀ row ∈ rows, row.jobId = jobId) (hs : Storable db rows) (aggregate : Json)
    (at_ : Timestamp) :
    ∃ s', s.completeClaim db jobId token aggregate rows at_ = .ok (true, s') := by
  have hown : rows.any (fun row => row.jobId ≠ jobId) = false := by simpa using hr
  unfold completeClaim
  rw [if_pos (any_heldBy.2 ⟨job, h⟩), hown, hs.1]
  simp only [raiseIf_false, Bool.not_true, bind, Except.bind]
  cases ht : s.contributions.insertAll? rows with
  | some table => exact ⟨_, rfl⟩
  | none => exact absurd ht (Table.insertAll?_ne_none hs.2 (fun row hm => key_fresh hn (hr row hm)))

/-- Rows the engine does not take raise a database error, and nothing is written. -/
theorem completeClaim_of_not_storable {rows : List (ScenarioEvaluationJobContributionRecord F)}
    (h : s.Held jobId token job) (hr : ∀ row ∈ rows, row.jobId = jobId) (hs : ¬ Storable db rows)
    (aggregate : Json) (at_ : Timestamp) :
    s.completeClaim db jobId token aggregate rows at_ = .error .dataError ∨
      s.completeClaim db jobId token aggregate rows at_ = .error .integrityError := by
  have hown : rows.any (fun row => row.jobId ≠ jobId) = false := by simpa using hr
  unfold completeClaim
  rw [if_pos (any_heldBy.2 ⟨job, h⟩), hown]
  cases ha : rows.all db.acceptsContribution with
  | false => exact .inl rfl
  | true =>
    right
    simp only [raiseIf_false, Bool.not_true, bind, Except.bind]
    cases ht : s.contributions.insertAll? rows with
    | none => rfl
    | some table => exact absurd ⟨ha, (Table.insertAll?_eq_some.1 ht).1⟩ hs

end Terminal

section Cleanup

theorem deleteExpired_eq_ok (h : s.deleteExpired db now limit = .ok (n, s')) :
    0 < limit ∧ n = (s.expiredJobIds db now limit.toNat).length ∧
      ((s.expiredJobIds db now limit.toNat = [] ∧ s' = s) ∨
        s' = s.deleteJobs (s.expiredJobIds db now limit.toNat)) := by
  obtain ⟨hl, h⟩ := raiseIf_bind_eq_ok.1 h
  refine ⟨by simpa using hl, ?_⟩
  simp only at h
  split at h
  · rename_i he
    have he : s.expiredJobIds db now limit.toNat = [] := by simpa using he
    cases h
    exact ⟨by rw [he]; rfl, .inl ⟨he, rfl⟩⟩
  · cases h
    exact ⟨rfl, .inr rfl⟩

/-- The deleted identifiers are distinct, few enough, and of expired jobs. -/
theorem expiredJobIds_nodup (db : Database) (s : ScenarioJobStore F) (now : Timestamp)
    (limit : Nat) : (s.expiredJobIds db now limit).Nodup := by
  have hs := (selectOrdered_sublist (db.jobOrder (·.expiresAt)) s.jobs.rows
    (fun job => job.expiresAt ≤ now) limit).map (·.jobId)
  have hp := (List.perm_insertionSort (db.jobOrder (·.expiresAt))
    (s.jobs.rows.filter (fun job => job.expiresAt ≤ now))).map (·.jobId)
  have hn := s.jobs.unique.sublist ((List.filter_sublist (l := s.jobs.rows)
    (p := fun job : ScenarioEvaluationJobRecord => decide (job.expiresAt ≤ now))).map (·.jobId))
  exact (hp.nodup_iff.2 hn).sublist hs

theorem length_expiredJobIds_le (db : Database) (s : ScenarioJobStore F) (now : Timestamp)
    (limit : Nat) : (s.expiredJobIds db now limit).length ≤ limit := by
  unfold expiredJobIds
  rw [List.length_map]
  exact length_selectOrdered_le _ _ _ _

theorem mem_expiredJobIds (h : jobId ∈ s.expiredJobIds db now limit) :
    ∃ job, s.job? jobId = some job ∧ job.expiresAt ≤ now := by
  obtain ⟨job, hm, rfl⟩ := List.mem_map.1 h
  obtain ⟨hr, he⟩ := mem_of_mem_selectOrdered _ hm
  exact ⟨job, Table.find?_key s.jobs hr, by simpa using he⟩

end Cleanup

end ScenarioJobStore

end LotusRisk
