import LotusRisk.Lib.Noninterference
import LotusRisk.ScenarioJobs.Paging

/-! What one tenant sees does not depend on the jobs of the others. -/

namespace LotusRisk
open Relational Keyset Noninterference ScenarioJobStore
set_option autoImplicit true

section TenantRows

/-- The jobs a tenant owns. -/
def ScenarioJobStore.tenantJobs (s : ScenarioJobStore F) (tenantId : String) :
    List ScenarioEvaluationJobRecord :=
  s.jobs.rows.filter (fun job => job.tenantId = tenantId)

/-- The contribution rows of the jobs a tenant owns. -/
def ScenarioJobStore.tenantContributions (s : ScenarioJobStore F) (tenantId : String) :
    List (ScenarioEvaluationJobContributionRecord F) :=
  s.contributions.rows.filter (fun row => row.jobId ∈ (s.tenantJobs tenantId).map (·.jobId))

/-- The two stores hold the same jobs and contribution rows of the tenant, in any order. -/
structure SameTenant (tenantId : String) (s s' : ScenarioJobStore F) : Prop where
  jobs : (s.tenantJobs tenantId).Perm (s'.tenantJobs tenantId)
  contributions : (s.tenantContributions tenantId).Perm (s'.tenantContributions tenantId)

variable {s s' : ScenarioJobStore F}

theorem mem_tenantJobs :
    job ∈ s.tenantJobs tenantId ↔ job ∈ s.jobs.rows ∧ job.tenantId = tenantId := by
  simp [tenantJobs]

theorem getForTenant_iff_mem {tenantId jobId : String} :
    s.getForTenant tenantId jobId = some job ↔
      job ∈ s.tenantJobs tenantId ∧ job.jobId = jobId := by
  rw [getForTenant_eq_some, mem_tenantJobs, job?_eq_some, and_right_comm]

/-- The keys of a tenant are found among its own jobs. -/
theorem getByKey_iff_mem {tenantKey : String × String} :
    s.getByKey tenantKey = some job ↔
      job ∈ s.tenantJobs tenantKey.1 ∧ job.tenantKey = tenantKey := by
  rw [getByKey_eq_some, mem_tenantJobs]
  constructor
  · rintro ⟨hm, hk⟩
    exact ⟨⟨hm, congrArg Prod.fst hk⟩, hk⟩
  · rintro ⟨⟨hm, -⟩, hk⟩
    exact ⟨hm, hk⟩

theorem contributionsOf_tenant (h : s.getForTenant tenantId jobId = some job) :
    s.contributionsOf jobId =
      (s.tenantContributions tenantId).filter (fun row => row.jobId = jobId) := by
  obtain ⟨hm, hi⟩ := getForTenant_iff_mem.1 h
  unfold contributionsOf tenantContributions
  rw [List.filter_filter]
  apply List.filter_congr
  intro row _
  by_cases hr : row.jobId = jobId
  · have ho : row.jobId ∈ (s.tenantJobs tenantId).map (·.jobId) :=
      List.mem_map.2 ⟨job, hm, hi.trans hr.symm⟩
    rw [decide_eq_true hr, decide_eq_true ho]
    rfl
  · rw [decide_eq_false hr]
    rfl

theorem SameTenant.getForTenant (h : SameTenant tenantId s s') (jobId : String) :
    s.getForTenant tenantId jobId = s'.getForTenant tenantId jobId := by
  apply Option.ext
  intro job
  rw [getForTenant_iff_mem, getForTenant_iff_mem, h.jobs.mem_iff]

theorem SameTenant.contributionsOf (h : SameTenant tenantId s s')
    (hj : s.getForTenant tenantId jobId = some job) :
    (s.contributionsOf jobId).Perm (s'.contributionsOf jobId) := by
  rw [contributionsOf_tenant hj, contributionsOf_tenant ((h.getForTenant jobId).symm.trans hj)]
  exact h.contributions.filter _

end TenantRows

section Reads

variable {db : Database} {s s' : ScenarioJobStore F}

/-- The order of a page depends on the rows, not on when they were inserted. -/
theorem orderedContributions_congr
    (h : (s.contributionsOf jobId).Perm (s'.contributionsOf jobId)) :
    orderedContributions db s jobId = orderedContributions db s' jobId := by
  have hp : (orderedContributions db s jobId).Perm (orderedContributions db s' jobId) :=
    ((orderedContributions_perm db s jobId).trans h).trans
      (orderedContributions_perm db s' jobId).symm
  apply hp.eq_of_pairwise _ (orderedContributions_strict db s jobId)
    (orderedContributions_strict db s' jobId)
  intro a b _ _ hab hba
  exact absurd (trans_of db.pageKeyLt hab hba) (Std.Irrefl.irrefl _)

theorem contributionPage_of_none (h : s.getForTenant tenantId jobId = none)
    (after : Option (String × Nat)) (limit : Nat) :
    s.contributionPage db tenantId jobId after limit = none := by
  unfold contributionPage
  rw [h]

theorem contributionPage_of_not_succeeded (h : s.getForTenant tenantId jobId = some job)
    (hs : job.status ≠ .succeeded) (after : Option (String × Nat)) (limit : Nat) :
    s.contributionPage db tenantId jobId after limit = none := by
  unfold contributionPage
  rw [h]
  exact if_pos hs

theorem SameTenant.contributionPage (h : SameTenant tenantId s s') (jobId : String)
    (after : Option (String × Nat)) (limit : Nat) :
    s.contributionPage db tenantId jobId after limit =
      s'.contributionPage db tenantId jobId after limit := by
  have hf := h.getForTenant jobId
  cases hj : s.getForTenant tenantId jobId with
  | none =>
    rw [contributionPage_of_none hj, contributionPage_of_none (hf.symm.trans hj)]
  | some job =>
    by_cases hs : job.status = .succeeded
    · rw [contributionPage_of_succeeded hj hs,
        contributionPage_of_succeeded (hf.symm.trans hj) hs,
        orderedContributions_congr (h.contributionsOf hj)]
    · rw [contributionPage_of_not_succeeded hj hs,
        contributionPage_of_not_succeeded (hf.symm.trans hj) hs]

/-- The reads of `jobId` in `s` and of `jobId'` in `s'` have the same outcomes. -/
def SameReads [PyFloat F] (db : Database)
    (load : String → Except PyException (RegimeScenarioPackResponse F)) (tenantId : String)
    (s s' : ScenarioJobStore F) (jobId jobId' : String) : Prop :=
  scenarioJobStatusResponse load s tenantId jobId =
    scenarioJobStatusResponse load s' tenantId jobId' ∧
  ∀ cursor limit, scenarioJobContributionPage db s tenantId jobId cursor limit =
    scenarioJobContributionPage db s' tenantId jobId' cursor limit

variable [PyFloat F] {load : String → Except PyException (RegimeScenarioPackResponse F)}

theorem SameTenant.reads (h : SameTenant tenantId s s') (db : Database)
    (load : String → Except PyException (RegimeScenarioPackResponse F)) (jobId : String) :
    SameReads db load tenantId s s' jobId jobId := by
  constructor
  · unfold scenarioJobStatusResponse
    rw [h.getForTenant]
  · intro cursor limit
    unfold scenarioJobContributionPage
    simp only [h.contributionPage]

/-- Reads of jobs the tenant does not own find nothing. -/
theorem sameReads_of_none (h : s.getForTenant tenantId jobId = none)
    (h' : s'.getForTenant tenantId jobId' = none) :
    SameReads db load tenantId s s' jobId jobId' := by
  constructor
  · unfold scenarioJobStatusResponse
    rw [h, h']
  · intro cursor limit
    unfold scenarioJobContributionPage
    simp only [contributionPage_of_none h, contributionPage_of_none h']

omit [PyFloat F] in
theorem getForTenant_foreign (hj : s.job? jobId = some job) (ht : job.tenantId ≠ tenantId) :
    s.getForTenant tenantId jobId = none := by
  apply Option.eq_none_iff_forall_not_mem.2
  intro job' hm
  obtain ⟨hj', ht'⟩ := getForTenant_eq_some.1 hm
  cases hj.symm.trans hj'
  exact ht ht'

omit [PyFloat F] in
theorem getForTenant_unknown (hj : s.job? jobId = none) :
    s.getForTenant tenantId jobId = none := by
  apply Option.eq_none_iff_forall_not_mem.2
  intro job' hm
  cases hj.symm.trans (getForTenant_eq_some.1 hm).1

end Reads

section Calls

/-- A submit, or a read, made as one tenant. -/
inductive TenantCall where
  | submit (sub : JobSubmission) (uuid : String)
  | status (tenantId jobId : String)
  | page (tenantId jobId : String) (cursor : Option String) (limit : Nat)

def TenantCall.tenantId : TenantCall → String
  | .submit sub _ => sub.tenantId
  | .status tenantId _ => tenantId
  | .page tenantId _ _ _ => tenantId

/-- The `uuid4` a call draws. -/
def TenantCall.uuid? : TenantCall → Option String
  | .submit _ uuid => some uuid
  | _ => none

inductive TenantAnswer (F : Type) where
  | submitted (answer : Except PyException (ScenarioEvaluationJobRecord × Bool))
  | status (answer : Except PyException (Option (ScenarioEvaluationJobStatusResponse F)))
  | page (answer : Except PyException (Option (ScenarioEvaluationJobContributionPage F)))

variable [PyFloat F]

def TenantCall.serve (db : Database)
    (load : String → Except PyException (RegimeScenarioPackResponse F)) (s : ScenarioJobStore F) :
    TenantCall → TenantAnswer F × ScenarioJobStore F
  | .submit sub uuid =>
    match s.submit db sub uuid with
    | .ok (answer, s') => (.submitted (.ok answer), s')
    | .error e => (.submitted (.error e), s)
  | .status tenantId jobId => (.status (scenarioJobStatusResponse load s tenantId jobId), s)
  | .page tenantId jobId cursor limit =>
    (.page (scenarioJobContributionPage db s tenantId jobId cursor limit), s)

def TenantCall.madeBy (tenantId : String) (call : TenantCall) : Bool := call.tenantId = tenantId

/-- No `uuid4` of the tenant is drawn for another tenant too. -/
def SeparateDraws (tenantId : String) (calls : List TenantCall) : Prop :=
  ∀ call ∈ calls, ∀ call' ∈ calls, call.tenantId = tenantId → call'.tenantId ≠ tenantId →
    ∀ uuid ∈ call.uuid?, uuid ∉ call'.uuid?

instance (tenantId : String) (calls : List TenantCall) :
    Decidable (SeparateDraws tenantId calls) :=
  inferInstanceAs (Decidable (∀ call ∈ calls, ∀ call' ∈ calls, _ → _ → ∀ uuid ∈ call.uuid?, _))

end Calls

theorem SeparateDraws.sublist (h : SeparateDraws tenantId calls) (hs : calls'.Sublist calls) :
    SeparateDraws tenantId calls' :=
  fun _ hc _ hc' => h _ (hs.subset hc) _ (hs.subset hc')

section Submits

variable {s s' : ScenarioJobStore F} {sub : JobSubmission}

/-- What an admission answers and inserts depends on the row of its key and on whether its `uuid4`
is taken. -/
theorem submit_congr (db : Database) (hk : s.getByKey sub.tenantKey = s'.getByKey sub.tenantKey)
    (hu : (s.job? uuid).isSome = (s'.job? uuid).isSome) :
    (∃ t t', s.submit db sub uuid = .ok ((sub.candidate uuid, true), t) ∧
      s'.submit db sub uuid = .ok ((sub.candidate uuid, true), t') ∧
      s.insertCandidate db (sub.candidate uuid) = .ok t ∧
      s'.insertCandidate db (sub.candidate uuid) = .ok t') ∨
    ∃ answer : Except PyException (ScenarioEvaluationJobRecord × Bool),
      s.submit db sub uuid = answer.map (fun r => (r, s)) ∧
      s'.submit db sub uuid = answer.map (fun r => (r, s')) := by
  have hr : s.resolveExisting sub = s'.resolveExisting sub := by
    unfold resolveExisting
    rw [hk]
  have hm : (sub.candidate uuid).tenantKey ∈ s.jobs.rows.map (·.tenantKey) ↔
      (sub.candidate uuid).tenantKey ∈ s'.jobs.rows.map (·.tenantKey) := by
    change sub.tenantKey ∈ _ ↔ sub.tenantKey ∈ _
    rw [← not_iff_not, ← getByKey_eq_none, ← getByKey_eq_none, hk]
  unfold submit
  rcases insertCandidate_cases db s (sub.candidate uuid) with ⟨t, h, ha, hn, hj, -⟩ |
    ⟨h, ha, hl⟩ | ⟨h, ha⟩
  · rcases insertCandidate_cases db s' (sub.candidate uuid) with ⟨t', h', -⟩ | ⟨-, -, hl'⟩ |
      ⟨-, ha'⟩
    · rw [h, h']
      exact .inl ⟨t, t', rfl, rfl, rfl, rfl⟩
    · rcases hl' with hl' | hl'
      · exact absurd (hm.2 hl') hn
      · change (s'.job? uuid).isSome = true at hl'
        change s.job? uuid = none at hj
        rw [← hu, hj] at hl'
        cases hl'
    · cases ha.symm.trans ha'
  · rcases insertCandidate_cases db s' (sub.candidate uuid) with ⟨t', -, -, hn', hj', -⟩ |
      ⟨h', -, -⟩ | ⟨-, ha'⟩
    · rcases hl with hl | hl
      · exact absurd (hm.1 hl) hn'
      · change (s.job? uuid).isSome = true at hl
        change s'.job? uuid = none at hj'
        rw [hu, hj'] at hl
        cases hl
    · rw [h, h', ← hr]
      exact .inr ⟨s.resolveExisting sub, rfl, rfl⟩
    · cases ha.symm.trans ha'
  · rcases insertCandidate_cases db s' (sub.candidate uuid) with ⟨t', -, ha', -⟩ | ⟨-, ha', -⟩ |
      ⟨h', -⟩
    · cases ha.symm.trans ha'
    · cases ha.symm.trans ha'
    · rw [h, h']
      exact .inr ⟨.error .dataError, rfl, rfl⟩

theorem tenantJobs_inserted {db : Database} {c : ScenarioEvaluationJobRecord}
    (h : s.insertCandidate db c = .ok s') (tenantId : String) :
    s'.tenantJobs tenantId =
      s.tenantJobs tenantId ++ if c.tenantId = tenantId then [c] else [] := by
  unfold tenantJobs
  rw [(insertCandidate_eq_ok h).2.2.2.1, List.filter_append]
  by_cases hc : c.tenantId = tenantId
  · rw [if_pos hc, List.filter_singleton, decide_eq_true hc]
    rfl
  · rw [if_neg hc, List.filter_singleton, decide_eq_false hc]
    rfl

end Submits

section Unwinding

variable [PyFloat F] {db : Database}
  {load : String → Except PyException (RegimeScenarioPackResponse F)}

/-- The stores agree on the tenant, on all contribution rows, and on which of the `uuid4` texts the
tenant is yet to draw are taken. -/
structure Agree (tenantId : String) (calls : List TenantCall) (s s' : ScenarioJobStore F) :
    Prop where
  jobs : s.tenantJobs tenantId = s'.tenantJobs tenantId
  contributions : s.contributions = s'.contributions
  separate : SeparateDraws tenantId calls
  taken : ∀ call ∈ calls, call.tenantId = tenantId → ∀ uuid ∈ call.uuid?,
    (s.job? uuid).isSome = (s'.job? uuid).isSome

omit [PyFloat F] in
theorem Agree.sameTenant (h : Agree tenantId calls s s') : SameTenant tenantId s s' := by
  constructor
  · rw [h.jobs]
  · unfold tenantContributions
    rw [h.jobs, h.contributions]

omit [PyFloat F] in
theorem Agree.refl (h : SeparateDraws tenantId calls) (s : ScenarioJobStore F) :
    Agree tenantId calls s s :=
  ⟨rfl, rfl, h, fun _ _ _ _ _ => rfl⟩

omit [PyFloat F] in
theorem Agree.tail (h : Agree tenantId (call :: calls) s s') : Agree tenantId calls s s' where
  jobs := h.jobs
  contributions := h.contributions
  separate := h.separate.sublist (List.sublist_cons_self call calls)
  taken := fun _ hc => h.taken _ (List.mem_cons_of_mem _ hc)

omit [PyFloat F] in
theorem Agree.getByKey (h : Agree tenantId calls s s') {tenantKey : String × String}
    (hk : tenantKey.1 = tenantId) : s.getByKey tenantKey = s'.getByKey tenantKey := by
  apply Option.ext
  intro job
  rw [getByKey_iff_mem, getByKey_iff_mem, hk, h.jobs]

omit [PyFloat F] in
/-- A row of another tenant is none of the tenant's, and takes none of its `uuid4` texts. -/
theorem Agree.insert_other {sub : JobSubmission}
    (h : Agree tenantId (.submit sub uuid :: calls) s s') (ht : sub.tenantId ≠ tenantId)
    (hi : s.insertCandidate db (sub.candidate uuid) = .ok t) : Agree tenantId calls t s' := by
  obtain ⟨-, -, -, -, hc, hj⟩ := insertCandidate_eq_ok hi
  refine ⟨?_, hc.trans h.contributions, h.tail.separate, ?_⟩
  · have ht' : (sub.candidate uuid).tenantId ≠ tenantId := ht
    rw [tenantJobs_inserted hi, if_neg ht', List.append_nil]
    exact h.jobs
  · intro call hm ho u hu
    have hne : (sub.candidate uuid).jobId ≠ u := by
      rintro rfl
      exact h.separate call (List.mem_cons_of_mem _ hm) _ List.mem_cons_self ho ht _ hu rfl
    rw [hj, if_neg hne]
    exact h.tail.taken call hm ho u hu

omit [PyFloat F] in
/-- A row of the tenant goes into both stores. -/
theorem Agree.insert_same {sub : JobSubmission} (h : Agree tenantId (call :: calls) s s')
    (hi : s.insertCandidate db (sub.candidate uuid) = .ok t)
    (hi' : s'.insertCandidate db (sub.candidate uuid) = .ok t') : Agree tenantId calls t t' := by
  obtain ⟨-, -, -, -, hc, hj⟩ := insertCandidate_eq_ok hi
  obtain ⟨-, -, -, -, hc', hj'⟩ := insertCandidate_eq_ok hi'
  refine ⟨?_, (hc.trans h.contributions).trans hc'.symm, h.tail.separate, ?_⟩
  · rw [tenantJobs_inserted hi, tenantJobs_inserted hi', h.jobs]
  · intro call hm ho u hu
    rw [hj, hj']
    split
    · rfl
    · exact h.tail.taken call hm ho u hu

theorem Agree.other (h : Agree tenantId (call :: calls) s s') (ht : call.tenantId ≠ tenantId) :
    Agree tenantId calls (call.serve db load s).2 s' := by
  cases call with
  | submit sub uuid =>
    unfold TenantCall.serve
    rcases submit_cases db s sub uuid with ⟨t, hs, hi⟩ | ⟨job, hs, -⟩ | ⟨e, hs⟩
    · simp only [hs]
      exact h.insert_other ht hi
    · simp only [hs]
      exact h.tail
    · simp only [hs]
      exact h.tail
  | status tenantId' jobId => exact h.tail
  | page tenantId' jobId cursor limit => exact h.tail

theorem Agree.same (h : Agree tenantId (call :: calls) s s') (ht : call.tenantId = tenantId) :
    (call.serve db load s).1 = (call.serve db load s').1 ∧
      Agree tenantId calls (call.serve db load s).2 (call.serve db load s').2 := by
  cases call with
  | submit sub uuid =>
    have hk : s.getByKey sub.tenantKey = s'.getByKey sub.tenantKey := h.getByKey ht
    have hu := h.taken _ List.mem_cons_self ht uuid rfl
    unfold TenantCall.serve
    rcases submit_congr db hk hu with ⟨t, t', hs, hs', hi, hi'⟩ | ⟨answer, hs, hs'⟩
    · simp only [hs, hs']
      exact ⟨trivial, h.insert_same hi hi'⟩
    · simp only [hs, hs']
      cases answer with
      | error e => exact ⟨rfl, h.tail⟩
      | ok r => exact ⟨rfl, h.tail⟩
  | status tenantId' jobId =>
    cases ht
    have hr := (h.sameTenant.reads db load jobId).1
    exact ⟨congrArg TenantAnswer.status hr, h.tail⟩
  | page tenantId' jobId cursor limit =>
    cases ht
    have hr := (h.sameTenant.reads db load jobId).2 cursor limit
    exact ⟨congrArg TenantAnswer.page hr, h.tail⟩

theorem agree_unwinding (db : Database)
    (load : String → Except PyException (RegimeScenarioPackResponse F)) (tenantId : String) :
    Unwinding (fun s call => TenantCall.serve db load s call) (TenantCall.madeBy tenantId)
      (Agree tenantId (F := F)) where
  other h ho := h.other (of_decide_eq_false ho)
  same h ho := h.same (of_decide_eq_true ho)

/-- Whatever calls of other tenants run in between, a tenant is answered as if it were alone. -/
theorem tenant_noninterference (db : Database)
    (load : String → Except PyException (RegimeScenarioPackResponse F)) (tenantId : String)
    (s : ScenarioJobStore F) {calls : List TenantCall} (h : SeparateDraws tenantId calls) :
    observed (fun s call => TenantCall.serve db load s call) (TenantCall.madeBy tenantId) s calls =
      observed (fun s call => TenantCall.serve db load s call) (TenantCall.madeBy tenantId) s
        (calls.filter (TenantCall.madeBy tenantId)) ∧
    SameTenant tenantId
      (final (fun s call => TenantCall.serve db load s call) s calls)
      (final (fun s call => TenantCall.serve db load s call) s
        (calls.filter (TenantCall.madeBy tenantId))) := by
  obtain ⟨ho, hf⟩ := (agree_unwinding db load tenantId).purge (Agree.refl h s)
  exact ⟨ho, hf.sameTenant⟩

end Unwinding

/-- Two stores with the same rows of a tenant give its reads the same outcomes; a job of another
tenant reads like no job; and submits of other tenants change neither the rows of the tenant nor what
its later calls answer. -/
theorem tenant_isolation [PyFloat F] (db : Database)
    (load : String → Except PyException (RegimeScenarioPackResponse F)) (tenantId : String) :
    (∀ s s' : ScenarioJobStore F, SameTenant tenantId s s' →
      ∀ jobId, SameReads db load tenantId s s' jobId jobId) ∧
    (∀ (s : ScenarioJobStore F) (foreign unknown : String),
      (∃ job, s.job? foreign = some job ∧ job.tenantId ≠ tenantId) → s.job? unknown = none →
      SameReads db load tenantId s s foreign unknown) ∧
    ∀ (s : ScenarioJobStore F) (others later : List TenantCall),
      SeparateDraws tenantId (others ++ later) → (∀ call ∈ others, call.tenantId ≠ tenantId) →
      (∀ call ∈ later, call.tenantId = tenantId) →
      SameTenant tenantId (final (fun s call => TenantCall.serve db load s call) s others) s ∧
      observed (fun s call => TenantCall.serve db load s call) (TenantCall.madeBy tenantId)
          (final (fun s call => TenantCall.serve db load s call) s others) later =
        observed (fun s call => TenantCall.serve db load s call) (TenantCall.madeBy tenantId)
          s later := by
  refine ⟨?_, ?_, ?_⟩
  · intro s s' h jobId
    exact h.reads db load jobId
  · intro s foreign unknown hf hu
    obtain ⟨job, hj, ht⟩ := hf
    exact sameReads_of_none (getForTenant_foreign hj ht) (getForTenant_unknown hu)
  · intro s others later hd ho hl
    have hothers : others.filter (TenantCall.madeBy tenantId) = [] :=
      List.filter_eq_nil_iff.2 (fun call hm h => ho call hm (of_decide_eq_true h))
    have hlater : later.filter (TenantCall.madeBy tenantId) = later :=
      List.filter_eq_self.2 (fun call hm => decide_eq_true (hl call hm))
    obtain ⟨hobs, -⟩ := tenant_noninterference db load tenantId s hd
    obtain ⟨hnone, hsame⟩ := tenant_noninterference db load tenantId s
      (hd.sublist (List.sublist_append_left others later))
    rw [List.filter_append, hothers, hlater, List.nil_append, observed_append] at hobs
    rw [hothers] at hnone hsame
    rw [hnone] at hobs
    exact ⟨hsame, hobs⟩

section Example

/-- A submission of each tenant under one idempotency key. -/
def keyedSubmission (tenantId : String) : JobSubmission where
  tenantId := tenantId
  idempotencyKey := "scenario-job-001"
  requestFingerprint := "sha256:00"
  scenarioPackId := "CIO_REGIME_2026_Q2"
  scenarioPackRevision := "sha256:01"
  immutableRequest := .null
  actorId := none
  correlationId := none
  submittedAt := 0
  expiresAt := 86400000000

def neverLoads (text : String) : Except PyException (RegimeScenarioPackResponse ℚ) :=
  .error (.valueError text)

/-- The store once the other tenant has taken the key. -/
def neighbourStore : ScenarioJobStore ℚ :=
  final (fun s call => TenantCall.serve .codePoint neverLoads s call) .empty
    [.submit (keyedSubmission "tenant-hk") "job-hk"]

theorem neighbour_found : (neighbourStore.job? "job-hk").map (·.tenantId) = some "tenant-hk" := by
  decide

theorem tenant_isolation_neighbour :
    SameReads .codePoint neverLoads "tenant-sg" neighbourStore .empty "job-sg" "job-sg" ∧
    SameReads .codePoint neverLoads "tenant-sg" neighbourStore neighbourStore "job-hk" "job-no" ∧
    observed (fun s call => TenantCall.serve .codePoint neverLoads s call)
        (TenantCall.madeBy "tenant-sg") neighbourStore
        [.submit (keyedSubmission "tenant-sg") "job-sg", .status "tenant-sg" "job-hk"] =
      observed (fun s call => TenantCall.serve .codePoint neverLoads s call)
        (TenantCall.madeBy "tenant-sg") .empty
        [.submit (keyedSubmission "tenant-sg") "job-sg", .status "tenant-sg" "job-hk"] := by
  obtain ⟨hreads, hforeign, hothers⟩ := tenant_isolation .codePoint neverLoads "tenant-sg"
  obtain ⟨hsame, hobs⟩ := hothers .empty [.submit (keyedSubmission "tenant-hk") "job-hk"]
    [.submit (keyedSubmission "tenant-sg") "job-sg", .status "tenant-sg" "job-hk"]
    (by decide) (by decide) (by decide)
  obtain ⟨job, hj, ht⟩ := Option.map_eq_some_iff.1 neighbour_found
  refine ⟨hreads _ _ hsame "job-sg", hforeign _ _ _ ⟨job, hj, ?_⟩ (by decide), hobs⟩
  rw [ht]
  decide

end Example

end LotusRisk
