import LotusRisk.Scenario.Evaluation
import LotusRisk.ScenarioJobs.Admission

/-! The worker. A claim, the publication and the record of a failure are transactions of their own;
the evaluation between them reads nothing but the claim. -/

namespace LotusRisk
open Relational JsonText Fencing ScenarioJobStore
set_option autoImplicit true

/-- What `record_scenario_job_execution` is told. -/
inductive ScenarioJobExecutionOutcome where
  | succeeded | staleClaim | qualifiedFailure | invalidInput | idle | retryableError
deriving DecidableEq, Repr

variable [PyFloat F] [PyText]

section Evaluation

/-- `RegimeScenarioPackJobRequest.model_validate(json.loads(text))`: `parse` reads the JSON text and
the field types, the validators of the class decide. -/
def modelValidate (parse : String → Except PyException (ScenarioEvaluationRequest F))
    (text : String) : Except PyException (RegimeScenarioPackJobRequest F) :=
  match parse text with
  | .error e => .error e
  | .ok request =>
    match h : RegimeScenarioPackJobRequest.validate request with
    | .ok () => .ok { request with accepted := h }
    | .error e => .error e

/-- The evaluation in `_evaluate_claim`, up to the publication. -/
def evaluateClaim (parse : String → Except PyException (ScenarioEvaluationRequest F))
    (catalog : ScenarioCatalog F) (claim : ScenarioEvaluationJobRecord) :
    Except PyException (RegimeScenarioPackResponse F) := do
  let request ← modelValidate parse claim.immutableRequestJson
  let revision ← scenarioPackRevision catalog request.scenarioPackId
  raiseIf (revision ≠ claim.scenarioPackRevision)
    (.qualifiedFailure "SCENARIO_PACK_REVISION_UNAVAILABLE")
  evaluateLargeRegimeScenarioJob catalog request

/-- The response with the contributions left to the pages. -/
def aggregateResult (evaluation : RegimeScenarioPackResponse F) : RegimeScenarioPackResponse F :=
  { evaluation with
    scenarioResults := evaluation.scenarioResults.map
      (fun scenario => { scenario with positionContributions := [] }) }

def contributionRecord (jobId scenarioId : String)
    (contribution : ScenarioPositionContribution F) (ordinal : Nat) :
    ScenarioEvaluationJobContributionRecord F where
  jobId := jobId
  scenarioId := scenarioId
  ordinal := ordinal
  securityId := contribution.securityId
  displayName := contribution.displayName
  bucket := contribution.bucket
  weight := contribution.weight
  shockPct := contribution.shockPct
  contributionLossPct := contribution.contributionLossPct

/-- `enumerate(scenario.position_contributions)`, as rows. -/
def scenarioRecords (jobId : String) (scenario : ScenarioResult F) :
    List (ScenarioEvaluationJobContributionRecord F) :=
  scenario.positionContributions.zipIdx.map
    (fun m => contributionRecord jobId scenario.scenarioId m.1 m.2)

def contributionRecords (jobId : String) (evaluation : RegimeScenarioPackResponse F) :
    List (ScenarioEvaluationJobContributionRecord F) :=
  evaluation.scenarioResults.flatMap (scenarioRecords jobId)

end Evaluation

section Settlement

def publishClaim (db : Database) (s : ScenarioJobStore F) (claim : ScenarioEvaluationJobRecord)
    (token : String) (evaluation : RegimeScenarioPackResponse F) (completedAt : Timestamp) :
    Except PyException (ScenarioJobExecutionOutcome × ScenarioJobStore F) := do
  let (completed, s') ← s.completeClaim db claim.jobId token
    (aggregateResult evaluation).modelDump (contributionRecords claim.jobId evaluation) completedAt
  pure (if completed then .succeeded else .staleClaim, s')

def recordClaimFailure (db : Database) (s : ScenarioJobStore F)
    (claim : ScenarioEvaluationJobRecord) (token : String) (failedAt : Timestamp)
    (failureCode failureDetail : String) (terminalOutcome : ScenarioJobExecutionOutcome) :
    Except PyException (ScenarioJobExecutionOutcome × ScenarioJobStore F) := do
  let (failed, s') ← s.failClaim db claim.jobId token failureCode failureDetail failedAt
  pure (if failed then terminalOutcome else .staleClaim, s')

/-- The `try` statement of `process_one_scenario_job`. -/
def settleClaim (db : Database) (parse : String → Except PyException (ScenarioEvaluationRequest F))
    (catalog : ScenarioCatalog F) (s : ScenarioJobStore F) (claim : ScenarioEvaluationJobRecord)
    (token : String) (completedAt failedAt : Timestamp) :
    Except PyException (ScenarioJobExecutionOutcome × ScenarioJobStore F) :=
  match evaluateClaim parse catalog claim >>=
      (fun evaluation => publishClaim db s claim token evaluation completedAt) with
  | .ok r => .ok r
  | .error (.qualifiedFailure code) =>
    recordClaimFailure db s claim token failedAt code code .qualifiedFailure
  | .error e =>
    if e.isInputError then
      recordClaimFailure db s claim token failedAt "SCENARIO_EVALUATION_INVALID_INPUT"
        "Persisted scenario job input could not be evaluated." .invalidInput
    else .error e

end Settlement

section Processing

/-- The store after further transactions. -/
def ScenarioJobStore.after (db : Database) (s : ScenarioJobStore F) (ops : List (StoreOp F)) :
    ScenarioJobStore F :=
  ops.foldl (fun s op => (op.perform db s).1) s

/-- What one invocation of the worker recorded, returned or raised, and left. -/
structure Processed (F : Type) where
  recorded : Option ScenarioJobExecutionOutcome
  answer : Except PyException (Option String)
  store : ScenarioJobStore F

/-- `dt.timedelta(seconds=value)` in microseconds. -/
def secondsDelta (value : Int) : Timestamp := value * 1000000

/-- `between` are the transactions other callers commit while the claim is evaluated. -/
def processOneScenarioJob (db : Database)
    (parse : String → Except PyException (ScenarioEvaluationRequest F))
    (catalog : ScenarioCatalog F) (s : ScenarioJobStore F) (claimedAt : Timestamp)
    (leaseSeconds : Int) (token : String) (between : List (StoreOp F))
    (completedAt failedAt : Timestamp) : Processed F :=
  if leaseSeconds ≤ 0 then
    ⟨none, .error (.valueError "scenario job lease_seconds must be positive"), s⟩
  else match s.claimNext db claimedAt (claimedAt + secondsDelta leaseSeconds) token with
    | .error e => ⟨some .retryableError, .error e, s⟩
    | .ok (none, s') => ⟨some .idle, .ok none, s'⟩
    | .ok (some claim, s') =>
      match settleClaim db parse catalog (s'.after db between) claim token completedAt failedAt with
      | .ok (outcome, s'') => ⟨some outcome, .ok (some claim.jobId), s''⟩
      | .error e => ⟨some .retryableError, .error e, s'.after db between⟩

end Processing

section Reading

variable {parse : String → Except PyException (ScenarioEvaluationRequest F)}
  {request : RegimeScenarioPackJobRequest F} {catalog : ScenarioCatalog F}
  {claim : ScenarioEvaluationJobRecord}

/-- A stored request that reads back passes the validators it passed at admission. -/
theorem modelValidate_of_parse (h : parse text = .ok request.toScenarioEvaluationRequest) :
    modelValidate parse text = .ok request := by
  unfold modelValidate
  rw [h]
  dsimp only
  split
  · rfl
  · rename_i e he
    rw [request.accepted] at he
    cases he

/-- An evaluation is of the stored request, under the pack the claim was admitted with. -/
theorem evaluateClaim_eq_ok (h : evaluateClaim parse catalog claim = .ok evaluation) :
    ∃ (request : RegimeScenarioPackJobRequest F) (pack : List (ScenarioDefinition F)),
      catalog.packs.get? request.scenarioPackId = some pack ∧
      packRevision pack = claim.scenarioPackRevision ∧
      responseFromEvaluation catalog request.toScenarioEvaluationRequest = .ok evaluation := by
  unfold evaluateClaim at h
  obtain ⟨request, -, h⟩ := bind_eq_ok.1 h
  obtain ⟨revision, hr, h⟩ := bind_eq_ok.1 h
  obtain ⟨pack, hp, he⟩ := scenarioPackRevision_eq_ok.1 hr
  obtain ⟨hn, h⟩ := raiseIf_bind_eq_ok.1 h
  rw [decide_eq_false_iff_not, not_not] at hn
  refine ⟨request, pack, hp, he.trans hn, ?_⟩
  unfold evaluateLargeRegimeScenarioJob at h
  rw [hp] at h
  exact h

variable (hr : modelValidate parse claim.immutableRequestJson = .ok request)

include hr

theorem evaluateClaim_of_removed (hp : catalog.packs.get? request.scenarioPackId = none) :
    evaluateClaim parse catalog claim = .error (.keyError request.scenarioPackId) := by
  unfold evaluateClaim scenarioPackRevision
  rw [hr]
  simp only [bind, Except.bind]
  rw [hp]

theorem evaluateClaim_of_changed (hp : catalog.packs.get? request.scenarioPackId = some pack)
    (hn : packRevision pack ≠ claim.scenarioPackRevision) :
    evaluateClaim parse catalog claim =
      .error (.qualifiedFailure "SCENARIO_PACK_REVISION_UNAVAILABLE") := by
  unfold evaluateClaim scenarioPackRevision
  rw [hr]
  simp only [bind, Except.bind]
  rw [hp]
  dsimp only
  rw [decide_eq_true hn]
  rfl

theorem evaluateClaim_of_current (hp : catalog.packs.get? request.scenarioPackId = some pack)
    (he : packRevision pack = claim.scenarioPackRevision) :
    evaluateClaim parse catalog claim =
      responseFromEvaluation catalog request.toScenarioEvaluationRequest := by
  unfold evaluateClaim scenarioPackRevision evaluateLargeRegimeScenarioJob
  rw [hr]
  simp only [bind, Except.bind]
  rw [hp]
  simp [he]

end Reading

section Rows

variable {db : Database} {request : ScenarioEvaluationRequest F}
  {pack : List (ScenarioDefinition F)} {evaluation : RegimeScenarioPackResponse F}

/-- The rows of the request have texts that fit their columns, and no two of them share a key. -/
def RowsStorable (db : Database) (pack : List (ScenarioDefinition F))
    (components : List (ScenarioExposureComponent F)) : Prop :=
  components = [] ∨ (pack.map (·.scenarioId)).Nodup ∧ ∀ scenario ∈ pack,
    db.fits 128 scenario.scenarioId = true ∧ ∀ component ∈ components,
      db.fits 256 component.securityId = true ∧ db.fitsOptional 512 component.displayName = true ∧
      db.fits 128 (PyText.upper component.bucket) = true

instance (db : Database) (pack : List (ScenarioDefinition F))
    (components : List (ScenarioExposureComponent F)) :
    Decidable (RowsStorable db pack components) :=
  inferInstanceAs (Decidable (_ ∨ _ ∧ _))

omit [PyFloat F] [PyText] in
theorem mem_contributionRecords :
    row ∈ contributionRecords jobId evaluation ↔ ∃ scenario ∈ evaluation.scenarioResults,
      ∃ m ∈ scenario.positionContributions.zipIdx,
        contributionRecord jobId scenario.scenarioId m.1 m.2 = row := by
  simp only [contributionRecords, scenarioRecords, List.mem_flatMap, List.mem_map]

omit [PyFloat F] [PyText] in
theorem contributionRecords_jobId (row : ScenarioEvaluationJobContributionRecord F)
    (h : row ∈ contributionRecords jobId evaluation) : row.jobId = jobId := by
  obtain ⟨scenario, -, m, -, rfl⟩ := mem_contributionRecords.1 h
  rfl

theorem length_rankedContributions (scenario : ScenarioDefinition F)
    (components : List (ScenarioExposureComponent F)) :
    (rankedContributions scenario components).length = components.length := by
  rw [(perm_rankedContributions scenario components).length_eq, List.length_map]

theorem keys_contributionRecords
    (he : evaluation.scenarioResults = pack.map (scenarioResult request)) :
    (contributionRecords jobId evaluation).map (·.key) = pack.flatMap (fun scenario =>
      (List.range request.exposureComponents.length).map
        (fun ordinal => (jobId, scenario.scenarioId, ordinal))) := by
  unfold contributionRecords
  rw [he, List.map_flatMap, List.flatMap_map]
  apply congrArg (fun f => pack.flatMap f)
  funext scenario
  have hz := List.zipIdx_map_snd 0 (rankedContributions scenario request.exposureComponents)
  rw [length_rankedContributions, ← List.range_eq_range'] at hz
  rw [← hz, List.map_map]
  unfold scenarioRecords
  rw [List.map_map]
  rfl

theorem nodup_contributionRecords
    (he : evaluation.scenarioResults = pack.map (scenarioResult request)) :
    ((contributionRecords jobId evaluation).map (·.key)).Nodup ↔
      request.exposureComponents = [] ∨ (pack.map (·.scenarioId)).Nodup := by
  have hscenario : ∀ scenario ∈ pack, ((List.range request.exposureComponents.length).map
      (fun ordinal => (jobId, scenario.scenarioId, ordinal))).Nodup := by
    intro scenario _
    apply List.Nodup.map _ List.nodup_range
    intro i j h
    exact congrArg (fun key => key.2.2) h
  rw [keys_contributionRecords he, List.nodup_flatMap, and_iff_right hscenario]
  cases hc : request.exposureComponents with
  | nil =>
    simp only [true_or, iff_true]
    exact List.pairwise_of_forall (fun _ _ => List.disjoint_nil_left _)
  | cons component components =>
    simp only [reduceCtorEq, false_or]
    rw [List.Nodup, List.pairwise_map]
    have hd : ∀ a b : ScenarioDefinition F, (Function.onFun List.Disjoint (fun scenario =>
        (List.range (component :: components).length).map
          (fun ordinal => (jobId, scenario.scenarioId, ordinal)))) a b ↔
        a.scenarioId ≠ b.scenarioId := by
      intro a b
      constructor
      · intro h he
        have hm (scenario : ScenarioDefinition F) : (jobId, scenario.scenarioId, 0) ∈
            (List.range (component :: components).length).map
              (fun ordinal => (jobId, scenario.scenarioId, ordinal)) :=
          List.mem_map.2 ⟨0, by simp, rfl⟩
        exact h (hm a) (he ▸ hm b)
      · intro h key ha hb
        obtain ⟨i, -, rfl⟩ := List.mem_map.1 ha
        obtain ⟨j, -, hj⟩ := List.mem_map.1 hb
        exact h (congrArg (fun key => key.2.1) hj).symm
    exact ⟨fun h => h.imp (hd _ _).1, fun h => h.imp (hd _ _).2⟩

theorem accepts_contributionRecords
    (he : evaluation.scenarioResults = pack.map (scenarioResult request)) :
    (contributionRecords jobId evaluation).all db.acceptsContribution = true ↔
      ∀ scenario ∈ pack, ∀ component ∈ request.exposureComponents,
        db.fits 128 scenario.scenarioId = true ∧ db.fits 256 component.securityId = true ∧
        db.fitsOptional 512 component.displayName = true ∧
        db.fits 128 (PyText.upper component.bucket) = true := by
  rw [List.all_eq_true]
  constructor
  · intro h scenario hs component hc
    have hr : positionContribution scenario component ∈
        rankedContributions scenario request.exposureComponents :=
      mem_rankedContributions.2 ⟨component, hc, rfl⟩
    obtain ⟨i, hi, hg⟩ := List.mem_iff_getElem.1 hr
    have hm : contributionRecord jobId scenario.scenarioId
        (positionContribution scenario component) i ∈ contributionRecords jobId evaluation := by
      refine mem_contributionRecords.2 ⟨scenarioResult request scenario, ?_,
        (positionContribution scenario component, i), ?_, rfl⟩
      · rw [he]
        exact List.mem_map.2 ⟨scenario, hs, rfl⟩
      · exact List.mem_zipIdx_iff_getElem?.2 (List.getElem?_eq_some_iff.2 ⟨hi, hg⟩)
    have ha := h _ hm
    unfold Database.acceptsContribution at ha
    simp only [Bool.and_eq_true] at ha
    exact ⟨ha.1.1.1, ha.1.1.2, ha.1.2, ha.2⟩
  · intro h row hm
    obtain ⟨result, hr, m, hz, rfl⟩ := mem_contributionRecords.1 hm
    rw [he] at hr
    obtain ⟨scenario, hs, rfl⟩ := List.mem_map.1 hr
    have hc := (List.mem_zipIdx_iff_getElem?.1 hz)
    obtain ⟨component, hc, hp⟩ := mem_rankedContributions.1 (List.mem_of_getElem? hc)
    obtain ⟨hf, hsec, hd, hb⟩ := h scenario hs component hc
    unfold Database.acceptsContribution contributionRecord
    rw [← hp]
    simp only [Bool.and_eq_true]
    exact ⟨⟨⟨hf, hsec⟩, hd⟩, hb⟩

theorem storable_contributionRecords
    (he : evaluation.scenarioResults = pack.map (scenarioResult request)) :
    Storable db (contributionRecords jobId evaluation) ↔
      RowsStorable db pack request.exposureComponents := by
  unfold Storable RowsStorable
  rw [nodup_contributionRecords he, accepts_contributionRecords he]
  cases hc : request.exposureComponents with
  | nil => simp
  | cons component components =>
    simp only [reduceCtorEq, false_or]
    rw [and_comm]
    apply and_congr_right
    intro _
    apply forall₂_congr
    intro scenario _
    constructor
    · intro h
      exact ⟨(h component List.mem_cons_self).1, fun c hc => (h c hc).2⟩
    · intro h c hc
      exact ⟨h.1, h.2 c hc⟩

end Rows

section Settlements

variable {db : Database} {parse : String → Except PyException (ScenarioEvaluationRequest F)}
  {catalog : ScenarioCatalog F} {s : ScenarioJobStore F} {claim : ScenarioEvaluationJobRecord}

theorem settleClaim_of_published {evaluation : RegimeScenarioPackResponse F}
    (h : s.Held claim.jobId token claim) (hn : s.contributionsOf claim.jobId = [])
    (he : evaluateClaim parse catalog claim = .ok evaluation)
    (hs : Storable db (contributionRecords claim.jobId evaluation))
    (completedAt failedAt : Timestamp) :
    ∃ s', settleClaim db parse catalog s claim token completedAt failedAt =
        .ok (.succeeded, s') ∧
      s'.job? claim.jobId = some (claim.succeededWith
        (dumps (aggregateResult evaluation).modelDump) completedAt) ∧
      s'.contributionsOf claim.jobId = contributionRecords claim.jobId evaluation := by
  obtain ⟨s', hc⟩ := completeClaim_of_storable h hn (contributionRecords_jobId) hs
    (aggregateResult evaluation).modelDump completedAt
  obtain ⟨hd, -⟩ | ⟨-, -, -, hj, hr⟩ := completeClaim_eq_ok hc
  · cases hd
  refine ⟨s', ?_, ?_, ?_⟩
  · unfold settleClaim publishClaim
    rw [he]
    simp only [bind, Except.bind]
    rw [hc]
    rfl
  · rw [hj, if_pos rfl, h.1]
    rfl
  · rw [hr, if_pos rfl, hn, List.nil_append]

/-- Rows the engine refuses leave the worker with a database error. -/
theorem settleClaim_of_refused {evaluation : RegimeScenarioPackResponse F}
    (h : s.Held claim.jobId token claim)
    (he : evaluateClaim parse catalog claim = .ok evaluation)
    (hs : ¬ Storable db (contributionRecords claim.jobId evaluation))
    (completedAt failedAt : Timestamp) :
    ∃ e, settleClaim db parse catalog s claim token completedAt failedAt = .error e := by
  unfold settleClaim publishClaim
  rw [he]
  simp only [bind, Except.bind]
  rcases completeClaim_of_not_storable h (contributionRecords_jobId) hs
    (aggregateResult evaluation).modelDump completedAt with hc | hc
  · rw [hc]
    exact ⟨_, rfl⟩
  · rw [hc]
    exact ⟨_, rfl⟩

theorem settleClaim_of_qualified (h : s.Held claim.jobId token claim)
    (he : evaluateClaim parse catalog claim = .error (.qualifiedFailure code))
    (hl : code.length ≤ 128) (hp : code.toList.all (fun c => ' ' ≤ c && c ≤ '~') = true)
    (completedAt failedAt : Timestamp) :
    settleClaim db parse catalog s claim token completedAt failedAt =
      .ok (.qualifiedFailure, s.updateJob claim.jobId (·.failedWith code code failedAt)
        (fun _ => rfl) (fun _ => rfl)) := by
  have hf := db.fits_printable hl hp
  have hd : code.toList.all db.storable = true := by
    unfold Database.fits at hf
    rw [Bool.and_eq_true] at hf
    exact hf.2
  unfold settleClaim recordClaimFailure
  rw [he]
  simp only [bind, Except.bind]
  rw [failClaim_of_held h hf hd]
  rfl

theorem settleClaim_of_invalid (h : s.Held claim.jobId token claim)
    (he : evaluateClaim parse catalog claim = .error e) (hi : e.isInputError = true)
    (completedAt failedAt : Timestamp) :
    settleClaim db parse catalog s claim token completedAt failedAt =
      .ok (.invalidInput, s.updateJob claim.jobId
        (·.failedWith "SCENARIO_EVALUATION_INVALID_INPUT"
          "Persisted scenario job input could not be evaluated." failedAt)
        (fun _ => rfl) (fun _ => rfl)) := by
  have hf : db.fits 128 "SCENARIO_EVALUATION_INVALID_INPUT" = true :=
    db.fits_printable (by decide) (by decide)
  have hd : db.fits 128 "Persisted scenario job input could not be evaluated." = true :=
    db.fits_printable (by decide) (by decide)
  unfold Database.fits at hd
  rw [Bool.and_eq_true] at hd
  unfold settleClaim recordClaimFailure
  rw [he]
  simp only [bind, Except.bind]
  rw [failClaim_of_held h hf hd.2]
  cases e with
  | qualifiedFailure code => cases hi
  | valueError | keyError | typeError | validationError | idempotencyConflict | admissionConflict =>
    rfl
  | runtimeError | overflowError | integrityError | dataError | decimalSignal => cases hi

end Settlements

end LotusRisk
