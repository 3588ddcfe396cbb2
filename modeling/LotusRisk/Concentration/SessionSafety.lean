import LotusRisk.Concentration.ModeAgreement
import LotusRisk.Concentration.SimulationDialogue

/-! Whatever the core answers, a concentration calls it for one tenant, on one session, and in
order. -/

namespace LotusRisk
open Effects Emission Dialogue
set_option autoImplicit true

section Readings

/-- The place of a call in a dialogue. -/
def CoreCall.rank : CoreCall → Nat
  | .createSimulationSession _ _ _ _ => 0
  | .addSimulationChanges _ _ _ _ _ => 1
  | .getCoreSnapshot _ _ _ => 2

/-- The entry of the simulation that a snapshot names. -/
def simulationEntry (payload : List (String × PyValue ℚ)) (key : String) : PyValue ℚ :=
  getEntry (mappingOrEmpty (getEntry payload "simulation")) key

/-- The session that a call names. -/
def CoreCall.sessionId : CoreCall → PyValue ℚ
  | .createSimulationSession _ _ _ _ => .none
  | .addSimulationChanges sessionId _ _ _ _ => .str sessionId
  | .getCoreSnapshot _ requestPayload _ => simulationEntry requestPayload "session_id"

/-- The version that a snapshot is read at. -/
def CoreCall.expectedVersion : CoreCall → PyValue ℚ
  | .getCoreSnapshot _ requestPayload _ => simulationEntry requestPayload "expected_version"
  | _ => .none

/-- The portfolio that a call names. -/
def CoreCall.portfolioId : CoreCall → Option String
  | .createSimulationSession portfolioId _ _ _ => some portfolioId
  | .addSimulationChanges _ _ _ _ _ => none
  | .getCoreSnapshot portfolioId _ _ => some portfolioId

/-- An entry of the session that was created. -/
def sessionEntry (response : List (String × PyValue ℚ)) (key : String) : PyValue ℚ :=
  getEntry (mappingOrEmpty (getEntry response "session")) key

variable {T : Type} (sessionTexts : SessionTexts T)

def versionOf (value : PyValue ℚ) : PyValue ℚ := ((asInt sessionTexts value).toOption).getD .none

/-- The version that is known after one more exchange. -/
def learnVersion (version : PyValue ℚ) : CoreCall × CoreAnswer → PyValue ℚ
  | (.createSimulationSession _ _ _ _, .ok response) =>
    versionOf sessionTexts (sessionEntry response "version")
  | (.addSimulationChanges _ _ _ _ _, .ok response) =>
    pyOr (versionOf sessionTexts (getEntry response "version")) version
  | _ => version

/-- The version that the core has reported last; an answer to the changes that reports none, zero or
`False` leaves the one before. -/
def reportedVersion (calls : List (CoreCall × CoreAnswer)) : PyValue ℚ :=
  calls.foldl (learnVersion sessionTexts) .none

end Readings

section Sessions

variable {T : Type} (sessionTexts : SessionTexts T) (simulation : SimulationConcentrationInput)
  (idempotencyKey : Option String)

/-- What a call of a simulation may be, after the exchanges before it. -/
structure SessionCall (before : List (CoreCall × CoreAnswer)) (call : CoreCall) : Prop where
  answered : ∀ exchange ∈ before, ∃ response, exchange.2 = .ok response
  ordered : ∀ exchange ∈ before, exchange.1.rank < call.rank
  creates : call.rank = 0 → simulation.shouldCreateSession = true
  own : call.rank ≠ 0 → simulation.shouldCreateSession = false →
    ∃ sessionId, simulation.sessionId = some sessionId ∧ call.sessionId = .str sessionId
  created : call.rank ≠ 0 → simulation.shouldCreateSession = true →
    ∃ exchange ∈ before, exchange.1.rank = 0 ∧
      ∃ response, exchange.2 = .ok response ∧ call.sessionId = sessionEntry response "session_id"
  keyed : call.rank = 1 → ∃ sessionId,
    call = .addSimulationChanges sessionId (changePayload simulation) call.authority
      (normalizedKey idempotencyKey) (changeSetFingerprint sessionTexts sessionId
        simulation.portfolioId (changePayload simulation)) ∧
    normalizedKey idempotencyKey ≠ "" ∧ (normalizedKey idempotencyKey).length ≤ 128
  applied : call.rank = 2 → simulation.simulationChanges ≠ [] →
    ∃ exchange ∈ before, exchange.1.rank = 1
  locked : call.rank = 2 → ∀ version, simulation.expectedVersion = some version →
    call.expectedVersion = .int version
  current : call.rank = 2 → simulation.expectedVersion = none →
    call.expectedVersion = reportedVersion sessionTexts before

variable {sessionTexts simulation idempotencyKey} {authority : DownstreamAuthority}
  {actorId : Option String}

theorem eq_none_of_isNone {value : PyValue ℚ} (h : value.isNone = true) : value = .none := by
  cases value with
  | none => rfl
  | _ => cases h

theorem asStr_eq_some {value : PyValue ℚ} : asStr value = some text ↔ value = .str text := by
  cases value <;> simp [asStr]

theorem versionOf_eq (h : asInt sessionTexts value = .ok version) :
    versionOf sessionTexts value = version := by
  rw [versionOf, h]
  rfl

theorem createdSimulationSession_ok {session : SimulationSession T}
    (h : createdSimulationSession sessionTexts response = .ok session) :
    sessionEntry response "session_id" = .str session.sessionId ∧
      versionOf sessionTexts (sessionEntry response "version") = session.version := by
  unfold createdSimulationSession at h
  split at h
  · rename_i sessionRecord hrecord
    split at h
    · rename_i sessionId hid
      split_ifs at h
      obtain ⟨version, hversion, h⟩ := bind_eq_ok.1 h
      cases h
      rw [sessionEntry, sessionEntry, hrecord]
      exact ⟨asStr_eq_some.1 hid, versionOf_eq (SourceException.ofPython_eq_ok.1 hversion)⟩
    · cases h
  · cases h

theorem sessionId_snapshotCall (session : SimulationSession T) :
    (snapshotCall authority simulation session).sessionId = .str session.sessionId := rfl

theorem expectedVersion_snapshotCall (session : SimulationSession T) :
    (snapshotCall authority simulation session).expectedVersion =
      expectedVersionOf simulation session := by
  change getEntry ([("session_id", .str session.sessionId)] ++
    if (expectedVersionOf simulation session).isNone then []
    else [("expected_version", expectedVersionOf simulation session)]) "expected_version" = _
  split_ifs with hnone
  · rw [eq_none_of_isNone hnone]
    rfl
  · rfl

theorem expectedVersionOf_some (session : SimulationSession T)
    (h : simulation.expectedVersion = some version) :
    expectedVersionOf simulation session = .int version := by
  have hpos := simulation.expectedVersion_pos version h
  have htruthy : (PyValue.int version : PyValue ℚ).truthy = true := by
    simp only [PyValue.truthy, decide_eq_true_eq]
    omega
  rw [expectedVersionOf, h]
  exact if_pos htruthy

/-- What is known of the session that is held. -/
theorem Held.known (h : Held sessionTexts authority simulation actorId calls session) :
    (∀ exchange ∈ calls, exchange.1.rank = 0) ∧
    (simulation.shouldCreateSession = false → simulation.sessionId = some session.sessionId) ∧
    (simulation.shouldCreateSession = true → ∃ exchange ∈ calls, exchange.1.rank = 0 ∧
      ∃ response, exchange.2 = .ok response ∧
        PyValue.str session.sessionId = sessionEntry response "session_id") ∧
    session.version = reportedVersion sessionTexts calls := by
  cases h with
  | own hcreate hid =>
    refine ⟨fun _ hmem => absurd hmem List.not_mem_nil, fun _ => hid, ?_, rfl⟩
    intro h
    cases hcreate.symm.trans h
  | created hcreate hsession =>
    obtain ⟨hid, hversion⟩ := createdSimulationSession_ok hsession
    refine ⟨?_, ?_, fun _ => ⟨_, List.mem_singleton_self _, rfl, _, rfl, hid.symm⟩, hversion.symm⟩
    · intro exchange hmem
      cases List.mem_singleton.1 hmem
      rfl
    · intro h
      cases hcreate.symm.trans h

theorem Applied.known
    (h : Applied sessionTexts authority simulation actorId idempotencyKey calls session) :
    (∀ exchange ∈ calls, exchange.1.rank < 2) ∧
    (simulation.shouldCreateSession = false → simulation.sessionId = some session.sessionId) ∧
    (simulation.shouldCreateSession = true → ∃ exchange ∈ calls, exchange.1.rank = 0 ∧
      ∃ response, exchange.2 = .ok response ∧
        PyValue.str session.sessionId = sessionEntry response "session_id") ∧
    session.version = reportedVersion sessionTexts calls ∧
    (simulation.simulationChanges ≠ [] → ∃ exchange ∈ calls, exchange.1.rank = 1) := by
  cases h with
  | unchanged hchanges hheld =>
    obtain ⟨hrank, hown, hcreated, hversion⟩ := hheld.known
    refine ⟨?_, hown, hcreated, hversion, fun hne => absurd hchanges hne⟩
    intro exchange hmem
    rw [hrank exchange hmem]
    decide
  | changed hchanges hkey hheld hasInt =>
    obtain ⟨hrank, hown, hcreated, hversion⟩ := hheld.known
    refine ⟨?_, hown, ?_, ?_, ?_⟩
    · intro exchange hmem
      rcases List.mem_append.1 hmem with hbefore | hlast
      · rw [hrank exchange hbefore]
        decide
      · cases List.mem_singleton.1 hlast
        exact Nat.one_lt_two
    · intro hcreate
      obtain ⟨exchange, hmem, hresponse⟩ := hcreated hcreate
      exact ⟨exchange, List.mem_append_left _ hmem, hresponse⟩
    · rw [reportedVersion, List.foldl_append, ← reportedVersion, ← hversion]
      change _ = pyOr (versionOf sessionTexts _) _
      rw [versionOf_eq hasInt]
      rfl
    · intro _
      exact ⟨_, List.mem_append_right _ (List.mem_singleton_self _), rfl⟩

/-- A call that a phase sends is one that the history admits. -/
theorem History.sessionCall
    (h : History sessionTexts authority simulation actorId idempotencyKey p before)
    (hrequest : (simulationMachine sessionTexts authority simulation actorId
      idempotencyKey).request p = some call) :
    SessionCall sessionTexts simulation idempotencyKey before call := by
  have hanswered := h.answered hrequest
  cases p with
  | creating =>
    cases hrequest
    obtain ⟨rfl, hcreate, -⟩ := h
    exact {
      answered := hanswered
      ordered := fun _ hmem => absurd hmem List.not_mem_nil
      creates := fun _ => hcreate
      own := fun hrank => absurd rfl hrank
      created := fun hrank => absurd rfl hrank
      keyed := fun hrank => absurd hrank Nat.zero_ne_one
      applied := fun hrank => absurd hrank (Nat.zero_ne_add_one 1)
      locked := fun hrank => absurd hrank (Nat.zero_ne_add_one 1)
      current := fun hrank => absurd hrank (Nat.zero_ne_add_one 1) }
  | changing session =>
    cases hrequest
    obtain ⟨hheld, hchanges, key, hvalid⟩ := h
    obtain ⟨hrank, hown, hcreated, -⟩ := hheld.known
    obtain ⟨rfl, hblank, hlength⟩ := validateSimulationIdempotencyKey_ok hvalid
    exact {
      answered := hanswered
      ordered := fun exchange hmem => (hrank exchange hmem).trans_lt Nat.zero_lt_one
      creates := fun hrank => absurd hrank Nat.one_ne_zero
      own := fun _ howned => ⟨session.sessionId, hown howned, rfl⟩
      created := fun _ hcreate => hcreated hcreate
      keyed := fun _ => ⟨session.sessionId, rfl, hblank, hlength⟩
      applied := fun hrank => absurd hrank (Nat.succ_ne_self 1).symm
      locked := fun hrank => absurd hrank (Nat.succ_ne_self 1).symm
      current := fun hrank => absurd hrank (Nat.succ_ne_self 1).symm }
  | reading session =>
    cases hrequest
    obtain ⟨hrank, hown, hcreated, hversion, happlied⟩ := Applied.known h
    exact {
      answered := hanswered
      ordered := hrank
      creates := fun hrank => absurd hrank two_ne_zero
      own := fun _ howned => ⟨session.sessionId, hown howned, sessionId_snapshotCall session⟩
      created := fun _ hcreate => hcreated hcreate
      keyed := fun hrank => absurd hrank (Nat.succ_ne_self 1)
      applied := fun _ hchanges => happlied hchanges
      locked := fun _ version hexpected =>
        (expectedVersion_snapshotCall session).trans (expectedVersionOf_some session hexpected)
      current := fun _ hexpected => by
        rw [expectedVersion_snapshotCall, expectedVersionOf, hexpected]
        exact hversion }
  | read session snapshot => cases hrequest
  | failed error => cases hrequest

end Sessions

section Authority

/-- Whom a call acts for. -/
structure AuthorizedCall (context : RequestContext) (request : UpstreamConcentrationRequest)
    (call : CoreCall) : Prop where
  tenant : ∃ tenantId, requestTenantId context = .ok (some tenantId) ∧
    call.authority.tenantId = pyStrip tenantId
  resolved : context.verifiedPosture = true → context.resolvedPrincipal ≠ none
  entitled : ∀ principal, context.resolvedPrincipal = some principal →
    ∀ portfolioId ∈ request.input.portfolioId :: request.otherPortfolioIds,
      portfolioId ∈ principal.portfolioIds
  portfolio : ∀ portfolioId, call.portfolioId = some portfolioId →
    portfolioId = request.input.portfolioId
  sent : ∃ sent, call.request = .ok sent ∧
    sent.headers.lookup "X-Tenant-Id" = some call.authority.tenantId ∧
    (call.rank = 2 → getEntry sent.payload "tenant_id" = .str call.authority.tenantId)

theorem admitDownstreamAuthority_ok
    (h : admitDownstreamAuthority tenantId correlationId = .ok authority) :
    ∃ text, tenantId = some text ∧ authority.tenantId = pyStrip text := by
  unfold admitDownstreamAuthority at h
  dsimp only at h
  split_ifs at h with hblank hlong
  cases h
  cases tenantId with
  | none => exact absurd rfl hblank
  | some text => exact ⟨text, rfl, rfl⟩

/-- The admission is that of the context's tenant, in the scope of its principal. -/
theorem admitConcentration_ok {context : RequestContext}
    (h : admitConcentration context request = .ok (authority, actorId)) :
    (∃ tenantId, requestTenantId context = .ok (some tenantId) ∧
      authority.tenantId = pyStrip tenantId) ∧
    (context.verifiedPosture = true → context.resolvedPrincipal ≠ none) ∧
    ∀ principal, context.resolvedPrincipal = some principal →
      ∀ portfolioId ∈ request.input.portfolioId :: request.otherPortfolioIds,
        portfolioId ∈ principal.portfolioIds := by
  obtain ⟨tenantId, htenant, h⟩ := bind_eq_ok.1 h
  obtain ⟨actor, -, h⟩ := bind_eq_ok.1 h
  obtain ⟨u, hscope, h⟩ := bind_eq_ok.1 h
  obtain ⟨admitted, hadmitted, h⟩ := bind_eq_ok.1 h
  cases h
  obtain ⟨text, htext, hid⟩ := admitDownstreamAuthority_ok (mapError_eq_ok.1 hadmitted)
  refine ⟨⟨text, htext ▸ htenant, hid⟩, ?_, ?_⟩
  · intro hverified hnone
    rw [requestTenantId, requestPrincipal, hnone] at htenant
    simp only [hverified, if_true] at htenant
    cases htenant
  · intro principal hprincipal
    rw [requirePortfolioScope, requestPrincipal, hprincipal] at hscope
    obtain ⟨found, hfound, hscope⟩ := bind_eq_ok.1 hscope
    cases hfound
    dsimp only at hscope
    split_ifs at hscope with hall
    exact hall

/-- A payload that names no consumer and no tenant is sent for the authority's. -/
theorem sent_of_unnamed (hconsumer : payload.lookup "consumer_system" = none)
    (htenant : payload.lookup "tenant_id" = none) (portfolioId : String)
    (authority : DownstreamAuthority) : ∃ sent,
      (CoreCall.getCoreSnapshot portfolioId payload authority).request = .ok sent ∧
      sent.headers.lookup "X-Tenant-Id" = some authority.tenantId ∧
      getEntry sent.payload "tenant_id" = .str authority.tenantId := by
  have hcore : riskCorePayload payload =
      .ok (payload ++ [("consumer_system", .str riskConsumerSystem)]) := by
    simp [riskCorePayload, disagrees, withEntry, hconsumer, bind, Except.bind]
  have hname : (payload ++ [("consumer_system", PyValue.str riskConsumerSystem)]).lookup
      "tenant_id" = none := by
    rw [List.lookup_append, htenant]
    rfl
  have hpayload : riskCoreSnapshotPayload payload authority =
      .ok (payload ++ [("consumer_system", .str riskConsumerSystem)] ++
        [("tenant_id", .str authority.tenantId)]) := by
    simp only [riskCoreSnapshotPayload, disagrees, htenant, Option.isSome_none, Bool.false_and,
      raiseIf_false, hcore, bind, Except.bind]
    rw [withEntry, hname]
    rfl
  refine ⟨_, by rw [CoreCall.request, hpayload]; rfl, rfl, ?_⟩
  rw [getEntry, List.lookup_append, hname]
  rfl

theorem lookup_reportingCurrencyEntry (input : StatefulConcentrationInput)
    (h : key ≠ "reporting_currency") : (reportingCurrencyEntry input).lookup key = none := by
  unfold reportingCurrencyEntry
  cases input.reportingCurrency.filter (· ≠ "") with
  | none => rfl
  | some currency =>
    change ([("reporting_currency", PyValue.str currency)] : List (String × PyValue ℚ)).lookup
      key = none
    rw [List.lookup_cons, beq_eq_false_iff_ne.2 h]
    rfl

theorem sent_statefulSnapshot (stateful : StatefulConcentrationInput)
    (authority : DownstreamAuthority) : ∃ sent,
      (CoreCall.getCoreSnapshot stateful.portfolioId (statefulSnapshotPayload stateful)
        authority).request = .ok sent ∧
      sent.headers.lookup "X-Tenant-Id" = some authority.tenantId ∧
      getEntry sent.payload "tenant_id" = .str authority.tenantId := by
  apply sent_of_unnamed
  · rw [statefulSnapshotPayload, List.lookup_append,
      lookup_reportingCurrencyEntry stateful (by decide)]
    rfl
  · rw [statefulSnapshotPayload, List.lookup_append,
      lookup_reportingCurrencyEntry stateful (by decide)]
    rfl

theorem sent_simulationSnapshot {T : Type} (simulation : SimulationConcentrationInput)
    (session : SimulationSession T) (authority : DownstreamAuthority) : ∃ sent,
      (snapshotCall authority simulation session).request = .ok sent ∧
      sent.headers.lookup "X-Tenant-Id" = some authority.tenantId ∧
      getEntry sent.payload "tenant_id" = .str authority.tenantId := by
  apply sent_of_unnamed
  · rw [simulationSnapshotPayload, List.lookup_append,
      lookup_reportingCurrencyEntry simulation.toStatefulConcentrationInput (by decide)]
    rfl
  · rw [simulationSnapshotPayload, List.lookup_append,
      lookup_reportingCurrencyEntry simulation.toStatefulConcentrationInput (by decide)]
    rfl

/-- A call of a simulation names the authority that it was admitted for, and can be sent. -/
theorem sent_of_request {T : Type} {sessionTexts : SessionTexts T} {p : SimulationPhase T}
    (h : (simulationMachine sessionTexts authority simulation actorId
      idempotencyKey).request p = some call) :
    call.authority = authority ∧
    (∀ portfolioId, call.portfolioId = some portfolioId →
      portfolioId = simulation.portfolioId) ∧
    ∃ sent, call.request = .ok sent ∧
      sent.headers.lookup "X-Tenant-Id" = some authority.tenantId ∧
      (call.rank = 2 → getEntry sent.payload "tenant_id" = .str authority.tenantId) := by
  cases p with
  | creating =>
    cases h
    exact ⟨rfl, fun _ hid => (Option.some.inj hid).symm, _, rfl, rfl,
      fun hrank => absurd hrank (Nat.zero_ne_add_one 1)⟩
  | changing session =>
    cases h
    exact ⟨rfl, fun _ hid => (by cases hid), _, rfl, rfl,
      fun hrank => absurd hrank (Nat.succ_ne_self 1).symm⟩
  | reading session =>
    cases h
    obtain ⟨sent, hsent, hheader, hpayload⟩ := sent_simulationSnapshot simulation session authority
    exact ⟨rfl, fun _ hid => (Option.some.inj hid).symm, sent, hsent, hheader, fun _ => hpayload⟩
  | read session snapshot => cases h
  | failed error => cases h

end Authority

section Dialogues

variable {T F : Type} [ExposureFloat F] (texts : PyTexts ℚ) (sessionTexts : SessionTexts T)

/-- What is computed from the snapshot of an input. -/
def UpstreamInput.computation (policy : IssuerPolicy) (snapshot : List (String × PyValue ℚ)) :
    UpstreamInput → Except SourceException (SnapshotComputation F)
  | .stateful input => statefulComputation texts policy input snapshot
  | .simulation input =>
    simulationComputation texts policy input.toStatefulConcentrationInput snapshot

/-- The exchanges of a concentration with the core, against what it returns or raises. -/
structure ConcentrationDialogue (authority : DownstreamAuthority)
    (request : UpstreamConcentrationRequest) (idempotencyKey : Option String)
    (calls : List (CoreCall × CoreAnswer))
    (result : Except ConcentrationError (ConcentrationSource T F)) : Prop where
  sent : ∀ call ∈ calls, call.1.authority = authority ∧
    (∀ portfolioId, call.1.portfolioId = some portfolioId →
      portfolioId = request.input.portfolioId) ∧
    ∃ sent, call.1.request = .ok sent ∧
      sent.headers.lookup "X-Tenant-Id" = some authority.tenantId ∧
      (call.1.rank = 2 → getEntry sent.payload "tenant_id" = .str authority.tenantId)
  stateful : ∀ input, request.input = .stateful input → calls.length ≤ 1
  simulation : ∀ input, request.input = .simulation input →
    ∀ before call after, calls = before ++ call :: after →
      SessionCall sessionTexts input idempotencyKey before call.1
  failed : ∀ call ∈ calls, ∀ error, call.2 = .error error → result = .error (.source error)
  returned : ∀ source, result = .ok source → ∃ before snapshot,
    calls = before ++ [(.getCoreSnapshot request.input.portfolioId source.snapshotPayload
      authority, .ok snapshot)] ∧
    request.input.computation texts request.policy snapshot = .ok source.computation

variable {texts sessionTexts} {coreClient : CoreClient} {authority : DownstreamAuthority}
  {policy : IssuerPolicy} {actorId idempotencyKey : Option String}

theorem emits_callCore (call : CoreCall) : Emits (callCore coreClient call) fun calls result =>
    ∃ answer, calls = [(call, answer)] ∧ result = answer.mapError .source := by
  apply Emits.bind (emits_ask coreClient call)
  · rintro calls e ⟨answer, -, he⟩
    cases he
  · rintro calls response ⟨answer, rfl, hanswer⟩
    cases hanswer
    exact emits_ofExcept ⟨response, rfl, rfl⟩

/-- The only call of a stateful concentration, whatever follows from its answer. -/
theorem dialogue_snapshot {stateful : StatefulConcentrationInput}
    {result : Except ConcentrationError (ConcentrationSource T F)}
    (hfailed : ∀ error, answer = .error error → result = .error (.source error))
    (hreturned : ∀ source, result = .ok source → ∃ snapshot, answer = .ok snapshot ∧
      source.snapshotPayload = statefulSnapshotPayload stateful ∧
      statefulComputation texts policy stateful snapshot = .ok source.computation) :
    ConcentrationDialogue texts sessionTexts authority ⟨.stateful stateful, others, policy⟩
      idempotencyKey [(.getCoreSnapshot stateful.portfolioId (statefulSnapshotPayload stateful)
        authority, answer)] result := by
  refine ⟨?_, fun _ _ => le_rfl, fun _ hinput => (by cases hinput), ?_, ?_⟩
  · intro call hmem
    cases List.mem_singleton.1 hmem
    obtain ⟨sent, hsent, hheader, hpayload⟩ := sent_statefulSnapshot stateful authority
    exact ⟨rfl, fun _ hid => (Option.some.inj hid).symm, sent, hsent, hheader, fun _ => hpayload⟩
  · intro call hmem error herror
    cases List.mem_singleton.1 hmem
    exact hfailed error herror
  · intro source hsource
    obtain ⟨snapshot, rfl, hpayload, hcomputation⟩ := hreturned source hsource
    exact ⟨[], snapshot, by rw [hpayload]; rfl, hcomputation⟩

/-- A stateful concentration calls once. -/
theorem dialogue_stateful (stateful : StatefulConcentrationInput) (others : List String) :
    Emits (resolveStateful (F := F) texts coreClient authority policy stateful)
      (ConcentrationDialogue texts sessionTexts authority ⟨.stateful stateful, others, policy⟩
        idempotencyKey) := by
  apply Emits.bind (emits_callCore _)
  · rintro calls e ⟨answer, rfl, he⟩
    cases answer with
    | ok response => cases he
    | error error =>
      apply dialogue_snapshot
      · rintro error' ⟨⟩
        exact congrArg Except.error (Except.error.inj he)
      · intro source hsource
        cases hsource
  · rintro calls snapshot ⟨answer, rfl, hanswer⟩
    have hanswer := mapError_eq_ok.1 hanswer.symm
    apply emits_ofExcept
    apply dialogue_snapshot
    · intro error herror
      cases hanswer.symm.trans herror
    · intro source hsource
      obtain ⟨computation, hcomputation, h⟩ := bind_eq_ok.1 (mapError_eq_ok.1 hsource)
      cases h
      exact ⟨snapshot, hanswer, rfl, hcomputation⟩

theorem dialogue_simulation (simulation : SimulationConcentrationInput) (others : List String) :
    Emits (resolveSimulation (F := F) texts sessionTexts coreClient authority policy simulation
      actorId idempotencyKey)
      (ConcentrationDialogue texts sessionTexts authority ⟨.simulation simulation, others, policy⟩
        idempotencyKey) := by
  apply Emits.weaken simulation_follows_machine
  rintro calls result ⟨q, hrun, hresult⟩
  have hhistory := history_of_run hrun
  have hsplit : ∀ before call after, calls = before ++ call :: after →
      ∃ p, History sessionTexts authority simulation actorId idempotencyKey p before ∧
        (simulationMachine sessionTexts authority simulation actorId idempotencyKey).request p =
          some call.1 := by
    rintro before call after rfl
    obtain ⟨p, hbefore, hrequest, -⟩ := hrun.split
    exact ⟨p, history_of_run hbefore, hrequest⟩
  refine ⟨?_, fun input hinput => (by cases hinput), ?_, ?_, ?_⟩
  · intro call hmem
    obtain ⟨before, after, hcalls⟩ := List.append_of_mem hmem
    obtain ⟨p, -, hrequest⟩ := hsplit before call after hcalls
    exact sent_of_request hrequest
  · rintro input hinput before call after hcalls
    cases hinput
    obtain ⟨p, hbefore, hrequest⟩ := hsplit before call after hcalls
    exact hbefore.sessionCall hrequest
  · intro call hmem error herror
    cases q with
    | read session snapshot =>
      obtain ⟨before, happlied, rfl⟩ := hhistory
      obtain ⟨response, hresponse⟩ : ∃ response, call.2 = .ok response := by
        rcases List.mem_append.1 hmem with hbefore | hlast
        · exact happlied.answered call hbefore
        · cases List.mem_singleton.1 hlast
          exact ⟨snapshot, rfl⟩
      cases hresponse.symm.trans herror
    | failed raised => rw [hresult, hhistory call hmem error herror]
    | _ => exact hresult.elim
  · intro source hsource
    cases q with
    | read session snapshot =>
      obtain ⟨before, -, rfl⟩ := hhistory
      have hsimulated := mapError_eq_ok.1 (hresult.symm.trans hsource)
      obtain ⟨computation, hcomputation, h⟩ := bind_eq_ok.1 hsimulated
      obtain ⟨reported, -, h⟩ := bind_eq_ok.1 h
      cases h
      exact ⟨before, snapshot, rfl, hcomputation⟩
    | failed raised => cases hresult.symm.trans hsource
    | _ => exact hresult.elim

theorem dialogue_resolveUpstream (request : UpstreamConcentrationRequest) :
    Emits (resolveUpstream (F := F) texts sessionTexts coreClient authority request actorId
      idempotencyKey)
      (ConcentrationDialogue texts sessionTexts authority request idempotencyKey) := by
  obtain ⟨input, others, policy⟩ := request
  cases input with
  | stateful input => exact dialogue_stateful input others
  | simulation input => exact dialogue_simulation input others

end Dialogues

section Route

variable {T F : Type} [ExposureFloat F] (texts : PyTexts ℚ) (sessionTexts : SessionTexts T)

/-- The calls that a request of the route leads to. -/
structure SafeConcentration (context : RequestContext) (request : UpstreamConcentrationRequest)
    (calls : List (CoreCall × CoreAnswer))
    (result : Except ConcentrationError (ConcentrationSource T F × ConcentrationResponse F)) :
    Prop where
  authorized : ∀ call ∈ calls, AuthorizedCall context request call.1
  stateful : ∀ input, request.input = .stateful input → calls.length ≤ 1
  simulation : ∀ input, request.input = .simulation input →
    ∀ before call after, calls = before ++ call :: after →
      SessionCall sessionTexts input context.idempotencyKey before call.1
  failed : ∀ call ∈ calls, ∀ error, call.2 = .error error → result = .error (.source error)
  returned : ∀ source response, result = .ok (source, response) → ∃ before snapshot authority,
    calls = before ++ [(.getCoreSnapshot request.input.portfolioId source.snapshotPayload
      authority, .ok snapshot)] ∧
    request.input.computation texts request.policy snapshot = .ok source.computation ∧
    response = buildConcentrationResponse source.computation.input

theorem emits_safeConcentration (coreClient : CoreClient) (context : RequestContext)
    (request : UpstreamConcentrationRequest) :
    Emits (analyticsRiskConcentration (F := F) texts sessionTexts coreClient context request)
      (SafeConcentration texts sessionTexts context request) := by
  unfold analyticsRiskConcentration
  apply Emits.bind (emits_ofExcept (P := fun calls result => calls = [] ∧
    result = admitConcentration context request) ⟨rfl, rfl⟩)
  · rintro calls e ⟨rfl, -⟩
    exact {
      authorized := fun _ hmem => absurd hmem List.not_mem_nil
      stateful := fun _ _ => Nat.zero_le 1
      simulation := fun _ _ _ _ _ hcalls => absurd hcalls (List.append_ne_nil_of_right_ne_nil _
        (List.cons_ne_nil _ _)).symm
      failed := fun _ hmem => absurd hmem List.not_mem_nil
      returned := fun _ _ h => by cases h }
  · rintro calls ⟨authority, actorId⟩ ⟨rfl, hadmitted⟩
    obtain ⟨htenant, hresolved, hentitled⟩ := admitConcentration_ok hadmitted.symm
    have hauthorized : ∀ {calls} {result : Except ConcentrationError (ConcentrationSource T F)},
        ConcentrationDialogue texts sessionTexts authority request context.idempotencyKey calls
          result → ∀ call ∈ calls, AuthorizedCall context request call.1 := by
      intro calls result h call hmem
      obtain ⟨hauthority, hportfolio, hsent⟩ := h.sent call hmem
      rw [← hauthority] at htenant hsent
      exact ⟨htenant, hresolved, hentitled, hportfolio, hsent⟩
    apply Emits.bind (dialogue_resolveUpstream request)
    · intro calls e h
      exact ⟨hauthorized h, h.stateful, h.simulation,
        fun call hmem error herror => congrArg Except.error
          (Except.error.inj (h.failed call hmem error herror)), fun _ _ h => by cases h⟩
    · intro calls source h
      apply emits_pure
      rw [List.append_nil]
      refine ⟨hauthorized h, h.stateful, h.simulation, ?_, ?_⟩
      · intro call hmem error herror
        cases h.failed call hmem error herror
      · intro source' response hresult
        cases hresult
        obtain ⟨before, snapshot, hcalls, hcomputation⟩ := h.returned source rfl
        exact ⟨before, snapshot, authority, hcalls, hcomputation, rfl⟩

/-- Whatever the core answers, every call of a request is made for its own tenant and portfolio,
within the scope of its principal. A simulation names one session, adds the changes to it once and
under a valid key, and reads it only afterwards, at the version expected or last reported. What the
core refuses ends the dialogue and is raised. -/
theorem concentration_calls_safe (coreClient : CoreClient) (context : RequestContext)
    (request : UpstreamConcentrationRequest) (log : List (CoreCall × CoreAnswer)) :
    ∃ calls, ((analyticsRiskConcentration (F := F) texts sessionTexts coreClient context
        request).run.run log).2 = log ++ calls ∧
      SafeConcentration texts sessionTexts context request calls
        ((analyticsRiskConcentration (F := F) texts sessionTexts coreClient context
          request).run.run log).1 :=
  emits_safeConcentration texts sessionTexts coreClient context request log

end Route

section Sale

theorem twenty_pos : ∀ x : ℚ, PyNumber.finite x ∈ [PyNumber.finite (20 : ℚ)] → 0 < x := by
  intro x hx
  cases List.mem_singleton.1 hx
  decide

/-- The sale of a part of the holding. -/
def saleChange : SimulationChangeInput where
  securityId := "A"
  transactionType := .sell
  quantity := some (.finite 20)
  price := none
  amount := none
  currency := none
  effectiveDate := none
  metadata := none
  positive := twenty_pos
  quantity_or_amount := .inl (Option.some_ne_none _)

/-- The sale in a session of its own. -/
def saleInput : SimulationConcentrationInput :=
  { soldInput with
    simulationChanges := [saleChange]
    sessionId := none
    startNewSession := false
    sessionTtlHours := none
    expectedVersion := none
    sessionTtlHours_bounds := nofun
    expectedVersion_pos := nofun
    session_controls := fun _ _ => rfl }

/-- A core that opens a session at version 1 and has the changes at version 2. -/
def sessionCore : CoreClient := fun _ call =>
  match call with
  | .createSimulationSession _ _ _ _ =>
    .ok [("session", .dict [("session_id", .str "S1"), ("version", .int 1)])]
  | .addSimulationChanges _ _ _ _ _ => .ok [("version", .int 2)]
  | .getCoreSnapshot _ _ _ => .ok soldSnapshot

def noSessionTexts : SessionTexts Unit :=
  ⟨fun _ => false, fun _ => none, fun _ => none, fun _ => ""⟩

/-- The exchanges of the sale. -/
def saleCalls : List (CoreCall × CoreAnswer) :=
  ((analyticsRiskConcentration (F := ℚ) plainTexts noSessionTexts sessionCore
    ⟨none, false, none, none, some "T1", some "K1"⟩
    ⟨.simulation saleInput, [], ⟨.legalIssuer, .coreOnly⟩⟩).run.run []).2

example : saleCalls.map (fun exchange => exchange.1.rank) = [0, 1, 2] ∧
    saleCalls.map (fun exchange => exchange.1.expectedVersion) = [.none, .none, .int 2] ∧
    saleCalls.map (fun exchange => exchange.1.sessionId) = [.none, .str "S1", .str "S1"] :=
  ⟨rfl, rfl, rfl⟩

end Sale

end LotusRisk
