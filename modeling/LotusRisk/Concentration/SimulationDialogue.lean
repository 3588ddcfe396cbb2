import LotusRisk.Concentration.SimulationSession
import LotusRisk.Lib.Dialogue

/-! The dialogue of a concentration with the core: whom it acts for, which session it names and in
what order it calls. -/

namespace LotusRisk
open Effects Emission Dialogue
set_option autoImplicit true

section Machine

/-- How far a simulation has come. -/
inductive SimulationPhase (T : Type) where
  | creating
  | changing (session : SimulationSession T)
  | reading (session : SimulationSession T)
  | read (session : SimulationSession T) (snapshot : List (String × PyValue ℚ))
  | failed (error : SourceException)

variable {T F : Type} [ExposureFloat F] (texts : PyTexts ℚ) (sessionTexts : SessionTexts T)
  (authority : DownstreamAuthority) (policy : IssuerPolicy)
  (simulation : SimulationConcentrationInput) (actorId idempotencyKey : Option String)

/-- The changes as they are sent. -/
def changePayload : List (PyValue ℚ) :=
  simulation.simulationChanges.map SimulationChangeInput.modelDump

/-- The key without the space around it. -/
def normalizedKey (idempotencyKey : Option String) : String := (idempotencyKey.map pyStrip).getD ""

def createCall : CoreCall :=
  .createSimulationSession simulation.portfolioId simulation.sessionTtlHours
    (orText actorId (some "lotus-risk")) authority

def changesCall (session : SimulationSession T) : CoreCall :=
  .addSimulationChanges session.sessionId (changePayload simulation) authority
    (normalizedKey idempotencyKey)
    (changeSetFingerprint sessionTexts session.sessionId simulation.portfolioId
      (changePayload simulation))

def snapshotCall (session : SimulationSession T) : CoreCall :=
  .getCoreSnapshot simulation.portfolioId (simulationSnapshotPayload simulation session) authority

/-- The phase after a step that may fail. -/
def SimulationPhase.after (x : Except SourceException α) (next : α → SimulationPhase T) :
    SimulationPhase T :=
  match x with
  | .ok a => next a
  | .error e => .failed e

/-- A session is at hand: its changes are next, if there are any. -/
def SimulationPhase.holding (session : SimulationSession T) : SimulationPhase T :=
  if simulation.simulationChanges.isEmpty then .reading session else .changing session

/-- A session is created or the caller's is used, the changes are added to it, and its snapshot is
read; whatever fails ends the dialogue. -/
def simulationMachine : Machine (SimulationPhase T) CoreCall CoreAnswer where
  request
    | .creating => some (createCall authority simulation actorId)
    | .changing session =>
      some (changesCall sessionTexts authority simulation idempotencyKey session)
    | .reading session => some (snapshotCall authority simulation session)
    | .read _ _ | .failed _ => none
  next phase answer :=
    .after answer fun response =>
      match phase with
      | .creating =>
        .after (createdSimulationSession sessionTexts response) (.holding simulation)
      | .changing session =>
        .after (SourceException.ofPython (asInt sessionTexts (getEntry response "version")))
          fun version => .reading (session.withVersion version)
      | .reading session => .read session response
      | phase => phase

/-- Where the dialogue starts; without a valid key for its changes it does not. -/
def simulationStart : SimulationPhase T :=
  .after (SourceException.ofPython (if simulation.simulationChanges.isEmpty then .ok ""
      else validateSimulationIdempotencyKey idempotencyKey)) fun _ =>
    if simulation.shouldCreateSession then .creating
    else .holding simulation ⟨simulation.sessionId.getD "", .none, none⟩

/-- What the last phase of a dialogue returns or raises. -/
def Concludes (phase : SimulationPhase T)
    (result : Except ConcentrationError (ConcentrationSource T F)) : Prop :=
  match phase with
  | .read session snapshot => result = (simulationSource texts sessionTexts authority policy
      simulation session snapshot).mapError .source
  | .failed error => result = .error (.source error)
  | _ => False

end Machine

section Refinement

variable {T F : Type} [ExposureFloat F] {texts : PyTexts ℚ} {sessionTexts : SessionTexts T}
  {coreClient : CoreClient} {authority : DownstreamAuthority} {policy : IssuerPolicy}
  {simulation : SimulationConcentrationInput} {actorId idempotencyKey : Option String}

theorem validateSimulationIdempotencyKey_ok
    (h : validateSimulationIdempotencyKey idempotencyKey = .ok key) :
    key = normalizedKey idempotencyKey ∧ key ≠ "" ∧
      key.length ≤ simulationIdempotencyKeyMaxLength := by
  unfold validateSimulationIdempotencyKey at h
  dsimp only at h
  split_ifs at h with hblank hlong
  cases h
  exact ⟨rfl, hblank, not_lt.1 hlong⟩

/-- What a phase after a possible failure is related to, each side is. -/
def Reaches (m : Machine (SimulationPhase T) CoreCall CoreAnswer) (p : SimulationPhase T)
    (x : CoreM α) (next : α → SimulationPhase T) : Prop :=
  Follows m p x fun q result =>
    match result with
    | .ok a => q = next a
    | .error e => ∃ error, e = .source error ∧ q = .failed error

variable {m : Machine (SimulationPhase T) CoreCall CoreAnswer} {p : SimulationPhase T}

theorem reaches_ofSource (x : Except SourceException α) (next : α → SimulationPhase T) :
    Reaches m (.after x next) (CoreM.ofSource x) next := by
  cases x with
  | ok a => exact follows_pure rfl
  | error e => exact follows_ofExcept ⟨e, rfl, rfl⟩

theorem Reaches.bind {x : CoreM α} {next : α → SimulationPhase T} {f : α → CoreM β}
    {next' : β → SimulationPhase T} (hx : Reaches m p x next)
    (hf : ∀ a, Reaches m (next a) (f a) next') : Reaches m p (x >>= f) next' := by
  apply Follows.bind hx
  · rintro q e ⟨error, he, hq⟩
    exact ⟨error, he, hq⟩
  · rintro q a rfl
    exact hf a

theorem reaches_ofSource_bind {x : Except SourceException α} {next : α → SimulationPhase T}
    {f : α → CoreM β} {next' : β → SimulationPhase T}
    (hf : ∀ a, x = .ok a → Reaches m (next a) (f a) next') :
    Reaches m (.after x next) (CoreM.ofSource x >>= f) next' := by
  cases x with
  | ok a => exact hf a rfl
  | error e =>
    apply Follows.bind (follows_ofExcept (Q := fun q r => q = .failed e ∧ r = .error (.source e))
      ⟨rfl, rfl⟩)
    · rintro q e' ⟨hq, he⟩
      exact ⟨e, Except.error.inj he, hq⟩
    · rintro q a ⟨-, ha⟩
      cases ha

/-- A call is answered, and the answer decides what follows. -/
theorem reaches_callCore (hrequest : m.request p = some call)
    (hnext : ∀ answer, m.next p answer = .after answer next) :
    Reaches m p (callCore coreClient call) next := by
  apply Follows.bind (follows_ask coreClient hrequest)
  · rintro q e ⟨answer, -, he⟩
    cases he
  · rintro q response ⟨answer, rfl, hanswer⟩
    cases hanswer
    rw [hnext response]
    exact reaches_ofSource response next

/-- The session that the changes are added to. -/
theorem reaches_resolveSimulationSession : Reaches
    (simulationMachine sessionTexts authority simulation actorId idempotencyKey)
    (if simulation.shouldCreateSession then .creating
      else .holding simulation ⟨simulation.sessionId.getD "", .none, none⟩)
    (resolveSimulationSession sessionTexts coreClient authority simulation actorId)
    (SimulationPhase.holding (T := T) simulation) := by
  unfold resolveSimulationSession
  cases hcreate : simulation.shouldCreateSession with
  | true =>
    apply Reaches.bind (reaches_callCore rfl fun answer => rfl)
    intro response
    exact reaches_ofSource _ _
  | false =>
    cases hsession : simulation.sessionId with
    | none => simp [SimulationConcentrationInput.shouldCreateSession, hsession] at hcreate
    | some sessionId => exact follows_pure rfl

theorem reaches_applySimulationChanges (hkey : simulation.simulationChanges ≠ [] →
      validateSimulationIdempotencyKey idempotencyKey = .ok (normalizedKey idempotencyKey))
    (session : SimulationSession T) : Reaches
    (simulationMachine sessionTexts authority simulation actorId idempotencyKey)
    (.holding simulation session)
    (applySimulationChanges sessionTexts coreClient authority simulation session idempotencyKey)
    .reading := by
  unfold applySimulationChanges SimulationPhase.holding
  cases hchanges : simulation.simulationChanges.isEmpty with
  | true => exact follows_pure rfl
  | false =>
    rw [hkey (fun hnil => by simp [hnil] at hchanges)]
    apply Reaches.bind (reaches_callCore rfl fun answer => rfl)
    intro response
    apply Reaches.bind (reaches_ofSource _ _)
    intro version
    exact follows_pure rfl

theorem reaches_resolveAppliedSimulationSession : Reaches
    (simulationMachine sessionTexts authority simulation actorId idempotencyKey)
    (simulationStart simulation idempotencyKey)
    (resolveAppliedSimulationSession sessionTexts coreClient authority simulation actorId
      idempotencyKey) (SimulationPhase.reading (T := T)) := by
  unfold resolveAppliedSimulationSession simulationStart
  apply reaches_ofSource_bind
  intro key hvalid
  apply reaches_resolveSimulationSession.bind
  apply reaches_applySimulationChanges
  intro hchanges
  rw [List.isEmpty_eq_false_iff.2 hchanges, if_neg Bool.false_ne_true,
    SourceException.ofPython_eq_ok] at hvalid
  rw [hvalid, (validateSimulationIdempotencyKey_ok hvalid).1]

/-- Every run of the simulation is the machine's, whatever the core answers. -/
theorem simulation_follows_machine : Follows
    (simulationMachine sessionTexts authority simulation actorId idempotencyKey)
    (simulationStart simulation idempotencyKey)
    (resolveSimulation texts sessionTexts coreClient authority policy simulation actorId
      idempotencyKey)
    (Concludes (T := T) (F := F) texts sessionTexts authority policy simulation) := by
  unfold resolveSimulation
  apply Follows.bind reaches_resolveAppliedSimulationSession
  · rintro q e ⟨error, rfl, rfl⟩
    rfl
  · rintro q session rfl
    apply Follows.bind (reaches_callCore rfl fun answer => rfl)
    · rintro q e ⟨error, rfl, rfl⟩
      rfl
    · rintro q snapshot rfl
      exact follows_ofExcept rfl

end Refinement

section History

variable {T : Type} (sessionTexts : SessionTexts T) (authority : DownstreamAuthority)
  (simulation : SimulationConcentrationInput) (actorId idempotencyKey : Option String)

/-- The exchanges that a session is held after. -/
inductive Held : List (CoreCall × CoreAnswer) → SimulationSession T → Prop
  | own (h : simulation.shouldCreateSession = false) (hid : simulation.sessionId = some sessionId) :
      Held [] ⟨sessionId, .none, none⟩
  | created (h : simulation.shouldCreateSession = true)
      (hsession : createdSimulationSession sessionTexts response = .ok session) :
      Held [(createCall authority simulation actorId, .ok response)] session

/-- The exchanges that the changes are in the session after. -/
inductive Applied : List (CoreCall × CoreAnswer) → SimulationSession T → Prop
  | unchanged (h : simulation.simulationChanges = [])
      (hheld : Held sessionTexts authority simulation actorId calls session) :
      Applied calls session
  | changed (hchanges : simulation.simulationChanges ≠ [])
      (hkey : validateSimulationIdempotencyKey idempotencyKey = .ok key)
      (hheld : Held sessionTexts authority simulation actorId calls session)
      (hversion : asInt sessionTexts (getEntry response "version") = .ok version) :
      Applied (calls ++ [(changesCall sessionTexts authority simulation idempotencyKey session,
        .ok response)]) (session.withVersion version)

/-- Changes are only sent with a valid key. -/
def KeyReady : Prop := simulation.simulationChanges ≠ [] →
  ∃ key, validateSimulationIdempotencyKey idempotencyKey = .ok key

/-- What the exchanges before a phase have been. -/
def History : SimulationPhase T → List (CoreCall × CoreAnswer) → Prop
  | .creating, calls => calls = [] ∧ simulation.shouldCreateSession = true ∧
      KeyReady simulation idempotencyKey
  | .changing session, calls => Held sessionTexts authority simulation actorId calls session ∧
      simulation.simulationChanges ≠ [] ∧
      ∃ key, validateSimulationIdempotencyKey idempotencyKey = .ok key
  | .reading session, calls =>
    Applied sessionTexts authority simulation actorId idempotencyKey calls session
  | .read session snapshot, calls => ∃ before,
      Applied sessionTexts authority simulation actorId idempotencyKey before session ∧
      calls = before ++ [(snapshotCall authority simulation session, .ok snapshot)]
  | .failed error, calls => ∀ call ∈ calls, ∀ raised, call.2 = .error raised → raised = error

variable {sessionTexts authority simulation actorId idempotencyKey}

theorem Held.answered (h : Held sessionTexts authority simulation actorId calls session) :
    ∀ call ∈ calls, ∃ response, call.2 = .ok response := by
  cases h with
  | own => exact fun _ hmem => absurd hmem List.not_mem_nil
  | created =>
    intro call hmem
    cases List.mem_singleton.1 hmem
    exact ⟨_, rfl⟩

theorem Applied.answered
    (h : Applied sessionTexts authority simulation actorId idempotencyKey calls session) :
    ∀ call ∈ calls, ∃ response, call.2 = .ok response := by
  cases h with
  | unchanged _ hheld => exact hheld.answered
  | changed _ _ hheld _ =>
    intro call hmem
    rcases List.mem_append.1 hmem with hbefore | hlast
    · exact hheld.answered call hbefore
    · cases List.mem_singleton.1 hlast
      exact ⟨_, rfl⟩

/-- A phase that goes on has seen no failure. -/
theorem History.answered
    (h : History sessionTexts authority simulation actorId idempotencyKey p calls)
    (hrequest : (simulationMachine sessionTexts authority simulation actorId
      idempotencyKey).request p = some r) : ∀ call ∈ calls, ∃ response, call.2 = .ok response := by
  cases p with
  | creating =>
    rw [h.1]
    exact fun _ hmem => absurd hmem List.not_mem_nil
  | changing session => exact h.1.answered
  | reading session => exact Applied.answered h
  | read session snapshot => cases hrequest
  | failed error => cases hrequest

/-- A failed step keeps the history, if the error raised is the one it fails with. -/
theorem history_failed (h : ∀ call ∈ before, ∃ response, call.2 = .ok response)
    (hlast : ∀ raised, last.2 = .error raised → raised = error) :
    History sessionTexts authority simulation actorId idempotencyKey (.failed error)
      (before ++ [last]) := by
  intro call hmem raised hraised
  rcases List.mem_append.1 hmem with hbefore | hend
  · obtain ⟨response, hresponse⟩ := h call hbefore
    cases hraised.symm.trans hresponse
  · cases List.mem_singleton.1 hend
    exact hlast raised hraised

theorem history_holding (hheld : Held sessionTexts authority simulation actorId calls session)
    (hkey : KeyReady simulation idempotencyKey) :
    History sessionTexts authority simulation actorId idempotencyKey
      (.holding simulation session) calls := by
  unfold SimulationPhase.holding
  split_ifs with hchanges
  · exact .unchanged (List.isEmpty_iff.1 hchanges) hheld
  · have hne := mt List.isEmpty_iff.2 hchanges
    exact ⟨hheld, hne, hkey hne⟩

/-- The step lemma: every exchange keeps the history. -/
theorem history_next
    (h : History sessionTexts authority simulation actorId idempotencyKey p before)
    (hrequest : (simulationMachine sessionTexts authority simulation actorId
      idempotencyKey).request p = some call) (answer : CoreAnswer) :
    History sessionTexts authority simulation actorId idempotencyKey
      ((simulationMachine sessionTexts authority simulation actorId idempotencyKey).next p answer)
      (before ++ [(call, answer)]) := by
  have hanswered := h.answered hrequest
  cases answer with
  | error e => exact history_failed hanswered fun raised hraised => (Except.error.inj hraised).symm
  | ok response =>
    have hfailed : ∀ error, History sessionTexts authority simulation actorId idempotencyKey
        (.failed error : SimulationPhase T) (before ++ [(call, .ok response)]) := fun error =>
      history_failed hanswered fun raised hraised => by cases hraised
    cases p with
    | creating =>
      cases hrequest
      obtain ⟨rfl, hcreate, hkey⟩ := h
      simp only [simulationMachine, SimulationPhase.after]
      split
      · rename_i session hsession
        exact history_holding (.created hcreate hsession) hkey
      · exact hfailed _
    | changing session =>
      cases hrequest
      obtain ⟨hheld, hchanges, key, hvalid⟩ := h
      simp only [simulationMachine, SimulationPhase.after]
      split
      · rename_i version hversion
        exact .changed hchanges hvalid hheld (SourceException.ofPython_eq_ok.1 hversion)
      · exact hfailed _
    | reading session =>
      cases hrequest
      exact ⟨before, h, rfl⟩
    | read session snapshot => cases hrequest
    | failed error => cases hrequest

theorem history_start : History sessionTexts authority simulation actorId idempotencyKey
    (simulationStart (T := T) simulation idempotencyKey) [] := by
  unfold simulationStart SimulationPhase.after
  split
  · rename_i key hvalid
    rw [SourceException.ofPython_eq_ok] at hvalid
    have hkey : KeyReady simulation idempotencyKey := by
      intro hchanges
      rw [if_neg (mt List.isEmpty_iff.1 hchanges)] at hvalid
      exact ⟨key, hvalid⟩
    cases hcreate : simulation.shouldCreateSession with
    | true => exact ⟨rfl, hcreate, hkey⟩
    | false =>
      cases hid : simulation.sessionId with
      | none => simp [SimulationConcentrationInput.shouldCreateSession, hid] at hcreate
      | some sessionId => exact history_holding (.own hcreate hid) hkey
  · exact fun _ hmem => absurd hmem List.not_mem_nil

/-- The run lemma. -/
theorem history_of_run (h : (simulationMachine sessionTexts authority simulation actorId
      idempotencyKey).Run (simulationStart simulation idempotencyKey) calls q) :
    History sessionTexts authority simulation actorId idempotencyKey q calls :=
  h.invariant history_start fun _ _ _ answer hs hrequest => history_next hs hrequest answer

end History

end LotusRisk
