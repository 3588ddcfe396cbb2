import LotusRisk.Concentration.SimulationSnapshot
import LotusRisk.Lib.Emission

/-! The calls of the core that a stateful or a simulated concentration is computed from. -/

namespace LotusRisk
open Effects Emission
set_option autoImplicit true

section Authority

structure TenantAuthorityError where
  statusCode : Nat
  code : String
  message : String
deriving DecidableEq, Repr

def missingTenantAuthority : TenantAuthorityError :=
  ⟨401, "MISSING_TENANT_AUTHORITY",
    "Stateful input requires X-Tenant-Id before any upstream request is made."⟩

def invalidTenantAuthority : TenantAuthorityError :=
  ⟨400, "INVALID_TENANT_AUTHORITY", "X-Tenant-Id must not exceed 128 characters after trimming."⟩

def maxTenantIdLength : Nat := 128

/-- An authority is built by its admission only. -/
structure DownstreamAuthority where
  tenantId : String
  correlationId : Option String
  admitted : tenantId ≠ "" ∧ tenantId.length ≤ maxTenantIdLength
deriving DecidableEq

def admitDownstreamAuthority (tenantId correlationId : Option String) :
    Except TenantAuthorityError DownstreamAuthority :=
  let normalized := (tenantId.map pyStrip).getD ""
  if hblank : normalized = "" then .error missingTenantAuthority
  else if hlong : maxTenantIdLength < normalized.length then .error invalidTenantAuthority
  else .ok ⟨normalized, correlationId, hblank, not_lt.1 hlong⟩

def downstreamAuthorityHeaders (authority : DownstreamAuthority) : List (String × String) :=
  ("X-Tenant-Id", authority.tenantId) ::
    match authority.correlationId with
    | some correlationId =>
      if correlationId = "" then [] else [("X-Correlation-Id", correlationId)]
    | none => []

end Authority

section Calls

/-- A call of the `lotus-core` client. -/
inductive CoreCall where
  | createSimulationSession (portfolioId : String) (ttlHours : Option Nat)
      (createdBy : Option String) (authority : DownstreamAuthority)
  | addSimulationChanges (sessionId : String) (changes : List (PyValue ℚ))
      (authority : DownstreamAuthority) (idempotencyKey changeSetFingerprint : String)
  | getCoreSnapshot (portfolioId : String) (requestPayload : List (String × PyValue ℚ))
      (authority : DownstreamAuthority)

abbrev CoreAnswer := Except SourceException (List (String × PyValue ℚ))

def CoreCall.authority : CoreCall → DownstreamAuthority
  | .createSimulationSession _ _ _ authority => authority
  | .addSimulationChanges _ _ authority _ _ => authority
  | .getCoreSnapshot _ _ authority => authority

/-- What the client sends with `POST`. -/
structure CoreRequest where
  path : String
  payload : List (String × PyValue ℚ)
  headers : List (String × String)

/-- `{**entries, key: value}`. -/
def withEntry (entries : List (String × PyValue ℚ)) (key : String) (value : PyValue ℚ) :
    List (String × PyValue ℚ) :=
  if (entries.lookup key).isSome then
    entries.map fun entry => if entry.1 = key then (key, value) else entry
  else entries ++ [(key, value)]

/-- The key is present with another text. -/
def disagrees (entries : List (String × PyValue ℚ)) (key text : String) : Bool :=
  (entries.lookup key).isSome && !declares entries key text

def riskConsumerSystem : String := "lotus-risk"

def riskCorePayload (requestPayload : List (String × PyValue ℚ)) :
    Except PyException (List (String × PyValue ℚ)) := do
  raiseIf (disagrees requestPayload "consumer_system" riskConsumerSystem)
    (.valueError "Core consumer disagrees with lotus-risk.")
  .ok (withEntry requestPayload "consumer_system" (.str riskConsumerSystem))

def riskCoreSnapshotPayload (requestPayload : List (String × PyValue ℚ))
    (authority : DownstreamAuthority) : Except PyException (List (String × PyValue ℚ)) := do
  raiseIf (disagrees requestPayload "tenant_id" authority.tenantId)
    (.valueError "Core snapshot tenant disagrees with admitted authority.")
  let payload ← riskCorePayload requestPayload
  .ok (withEntry payload "tenant_id" (.str authority.tenantId))

def buildSimulationSessionPayload (portfolioId : String) (ttlHours : Option Nat)
    (createdBy : Option String) : List (String × PyValue ℚ) :=
  [("portfolio_id", .str portfolioId)] ++
    (ttlHours.map fun hours => ("ttl_hours", .int hours)).toList ++
    (createdBy.filter (· ≠ "")).toList.map fun createdBy => ("created_by", .str createdBy)

/-- The request of a call; the headers of the authority are added to its own. -/
def CoreCall.request : CoreCall → Except PyException CoreRequest
  | .createSimulationSession portfolioId ttlHours createdBy authority =>
    .ok {
      path := "/simulation-sessions"
      payload := buildSimulationSessionPayload portfolioId ttlHours createdBy
      headers := downstreamAuthorityHeaders authority }
  | .addSimulationChanges sessionId changes authority idempotencyKey changeSetFingerprint =>
    .ok {
      path := s!"/simulation-sessions/{sessionId}/changes"
      payload := [("changes", .list changes)]
      headers := [("Idempotency-Key", idempotencyKey),
        ("X-Lotus-Change-Set-Fingerprint", changeSetFingerprint)] ++
          downstreamAuthorityHeaders authority }
  | .getCoreSnapshot portfolioId requestPayload authority => do
    let payload ← riskCoreSnapshotPayload requestPayload authority
    .ok {
      path := s!"/integration/portfolios/{portfolioId}/core-snapshot"
      payload := payload
      headers := downstreamAuthorityHeaders authority }

end Calls

section Inputs

inductive SimulationTransactionType where
  | buy
  | sell
deriving DecidableEq, Repr

def SimulationTransactionType.text : SimulationTransactionType → String
  | .buy => "BUY"
  | .sell => "SELL"

/-- Of the numbers that are not finite, the bounds of the fields admit the positive infinity. -/
structure SimulationChangeInput where
  securityId : String
  transactionType : SimulationTransactionType
  quantity : Option (PyNumber ℚ)
  price : Option (PyNumber ℚ)
  amount : Option (PyNumber ℚ)
  currency : Option String
  effectiveDate : Option Date
  metadata : Option (List (String × PyValue ℚ))
  positive : ∀ x : ℚ, .finite x ∈ quantity.toList ++ price.toList ++ amount.toList → 0 < x
  quantity_or_amount : quantity ≠ none ∨ amount ≠ none

/-- `change.model_dump(mode="json", exclude_none=True)`. -/
def SimulationChangeInput.modelDump (change : SimulationChangeInput) : PyValue ℚ :=
  .dict ([("security_id", .str change.securityId),
      ("transaction_type", .str change.transactionType.text)] ++
    (change.quantity.map fun x => ("quantity", .float x)).toList ++
    (change.price.map fun x => ("price", .float x)).toList ++
    (change.amount.map fun x => ("amount", .float x)).toList ++
    (change.currency.map fun text => ("currency", .str text)).toList ++
    (change.effectiveDate.map fun d => ("effective_date", .str d.isoformat)).toList ++
    (change.metadata.map fun entries => ("metadata", .dict entries)).toList)

structure SimulationConcentrationInput extends StatefulConcentrationInput where
  simulationChanges : List SimulationChangeInput
  sessionId : Option String
  startNewSession : Bool
  sessionTtlHours : Option Nat
  expectedVersion : Option Nat
  sessionTtlHours_bounds : ∀ hours ∈ sessionTtlHours, 1 ≤ hours ∧ hours ≤ 168
  expectedVersion_pos : ∀ version ∈ expectedVersion, 1 ≤ version
  session_controls : sessionId.getD "" ≠ "" → startNewSession = false → sessionTtlHours = none

/-- `start_new_session or not session_id`. -/
def SimulationConcentrationInput.shouldCreateSession (simulation : SimulationConcentrationInput) :
    Bool := simulation.startNewSession || simulation.sessionId.getD "" = ""

end Inputs

section Sessions

/-- The conversions of the texts in an answer. -/
structure SessionTexts (T : Type) where
  /-- `text.isdigit()`. -/
  isdigit : String → Bool
  /-- `int(text)`. -/
  int : String → Option Int
  /-- `datetime.fromisoformat(text.replace("Z", "+00:00"))`. -/
  datetime : String → Option T
  /-- `fingerprint_payload`. -/
  fingerprint : PyValue ℚ → String

/-- The version is what `_as_int` returned: an integer, a boolean or `None`. -/
structure SimulationSession (T : Type) where
  sessionId : String
  version : PyValue ℚ
  expiresAt : Option T

variable {T F : Type} [ExposureFloat F] (texts : SessionTexts T)

/-- `_as_int`. -/
def asInt : PyValue ℚ → Except PyException (PyValue ℚ)
  | .bool b => .ok (.bool b)
  | .int i => .ok (.int i)
  | .str value =>
    if texts.isdigit value then
      match texts.int value with
      | some i => .ok (.int i)
      | none => .error (.valueError s!"invalid literal for int() with base 10: '{value}'")
    else .ok .none
  | _ => .ok .none

/-- `a or b`. -/
def pyOr (a b : PyValue ℚ) : PyValue ℚ := if a.truthy then a else b

def createSimulationSessionOperation : String := "/simulation-sessions"

def invalidCreateSimulationSessionPayload (reason : String) : SourceException :=
  .upstream (invalidUpstreamPayload "lotus-core" createSimulationSessionOperation
    "lotus-core create simulation session returned invalid response payload"
    [("reason", reason)])

/-- `_created_simulation_session`. -/
def createdSimulationSession (sessionResponse : List (String × PyValue ℚ)) :
    Except SourceException (SimulationSession T) :=
  match getEntry sessionResponse "session" with
  | .dict sessionRecord =>
    match asStr (getEntry sessionRecord "session_id") with
    | some sessionId =>
      if sessionId = "" then .error (invalidCreateSimulationSessionPayload "missing_session_id")
      else do
        let version ← SourceException.ofPython (asInt texts (getEntry sessionRecord "version"))
        .ok ⟨sessionId, version, (asStr (getEntry sessionRecord "expires_at")).bind texts.datetime⟩
    | none => .error (invalidCreateSimulationSessionPayload "missing_session_id")
  | _ => .error (invalidCreateSimulationSessionPayload "missing_session_record")

def simulationIdempotencyKeyMaxLength : Nat := 128

def validateSimulationIdempotencyKey (idempotencyKey : Option String) :
    Except PyException String :=
  let normalized := (idempotencyKey.map pyStrip).getD ""
  if normalized = "" then
    .error (.valueError
      "Idempotency-Key header is required when simulation_input.simulation_changes is not empty")
  else if simulationIdempotencyKeyMaxLength < normalized.length then
    .error (.valueError
      "Idempotency-Key header must be 128 characters or fewer for concentration simulation")
  else .ok normalized

/-- `_change_set_fingerprint`. -/
def changeSetFingerprint (sessionId portfolioId : String) (changes : List (PyValue ℚ)) : String :=
  texts.fingerprint (.dict [("portfolio_id", .str portfolioId), ("session_id", .str sessionId),
    ("changes", .list changes)])

/-- The session with the version of an answer, or else its own. -/
def SimulationSession.withVersion (session : SimulationSession T) (version : PyValue ℚ) :
    SimulationSession T := { session with version := pyOr version session.version }

def sessionWithSnapshotVersion (session : SimulationSession T)
    (snapshot : List (String × PyValue ℚ)) : Except PyException (SimulationSession T) :=
  match getEntry snapshot "simulation" with
  | .dict snapshotSimulation => do
    let version ← asInt texts (getEntry snapshotSimulation "version")
    .ok (session.withVersion version)
  | _ => .ok session

end Sessions

section Payloads

def snapshotOptions (input : StatefulConcentrationInput) : PyValue ℚ :=
  .dict [("include_zero_quantity_positions", .bool input.includeZeroQuantityPositions),
    ("include_cash_positions", .bool input.includeCashPositions),
    ("position_basis", .str "market_value_base"),
    ("weight_basis", .str "total_market_value_base")]

/-- The reporting currency, where the input names one. -/
def reportingCurrencyEntry (input : StatefulConcentrationInput) : List (String × PyValue ℚ) :=
  (input.reportingCurrency.filter (· ≠ "")).toList.map fun currency =>
    ("reporting_currency", .str currency)

def statefulSnapshotPayload (stateful : StatefulConcentrationInput) :
    List (String × PyValue ℚ) :=
  [("as_of_date", .str stateful.asOfDate.isoformat),
    ("snapshot_mode", .str SnapshotMode.baseline.text),
    ("sections", .list [.str "positions_baseline", .str "portfolio_totals",
      .str "instrument_enrichment"]),
    ("options", snapshotOptions stateful)] ++ reportingCurrencyEntry stateful

variable {T : Type}

/-- `simulation.expected_version or session.version`. -/
def expectedVersionOf (simulation : SimulationConcentrationInput)
    (session : SimulationSession T) : PyValue ℚ :=
  match simulation.expectedVersion with
  | some version => pyOr (.int version) session.version
  | none => session.version

def simulationSnapshotPayload (simulation : SimulationConcentrationInput)
    (session : SimulationSession T) : List (String × PyValue ℚ) :=
  let expectedVersion := expectedVersionOf simulation session
  [("as_of_date", .str simulation.asOfDate.isoformat),
    ("snapshot_mode", .str SnapshotMode.simulation.text),
    ("sections", .list [.str "positions_baseline", .str "positions_projected",
      .str "positions_delta", .str "portfolio_totals", .str "instrument_enrichment"]),
    ("simulation", .dict ([("session_id", .str session.sessionId)] ++
      if expectedVersion.isNone then [] else [("expected_version", expectedVersion)])),
    ("options", snapshotOptions simulation.toStatefulConcentrationInput)] ++
    reportingCurrencyEntry simulation.toStatefulConcentrationInput

end Payloads

section Resolvers

inductive ConcentrationError where
  | tenantAuthority (error : TenantAuthorityError)
  | http (statusCode : Nat) (detail : String)
  | source (error : SourceException)
deriving DecidableEq

/-- A computation that calls the core, whose exchanges are logged. -/
abbrev CoreM := Eff ConcentrationError (List (CoreCall × CoreAnswer))

/-- How the core answers a call after the exchanges before it. -/
abbrev CoreClient := List (CoreCall × CoreAnswer) → CoreCall → CoreAnswer

def CoreM.ofSource (x : Except SourceException α) : CoreM α :=
  MonadExcept.ofExcept (x.mapError .source)

def CoreM.ofPython (x : Except PyException α) : CoreM α :=
  CoreM.ofSource (SourceException.ofPython x)

/-- `await core_client....`. -/
def callCore (coreClient : CoreClient) (call : CoreCall) : CoreM (List (String × PyValue ℚ)) := do
  let answer ← ask coreClient call
  CoreM.ofSource answer

/-- A computation with what its metadata names. -/
structure ConcentrationSource (T F : Type) where
  computation : SnapshotComputation F
  session : Option (SimulationSession T)
  portfolioId : String
  snapshotPayload : List (String × PyValue ℚ)
  correlationId : Option String

variable {T F : Type} [ExposureFloat F] (texts : PyTexts ℚ) (sessionTexts : SessionTexts T)
  (coreClient : CoreClient) (authority : DownstreamAuthority)

def resolveSimulationSession (simulation : SimulationConcentrationInput)
    (actorId : Option String) : CoreM (SimulationSession T) := do
  if simulation.shouldCreateSession then
    let sessionResponse ← callCore coreClient (.createSimulationSession simulation.portfolioId
      simulation.sessionTtlHours (orText actorId (some "lotus-risk")) authority)
    CoreM.ofSource (createdSimulationSession sessionTexts sessionResponse)
  else
    match simulation.sessionId with
    | some sessionId => pure ⟨sessionId, .none, none⟩
    | none => CoreM.ofPython (.error (.valueError "simulation session_id could not be resolved"))

def applySimulationChanges (simulation : SimulationConcentrationInput)
    (session : SimulationSession T) (idempotencyKey : Option String) :
    CoreM (SimulationSession T) := do
  if simulation.simulationChanges.isEmpty then pure session
  else
    let payload := simulation.simulationChanges.map SimulationChangeInput.modelDump
    let normalizedIdempotencyKey ←
      CoreM.ofPython (validateSimulationIdempotencyKey idempotencyKey)
    let changesResponse ← callCore coreClient (.addSimulationChanges session.sessionId payload
      authority normalizedIdempotencyKey
      (changeSetFingerprint sessionTexts session.sessionId simulation.portfolioId payload))
    let version ← CoreM.ofPython (asInt sessionTexts (getEntry changesResponse "version"))
    pure (session.withVersion version)

/-- `_resolve_applied_simulation_session`; the key is validated before any call. -/
def resolveAppliedSimulationSession (simulation : SimulationConcentrationInput)
    (actorId idempotencyKey : Option String) : CoreM (SimulationSession T) := do
  let _ ← CoreM.ofPython (if simulation.simulationChanges.isEmpty then .ok ""
    else validateSimulationIdempotencyKey idempotencyKey)
  let session ← resolveSimulationSession sessionTexts coreClient authority simulation actorId
  applySimulationChanges sessionTexts coreClient authority simulation session idempotencyKey

/-- What a simulation is computed from, once its snapshot is read. -/
def simulationSource (policy : IssuerPolicy) (simulation : SimulationConcentrationInput)
    (session : SimulationSession T) (snapshot : List (String × PyValue ℚ)) :
    Except SourceException (ConcentrationSource T F) := do
  let computation ←
    simulationComputation texts policy simulation.toStatefulConcentrationInput snapshot
  let reported ← SourceException.ofPython (sessionWithSnapshotVersion sessionTexts session snapshot)
  .ok ⟨computation, some reported, simulation.portfolioId,
    simulationSnapshotPayload simulation session, authority.correlationId⟩

def resolveSimulation (policy : IssuerPolicy) (simulation : SimulationConcentrationInput)
    (actorId idempotencyKey : Option String) : CoreM (ConcentrationSource T F) := do
  let session ← resolveAppliedSimulationSession sessionTexts coreClient authority simulation
    actorId idempotencyKey
  let snapshot ← callCore coreClient (.getCoreSnapshot simulation.portfolioId
    (simulationSnapshotPayload simulation session) authority)
  CoreM.ofSource (simulationSource texts sessionTexts authority policy simulation session snapshot)

def statefulSource (policy : IssuerPolicy) (stateful : StatefulConcentrationInput)
    (snapshot : List (String × PyValue ℚ)) : Except SourceException (ConcentrationSource T F) := do
  let computation ← statefulComputation texts policy stateful snapshot
  .ok ⟨computation, none, stateful.portfolioId, statefulSnapshotPayload stateful,
    authority.correlationId⟩

def resolveStateful (policy : IssuerPolicy) (stateful : StatefulConcentrationInput) :
    CoreM (ConcentrationSource T F) := do
  let snapshot ← callCore coreClient (.getCoreSnapshot stateful.portfolioId
    (statefulSnapshotPayload stateful) authority)
  CoreM.ofSource (statefulSource texts authority policy stateful snapshot)

end Resolvers

section Route

/-- The principal that the middleware resolved, as the routes read it. -/
structure RequestPrincipal where
  subject : String
  tenantId : String
  portfolioIds : Finset String

structure RequestContext where
  resolvedPrincipal : Option RequestPrincipal
  verifiedPosture : Bool
  correlationId : Option String
  actorIdHeader : Option String
  tenantIdHeader : Option String
  idempotencyKey : Option String

/-- `_request_principal`. -/
def requestPrincipal (context : RequestContext) :
    Except ConcentrationError (Option RequestPrincipal) :=
  match context.resolvedPrincipal with
  | some principal => .ok (some principal)
  | none =>
    if context.verifiedPosture then .error (.http 503 "grant_store_unavailable") else .ok none

def requestActorId (context : RequestContext) : Except ConcentrationError (Option String) := do
  match ← requestPrincipal context with
  | some principal => .ok (some principal.subject)
  | none => .ok context.actorIdHeader

def requestTenantId (context : RequestContext) : Except ConcentrationError (Option String) := do
  match ← requestPrincipal context with
  | some principal => .ok (some principal.tenantId)
  | none => .ok context.tenantIdHeader

def requirePortfolioScope (context : RequestContext) (portfolioIds : List String) :
    Except ConcentrationError Unit := do
  match ← requestPrincipal context with
  | some principal =>
    if ∀ portfolioId ∈ portfolioIds, portfolioId ∈ principal.portfolioIds then .ok ()
    else .error (.http 403 "portfolio_outside_scope")
  | none => .ok ()

/-- The modes that read the portfolio from the core. -/
inductive UpstreamInput where
  | stateful (input : StatefulConcentrationInput)
  | simulation (input : SimulationConcentrationInput)

/-- A request in one of these modes; the input of the other mode may be present too. -/
structure UpstreamConcentrationRequest where
  input : UpstreamInput
  otherPortfolioIds : List String
  policy : IssuerPolicy

def UpstreamInput.portfolioId : UpstreamInput → String
  | .stateful input => input.portfolioId
  | .simulation input => input.portfolioId

variable {T F : Type} [ExposureFloat F] (texts : PyTexts ℚ) (sessionTexts : SessionTexts T)
  (coreClient : CoreClient)

/-- `calculate_concentration` in the modes that read from the core. -/
def resolveUpstream (authority : DownstreamAuthority) (request : UpstreamConcentrationRequest)
    (actorId idempotencyKey : Option String) : CoreM (ConcentrationSource T F) :=
  match request.input with
  | .stateful input => resolveStateful texts coreClient authority request.policy input
  | .simulation input =>
    resolveSimulation texts sessionTexts coreClient authority request.policy input actorId
      idempotencyKey

/-- What the route checks before it calculates. -/
def admitConcentration (context : RequestContext) (request : UpstreamConcentrationRequest) :
    Except ConcentrationError (DownstreamAuthority × Option String) := do
  let tenantId ← requestTenantId context
  let actorId ← requestActorId context
  requirePortfolioScope context (request.input.portfolioId :: request.otherPortfolioIds)
  let authority ←
    (admitDownstreamAuthority tenantId context.correlationId).mapError .tenantAuthority
  .ok (authority, actorId)

def analyticsRiskConcentration (context : RequestContext)
    (request : UpstreamConcentrationRequest) :
    CoreM (ConcentrationSource T F × ConcentrationResponse F) := do
  let (authority, actorId) ← MonadExcept.ofExcept (admitConcentration context request)
  let source ← resolveUpstream texts sessionTexts coreClient authority request actorId
    context.idempotencyKey
  pure (source, buildConcentrationResponse source.computation.input)

end Route

end LotusRisk
