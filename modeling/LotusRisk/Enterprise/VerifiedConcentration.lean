import LotusRisk.Concentration.ModeAgreement
import LotusRisk.Concentration.SessionSafety
import LotusRisk.Enterprise.AdmissionSafety

/-! The concentration route behind the middleware: from a credential to the calls of the core. -/

namespace LotusRisk
open Effects Emission
set_option autoImplicit true

section Route

variable {T F : Type} [ExposureFloat F]

/-- What a route has done: its calls of the core, and what it returned or raised. -/
structure RouteOutcome (T F : Type) where
  calls : List (CoreCall × CoreAnswer)
  result : Except ConcentrationError (ConcentrationSource T F × ConcentrationResponse F)

/-- The principal that the middleware leaves in the request's state, as the routes read it. -/
def ResolvedPrincipal.asRequestPrincipal (principal : ResolvedPrincipal) : RequestPrincipal where
  subject := principal.credential.subject.text
  tenantId := principal.credential.tenantId.text
  portfolioIds := principal.grants.portfolioIds

def requestContext (settings : AdmissionSettings) (request : EnterpriseRequest)
    (principal : Option ResolvedPrincipal) : RequestContext where
  resolvedPrincipal := principal.map ResolvedPrincipal.asRequestPrincipal
  verifiedPosture := settings.verifiedPosture
  correlationId :=
    match request.correlationId with
    | some correlationId => some correlationId
    | none => request.header "x-correlation-id"
  actorIdHeader := request.header "x-actor-id"
  tenantIdHeader := request.header "x-tenant-id"
  idempotencyKey := request.header "idempotency-key"

variable (texts : PyTexts ℚ) (sessionTexts : SessionTexts T) (coreClient : CoreClient)

def concentrationOutcome (context : RequestContext) (payload : UpstreamConcentrationRequest) :
    RouteOutcome T F :=
  let run := (analyticsRiskConcentration texts sessionTexts coreClient context payload).run.run []
  ⟨run.2, run.1⟩

/-- The status of a result, where the service's error handlers give each error its own. -/
def RouteOutcome.statusCode (statusOf : ConcentrationError → Int) (outcome : RouteOutcome T F) :
    Int :=
  match outcome.result with
  | .ok _ => 200
  | .error e => statusOf e

/-- The denial of `require_portfolio_scope`, which it also leaves in the request's state. -/
def RouteOutcome.scopeDenied (outcome : RouteOutcome T F) : Bool :=
  match outcome.result with
  | .error (.http 403 detail) => detail = "portfolio_outside_scope"
  | _ => false

/-- `call_next` of a request for a concentration. -/
def concentrationRoute (statusOf : ConcentrationError → Int) (settings : AdmissionSettings)
    (request : EnterpriseRequest) (payload : UpstreamConcentrationRequest)
    (principal : Option ResolvedPrincipal) : SecurityM σ (HandledResponse (RouteOutcome T F)) :=
  let outcome := concentrationOutcome texts sessionTexts coreClient
    (requestContext settings request principal) payload
  pure {
    response := {
      statusCode := outcome.statusCode statusOf
      headers := Relational.Table.empty
      body := .handled outcome }
    portfolioScopeDenied := outcome.scopeDenied }

end Route

section Isolation

variable {T F : Type} [ExposureFloat F]

theorem concentrationOutcome_safe (texts : PyTexts ℚ) (sessionTexts : SessionTexts T)
    (coreClient : CoreClient) (context : RequestContext)
    (payload : UpstreamConcentrationRequest) :
    SafeConcentration texts sessionTexts context payload
      (concentrationOutcome (F := F) texts sessionTexts coreClient context payload).calls
      (concentrationOutcome (F := F) texts sessionTexts coreClient context payload).result := by
  obtain ⟨calls, hcalls, hsafe⟩ :=
    emits_safeConcentration (F := F) texts sessionTexts coreClient context payload []
  unfold concentrationOutcome
  dsimp only
  rw [hcalls, List.nil_append]
  exact hsafe

theorem text_of_identityText (h : identityText maximum value = true) :
    value = .str value.text ∧ pyStrip value.text = value.text := by
  cases value with
  | str text =>
    simp only [identityText, trimmedText, Bool.and_eq_true, decide_eq_true_eq] at h
    exact ⟨rfl, h.1.2.symm⟩
  | _ => cases h

variable [PyText]

/-- The core is called for the tenant and the portfolios of the principal that the providers
established for the request's own credential and route. -/
def CalledFor (settings : AdmissionSettings) (texts : AdmissionTexts)
    (providers : PrincipalProviders σ) (request : EnterpriseRequest)
    (payload : UpstreamConcentrationRequest) (s : σ) (call : CoreCall) : Prop :=
  ∃ principal, EstablishedFor settings texts providers request s principal ∧
    principal.credential.tenantId = .str call.authority.tenantId ∧
    payload.input.portfolioId ∈ principal.grants.portfolioIds ∧
    ∀ portfolioId, call.portfolioId = some portfolioId →
      portfolioId ∈ principal.grants.portfolioIds

/-- In the verified posture the core is called only for a principal that the providers established
for the credential in the request's `Authorization` header and the route of its path, in the tenant
of that credential and on portfolios that were granted to it. -/
theorem verified_concentration_isolated (texts : PyTexts ℚ) (sessionTexts : SessionTexts T)
    (coreClient : CoreClient) (statusOf : ConcentrationError → Int) (settings : AdmissionSettings)
    (admissionTexts : AdmissionTexts) (providers : PrincipalProviders σ)
    (request : EnterpriseRequest) (payload : UpstreamConcentrationRequest) (s s' : σ)
    {response : EnterpriseResponse (RouteOutcome T F)} {outcome : RouteOutcome T F}
    (hposture : settings.verifiedPosture = true)
    (h : Returns (enterpriseMiddleware settings admissionTexts providers
      (concentrationRoute texts sessionTexts coreClient statusOf settings request payload) request)
      s (response, events) s')
    (hbody : response.body = .handled outcome) :
    ∀ call ∈ outcome.calls,
      CalledFor settings admissionTexts providers request payload s call.1 := by
  have houtcome := run_enterpriseMiddleware settings admissionTexts providers
    (concentrationRoute (F := F) texts sessionTexts coreClient statusOf settings request payload)
    request s
  rw [show _ = _ from h] at houtcome
  intro call hmem
  rcases houtcome with ⟨refusal, hrefuses, rfl⟩ |
    ⟨principal, audited, s₁, handled, hpasses, hcall, rfl, -⟩
  · obtain ⟨error, herror⟩ := hrefuses.body
    cases hbody.symm.trans herror
  · obtain ⟨rfl, -⟩ := returns_pure.1 hcall
    cases hbody
    have hsafe := (concentrationOutcome_safe (F := F) texts sessionTexts coreClient
      (requestContext settings request principal) payload).authorized call hmem
    cases hpasses with
    | headers hheaders => cases hposture.symm.trans hheaders
    | unprotected => exact absurd rfl (hsafe.resolved hposture)
    | verified _ _ hestablished _ =>
      obtain ⟨tenantId, htenant, hauthority⟩ := hsafe.tenant
      cases htenant
      obtain ⟨route, credential, hroute, hpresents, hprincipal⟩ := id hestablished
      obtain ⟨htext, hstrip⟩ := text_of_identityText hprincipal.valid.tenantId
      have hentitled := hsafe.entitled _ rfl payload.input.portfolioId List.mem_cons_self
      refine ⟨_, hestablished, ?_, hentitled, ?_⟩
      · rw [hauthority]
        exact htext.trans (congrArg PyObject.str hstrip.symm)
      · intro portfolioId hid
        rw [hsafe.portfolio portfolioId hid]
        exact hentitled

end Isolation

section Pilot

open scoped AsciiRuntime
open JsonText Relational

def concentrationCapability : String := "risk.concentration"

def concentrationRules : Dict String Json :=
  Dict.ofList [("POST /analytics/risk/concentration", .str concentrationCapability)]

def pilotSettings : AdmissionSettings :=
  ⟨⟨true, concentrationRules⟩, "1.0.0", 1048576, "", true⟩

theorem pilotCapabilities_trimmed :
    ∀ value ∈ ({concentrationCapability} : Finset String), trimmedText value = true := by decide

theorem pilotPortfolios_trimmed :
    ∀ value ∈ ({"P1"} : Finset String), trimmedText value = true := by decide

def pilotGrants : GrantSet := ⟨_, _, pilotCapabilities_trimmed, pilotPortfolios_trimmed⟩

def pilotCredential : CredentialFields Attribute :=
  ⟨.value (.str "ada"), .value (.str "T1"), .value (.str "user"), .value (.str "c1"), .value .none⟩

def pilotProviders : PrincipalProviders Unit :=
  ⟨some ⟨fun _ => pure (.credential pilotCredential)⟩,
    some ⟨fun _ _ => pure (.bool true), fun _ _ => pure (.grants pilotGrants),
      fun _ _ => throw .securityProviderUnavailable⟩⟩

def pilotRequest : EnterpriseRequest :=
  ⟨"POST", "/analytics/risk/concentration", [("authorization", "Bearer t")], none⟩

def asciiTexts : AdmissionTexts :=
  ⟨fun text => String.ofList (text.toList.map Char.toLower), fun _ => some 0,
    fun _ _ => throw (.other "not a denial")⟩

def pilotPayload : UpstreamConcentrationRequest :=
  ⟨.stateful soldInput, [], ⟨.legalIssuer, .coreOnly⟩⟩

def pilotRoute : Option ResolvedPrincipal →
    SecurityM Unit (HandledResponse (RouteOutcome Unit Float)) :=
  concentrationRoute plainTexts noSessionTexts (fun _ _ => .ok soldSnapshot) (fun _ => 500)
    pilotSettings pilotRequest pilotPayload

theorem run_pilot : ∃ response events outcome,
    Returns (enterpriseMiddleware pilotSettings asciiTexts pilotProviders pilotRoute pilotRequest)
      () (response, events) () ∧ response.body = .handled outcome ∧ outcome.calls.length = 1 :=
  ⟨_, _, _, rfl, rfl, rfl⟩

theorem verified_concentration_isolated_pilot : ∃ response events outcome,
    Returns (enterpriseMiddleware pilotSettings asciiTexts pilotProviders pilotRoute pilotRequest)
      () (response, events) () ∧ response.body = .handled outcome ∧ outcome.calls.length = 1 ∧
    ∀ call ∈ outcome.calls,
      CalledFor pilotSettings asciiTexts pilotProviders pilotRequest pilotPayload () call.1 := by
  obtain ⟨response, events, outcome, hreturns, hbody, hcalls⟩ := run_pilot
  exact ⟨response, events, outcome, hreturns, hbody, hcalls,
    verified_concentration_isolated plainTexts noSessionTexts _ _ pilotSettings asciiTexts
      pilotProviders pilotRequest pilotPayload () () rfl hreturns hbody⟩

end Pilot

end LotusRisk
