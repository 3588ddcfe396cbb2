import LotusRisk.Enterprise.Admission

/-! The middleware mediates every request: what passes, what is refused, and what is logged. -/

namespace LotusRisk
open Effects
set_option autoImplicit true

open JsonText
open Relational

section Gates

variable [PyText] {B σ : Type} (settings : AdmissionSettings) (texts : AdmissionTexts)
  (providers : PrincipalProviders σ) (request : EnterpriseRequest)

/-- The declared size of a write is within the limit. -/
def WithinLimit : Prop := request.method ∈ writeMethods →
  contentLength texts request ≤ settings.maxWritePayloadBytes

/-- The request writes to the route. -/
def OnRoute (route : String) : Prop :=
  request.method = "POST" ∧ route ∈ verifiedWriteRoutes ∧
    (request.path = route ∨ request.path = route ++ "/")

/-- The request carries one `Authorization` header, and the credential after its `Bearer `. -/
def Presents (credential : String) : Prop :=
  ∃ value, (request.headers.filter fun header => header.1 = "authorization").map Prod.snd =
      [value] ∧
    texts.lower (String.ofList (value.toList.take 7)) = "bearer " ∧
    credential = String.ofList (value.toList.drop 7)

/-- The providers established the principal for the credential and the route of the request. -/
def EstablishedFor (s : σ) (principal : ResolvedPrincipal) : Prop :=
  ∃ route credential, OnRoute request route ∧ Presents texts request credential ∧
    Established providers (some credential)
      (requiredCapability settings.capabilityRules request.method route) s principal

/-- What leaves the resolution of the request's credential because reading a field of what a
provider handed over raises. -/
def Leaks (s : σ) (e : Raised) : Prop :=
  ∃ route credential raised, OnRoute request route ∧ Presents texts request credential ∧
    ReadRaises providers credential
      (requiredCapability settings.capabilityRules request.method route) s raised ∧
    e = unavailableDenied raised

/-- The gates that a request has passed when its route is called with a principal. -/
inductive Passes (s : σ) : Option ResolvedPrincipal → Bool → σ → Prop
  | headers (hposture : settings.verifiedPosture = false)
      (hingress : trustedIngressRequired request.method request.path = true →
        trustedIngressAuthorized settings request = .ok true)
      (hlimit : WithinLimit settings texts request)
      (hauthorized : authorizeWriteRequest settings.toEnterpriseSettings request.method
        request.path request.headerMap = none) : Passes s none true s
  | unprotected (hposture : settings.verifiedPosture = true)
      (hopen : protectedRequest request = false) : Passes s none false s
  | verified (hposture : settings.verifiedPosture = true)
      (hlimit : WithinLimit settings texts request)
      (hestablished : EstablishedFor settings texts providers request s principal)
      (hadmitted : Returns (admitPrincipal settings texts providers request) s principal s₁) :
      Passes s (some principal) true s₁

/-- The refusals, and what is logged of each. -/
inductive Refuses (s : σ) : EnterpriseResponse B → List AuditEvent → Prop
  | tooLarge (hlimit : ¬ WithinLimit settings texts request) :
      Refuses s (errorResponse request 413 "PAYLOAD_TOO_LARGE" "payload_too_large" none) []
  | untrusted (hposture : settings.verifiedPosture = false)
      (hingress : trustedIngressAuthorized settings request = .ok false) :
      Refuses s (authorizationDenied request "missing_trusted_ingress")
        [unverifiedEvent settings texts request none "missing_trusted_ingress"]
  | unauthorized (hposture : settings.verifiedPosture = false)
      (hreason : authorizeWriteRequest settings.toEnterpriseSettings request.method request.path
        request.headerMap = some reason) :
      Refuses s (authorizationDenied request reason)
        [authorizationDeniedEvent settings texts request reason]
  | denied (hposture : settings.verifiedPosture = true)
      (hdeclared : (reason, status) ∈ declaredVerifierDenials) :
      Refuses s (verifiedDenialResponse request reason status)
        [unverifiedEvent settings texts request request.correlationId reason]
  | leaked (hposture : settings.verifiedPosture = true)
      (hleaks : Leaks settings texts providers request s e)
      (hdenial : deniedAdmission settings texts request e = .ok
        (.refused (verifiedDenialResponse request reason status : EnterpriseResponse B)
          [unverifiedEvent settings texts request request.correlationId reason])) :
      Refuses s (verifiedDenialResponse request reason status)
        [unverifiedEvent settings texts request request.correlationId reason]

variable {settings texts providers request}

omit [PyText] in
theorem payloadLimitResponse_none
    (h : (payloadLimitResponse settings texts request : Option (EnterpriseResponse B)) = none) :
    WithinLimit settings texts request := by
  intro hmethod
  unfold payloadLimitResponse at h
  rw [if_neg (not_not_intro hmethod)] at h
  split_ifs at h with hsize
  exact hsize

omit [PyText] in
theorem payloadLimitResponse_some
    (h : (payloadLimitResponse settings texts request : Option (EnterpriseResponse B)) =
      some response) :
    response = errorResponse request 413 "PAYLOAD_TOO_LARGE" "payload_too_large" none ∧
      ¬ WithinLimit settings texts request := by
  unfold payloadLimitResponse at h
  split_ifs at h with hmethod hsize
  exact ⟨(Option.some.inj h).symm, fun hlimit => hsize (hlimit hmethod)⟩

/-- What the header gates decide. -/
theorem headerAdmission_cases (providers : PrincipalProviders σ)
    (hposture : settings.verifiedPosture = false)
    (h : headerAdmission settings texts request = .ok (decision : Admission B)) (s : σ) :
    (∃ response events, decision = .refused response events ∧
      Refuses settings texts providers request s response events) ∨
    (decision = .admitted none true ∧ Passes settings texts providers request s none true s) := by
  obtain ⟨trusted, htrusted, h⟩ := bind_eq_ok.1 h
  cases trusted with
  | false =>
    cases h
    refine .inl ⟨_, _, rfl, .untrusted hposture ?_⟩
    unfold ingressTrusted at htrusted
    split_ifs at htrusted
    · exact htrusted
    · cases htrusted
  | true =>
    rw [Bool.not_true, if_neg Bool.false_ne_true] at h
    split at h
    · rename_i response hlimit
      cases h
      obtain ⟨rfl, hover⟩ := payloadLimitResponse_some hlimit
      exact .inl ⟨_, _, rfl, .tooLarge hover⟩
    · rename_i hlimit
      split at h
      · rename_i reason hreason
        cases h
        exact .inl ⟨_, _, rfl, .unauthorized hposture hreason⟩
      · rename_i hauthorized
        cases h
        refine .inr ⟨rfl, .headers hposture ?_ (payloadLimitResponse_none hlimit) hauthorized⟩
        intro hrequired
        rw [ingressTrusted, if_pos hrequired] at htrusted
        exact htrusted

theorem headerAdmission_error
    (h : (headerAdmission settings texts request : Except Raised (Admission B)) = .error e) :
    trustedIngressAuthorized settings request = .error e := by
  unfold headerAdmission at h
  cases htrusted : ingressTrusted settings request with
  | error raised =>
    rw [htrusted] at h
    cases h
    unfold ingressTrusted at htrusted
    split_ifs at htrusted
    exact htrusted
  | ok trusted =>
    rw [htrusted] at h
    change (if !trusted then _ else _ : Except Raised (Admission B)) = _ at h
    split_ifs at h
    split at h
    · cases h
    · split at h
      · cases h
      · cases h

end Gates

section Verified

variable [PyText] {B σ : Type} {settings : AdmissionSettings} {texts : AdmissionTexts}
  {request : EnterpriseRequest}

omit [PyText] in
theorem eq_of_withoutSlash (h : withoutSlash path = some shorter) : path = shorter ++ "/" := by
  unfold withoutSlash at h
  split at h
  · rename_i rest hreverse
    cases h
    have hlist : path.toList = rest.reverse ++ [ '/'] := by
      rw [← List.reverse_reverse path.toList, hreverse, List.reverse_cons]
    apply String.toList_inj.1
    rw [hlist, String.toList_append, String.toList_ofList]
    rfl
  · cases h

omit [PyText] in
theorem returns_verifiedRoutePath
    (h : Returns (verifiedRoutePath request : SecurityM σ String) s route s') :
    OnRoute request route ∧ s = s' := by
  unfold verifiedRoutePath at h
  dsimp only at h
  split_ifs at h with hbad
  · exact absurd h not_returns_throw
  · obtain ⟨rfl, rfl⟩ := returns_pure.1 h
    rw [not_or, not_not, not_not] at hbad
    refine ⟨⟨hbad.1, hbad.2, ?_⟩, rfl⟩
    cases hshort : (withoutSlash request.path).filter (· ∈ verifiedWriteRoutes) with
    | none => exact .inl rfl
    | some shorter => exact .inr (eq_of_withoutSlash (Option.filter_eq_some_iff.1 hshort).1)

omit [PyText] in
theorem declared_denied (h : (reason, status) ∈ declaredVerifierDenials) :
    Declared (denied reason status) := ⟨(reason, status), h, rfl⟩

omit [PyText] in
theorem raises_verifiedRoutePath :
    Raises (verifiedRoutePath request : SecurityM σ String) Declared := by
  unfold verifiedRoutePath
  dsimp only
  split_ifs
  · exact .throw (declared_denied (by decide))
  · exact .pure _ _

omit [PyText] in
theorem returns_bearerCredential
    (h : Returns (bearerCredential texts request : SecurityM σ (Option String)) s result s') :
    (∀ credential, result = some credential → Presents texts request credential) ∧ s = s' := by
  unfold bearerCredential at h
  split at h
  · obtain ⟨rfl, rfl⟩ := returns_pure.1 h
    exact ⟨nofun, rfl⟩
  · rename_i value hheader
    split_ifs at h with hbearer
    · exact absurd h not_returns_throw
    · obtain ⟨rfl, rfl⟩ := returns_pure.1 h
      refine ⟨fun credential hcredential => ⟨value, hheader, not_not.1 hbearer, ?_⟩, rfl⟩
      exact (Option.some.inj hcredential).symm
  · exact absurd h not_returns_throw

omit [PyText] in
theorem raises_bearerCredential :
    Raises (bearerCredential texts request : SecurityM σ (Option String)) Declared := by
  unfold bearerCredential
  split
  · exact .pure _ _
  · split_ifs
    · exact .throw (declared_denied (by decide))
    · exact .pure _ _
  · exact .throw (declared_denied (by decide))

/-- A principal is admitted for its own credential on its own route. -/
theorem returns_admitPrincipal {providers : PrincipalProviders σ}
    (h : Returns (admitPrincipal settings texts providers request) s principal s') :
    EstablishedFor settings texts providers request s principal := by
  obtain ⟨route, _, hpath, h⟩ := returns_bind.1 h
  obtain ⟨hroute, rfl⟩ := returns_verifiedRoutePath hpath
  obtain ⟨credential, _, hcredential, h⟩ := returns_bind.1 h
  obtain ⟨hpresents, rfl⟩ := returns_bearerCredential hcredential
  have hestablished := returns_resolvePrincipal h
  obtain ⟨text, _, _, _, _, _, rfl, -⟩ := id hestablished.presented
  exact ⟨route, text, hroute, hpresents text rfl, hestablished⟩

/-- What is raised is a declared denial, or leaks from a field that a provider set. -/
theorem fails_admitPrincipal {providers : PrincipalProviders σ}
    (h : Fails (admitPrincipal settings texts providers request) s e s') :
    Declared e ∨ Leaks settings texts providers request s e := by
  rcases fails_bind.1 h with h | ⟨route, _, hpath, h⟩
  · exact .inl (raises_verifiedRoutePath _ _ _ h)
  obtain ⟨hroute, rfl⟩ := returns_verifiedRoutePath hpath
  rcases fails_bind.1 h with h | ⟨credential, _, hcredential, h⟩
  · exact .inl (raises_bearerCredential _ _ _ h)
  obtain ⟨hpresents, rfl⟩ := returns_bearerCredential hcredential
  rcases fails_resolvePrincipal h with hdeclared | ⟨text, raised, rfl, -, hread, rfl⟩
  · exact .inl hdeclared
  · exact .inr ⟨route, text, raised, hroute, hpresents text rfl, hread, rfl⟩

omit [PyText] in
theorem deniedAdmission_ok {decision : Admission B}
    (h : deniedAdmission settings texts request e = .ok decision) :
    ∃ reason status, decision = .refused (verifiedDenialResponse request reason status)
      [unverifiedEvent settings texts request request.correlationId reason] := by
  unfold deniedAdmission at h
  split at h
  · obtain ⟨⟨message, statusCode⟩, -, h⟩ := bind_eq_ok.1 h
    cases h
    exact ⟨message, statusCode, rfl⟩
  all_goals cases h

/-- The verified admission raises only what leaks from a field that a provider set. -/
theorem verifiedAdmission_cases (texts : AdmissionTexts) (providers : PrincipalProviders σ)
    (request : EnterpriseRequest) (hposture : settings.verifiedPosture = true) (s : σ) :
    match (verifiedAdmission settings texts providers request : SecurityM σ (Admission B)).run.run s
    with
    | (.ok decision, s₁) =>
      (∃ response events, decision = .refused response events ∧
        Refuses settings texts providers request s response events) ∨
      ∃ principal audited, decision = .admitted principal audited ∧
        Passes settings texts providers request s principal audited s₁
    | (.error e, _) => ∃ raised, Leaks settings texts providers request s raised ∧
        (deniedAdmission settings texts request raised : Except Raised (Admission B)) = .error e
    := by
  unfold verifiedAdmission
  cases hprotected : protectedRequest request with
  | false => exact .inr ⟨none, false, rfl, .unprotected hposture hprotected⟩
  | true =>
    rw [Bool.not_true, if_neg Bool.false_ne_true]
    cases hlimit : (payloadLimitResponse settings texts request : Option (EnterpriseResponse B)) with
    | some response =>
      obtain ⟨rfl, hover⟩ := payloadLimitResponse_some hlimit
      exact .inl ⟨_, _, rfl, .tooLarge hover⟩
    | none =>
      have hwithin := payloadLimitResponse_none hlimit
      dsimp only
      rw [run_tryCatch, run_bind]
      rcases hrun : (admitPrincipal settings texts providers request).run.run s with ⟨r, s₁⟩
      cases r with
      | ok principal =>
        exact .inr ⟨some principal, true, rfl,
          .verified hposture hwithin (returns_admitPrincipal hrun) hrun⟩
      | error e =>
        dsimp only
        rcases fails_admitPrincipal hrun with ⟨⟨reason, status⟩, hdeclared, rfl⟩ | hleaks
        · exact .inl ⟨_, _, rfl, .denied hposture hdeclared⟩
        · cases hdenied :
            (deniedAdmission settings texts request e : Except Raised (Admission B)) with
          | ok decision =>
            obtain ⟨reason, status, rfl⟩ := deniedAdmission_ok hdenied
            exact .inl ⟨_, _, rfl, .leaked hposture hleaks hdenied⟩
          | error raised => exact ⟨e, hleaks, hdenied⟩

end Verified

section Mediation

variable [PyText] {B σ : Type} (settings : AdmissionSettings) (texts : AdmissionTexts)
  (providers : PrincipalProviders σ)
  (callNext : Option ResolvedPrincipal → SecurityM σ (HandledResponse B))
  (request : EnterpriseRequest)

/-- The headers that every response carries, whatever its route has set. -/
def Hardened (response : EnterpriseResponse B) : Prop :=
  response.headers.get? "x-enterprise-policy-version" = some settings.policyVersion ∧
  response.headers.get? "cache-control" = some "no-store" ∧
  response.headers.get? "referrer-policy" = some "no-referrer" ∧
  response.headers.get? "x-content-type-options" = some "nosniff"

/-- The event names nobody. -/
def Unverified (event : AuditEvent) : Prop :=
  event.actorId = "unverified" ∧ event.tenantId = "unverified" ∧ event.role = "unverified"

/-- The event names a principal that the providers established for the request. -/
def NamesEstablished (s : σ) (event : AuditEvent) : Prop :=
  ∃ principal, EstablishedFor settings texts providers request s principal ∧
    event.actorId = principal.credential.subject.text ∧
    event.tenantId = principal.credential.tenantId.text ∧
    event.role = principal.credential.kind.text

/-- The outcome of the middleware: a refusal of the gates, or what the route behind them made. -/
def MiddlewareOutcome (s : σ) (response : EnterpriseResponse B) (events : List AuditEvent)
    (s' : σ) : Prop :=
  (∃ refusal, Refuses settings texts providers request s refusal events ∧
    response = applyEnterpriseResponseHeaders settings refusal) ∨
  ∃ principal audited s₁ handled, Passes settings texts providers request s principal audited s₁ ∧
    Returns (callNext principal) s₁ handled s' ∧
    response = applyEnterpriseResponseHeaders settings handled.response ∧
    events = if audited then writeAuditEvents settings texts request principal handled else []

/-- What a response of the middleware stands for. -/
structure Mediated (s : σ) (response : EnterpriseResponse B) (events : List AuditEvent) (s' : σ) :
    Prop where
  hardened : Hardened settings response
  outcome : MiddlewareOutcome settings texts providers callNext request s response events s'
  accountable : settings.verifiedPosture = false ∨ protectedRequest request = true →
    request.method ∈ writeMethods →
      events.length = 1 ∨ events = [] ∧ response.statusCode = 413
  attributed : settings.verifiedPosture = true → ∀ event ∈ events,
    Unverified event ∨ NamesEstablished settings texts providers request s event

/-- What is raised is the route's own, or the comparison of an ingress marker that is not ASCII, or
comes from reading a field that a provider set. -/
def Escapes (s : σ) (e : Raised) (s' : σ) : Prop :=
  (∃ principal audited s₁, Passes settings texts providers request s principal audited s₁ ∧
    (callNext principal).run.run s₁ = (.error e, s')) ∨
  settings.verifiedPosture = false ∧ trustedIngressAuthorized settings request = .error e ∨
  settings.verifiedPosture = true ∧ ∃ raised, Leaks settings texts providers request s raised ∧
    (deniedAdmission settings texts request raised : Except Raised (Admission B)) = .error e

variable {settings texts providers callNext request}

omit [PyText] in
theorem hardened_apply (response : EnterpriseResponse B) :
    Hardened settings (applyEnterpriseResponseHeaders settings response) := by
  simp [Hardened, applyEnterpriseResponseHeaders, Dict.get?_set]

/-- The decision comes from the gates, and raises what the comparison of the marker raises, or what
leaks from a field that a provider set. -/
theorem admission_cases (settings : AdmissionSettings) (texts : AdmissionTexts)
    (providers : PrincipalProviders σ) (request : EnterpriseRequest) (s : σ) :
    match (admission settings texts providers request : SecurityM σ (Admission B)).run.run s with
    | (.ok decision, s₁) =>
      (∃ response events, decision = .refused response events ∧
        Refuses settings texts providers request s response events) ∨
      ∃ principal audited, decision = .admitted principal audited ∧
        Passes settings texts providers request s principal audited s₁
    | (.error e, _) =>
      settings.verifiedPosture = false ∧ trustedIngressAuthorized settings request = .error e ∨
      settings.verifiedPosture = true ∧ ∃ raised, Leaks settings texts providers request s raised ∧
        (deniedAdmission settings texts request raised : Except Raised (Admission B)) = .error e := by
  unfold admission
  cases hposture : settings.verifiedPosture with
  | true =>
    have hcases := verifiedAdmission_cases (B := B) texts providers request hposture s
    rw [if_pos rfl]
    rcases hrun : (verifiedAdmission settings texts providers request :
      SecurityM σ (Admission B)).run.run s with ⟨r, s₁⟩
    rw [hrun] at hcases
    cases r with
    | ok decision => exact hcases
    | error e => exact .inr ⟨rfl, hcases⟩
  | false =>
    rw [if_neg Bool.false_ne_true]
    cases h : (headerAdmission settings texts request : Except Raised (Admission B)) with
    | error e => exact .inl ⟨rfl, headerAdmission_error h⟩
    | ok decision =>
      rcases headerAdmission_cases providers hposture h s with hrefused | hadmitted
      · exact .inl hrefused
      · exact .inr ⟨none, true, hadmitted⟩

omit [PyText] in
/-- The events of a route that was called. -/
theorem writeAuditEvents_length (h : request.method ∈ writeMethods)
    (principal : Option ResolvedPrincipal) (handled : HandledResponse B) :
    (writeAuditEvents settings texts request principal handled).length = 1 := by
  unfold writeAuditEvents
  rw [if_neg (not_not_intro h)]
  cases principal <;> rfl

theorem Refuses.accountable {refusal : EnterpriseResponse B}
    (h : Refuses settings texts providers request s refusal events) :
    events.length = 1 ∨ events = [] ∧ refusal.statusCode = 413 := by
  cases h with
  | tooLarge => exact .inr ⟨rfl, rfl⟩
  | untrusted => exact .inl rfl
  | unauthorized => exact .inl rfl
  | denied => exact .inl rfl
  | leaked => exact .inl rfl

omit [PyText] in
theorem verifiedDenialResponse_body :
    ∃ error, (verifiedDenialResponse request reason status : EnterpriseResponse B).body =
      .error error := by
  unfold verifiedDenialResponse
  dsimp only
  split_ifs <;> exact ⟨_, rfl⟩

theorem Refuses.body {refusal : EnterpriseResponse B}
    (h : Refuses settings texts providers request s refusal events) :
    ∃ error, refusal.body = .error error := by
  cases h with
  | tooLarge => exact ⟨_, rfl⟩
  | untrusted => exact ⟨_, rfl⟩
  | unauthorized => exact ⟨_, rfl⟩
  | denied => exact verifiedDenialResponse_body
  | leaked => exact verifiedDenialResponse_body

omit [PyText] in
theorem unverifiedEvent_unverified :
    ∀ event ∈ [unverifiedEvent settings texts request correlationId reason], Unverified event := by
  intro event hmem
  cases List.mem_singleton.1 hmem
  exact ⟨rfl, rfl, rfl⟩

theorem Refuses.unverified {refusal : EnterpriseResponse B}
    (h : Refuses settings texts providers request s refusal events)
    (hposture : settings.verifiedPosture = true) : ∀ event ∈ events, Unverified event := by
  cases h with
  | tooLarge => exact fun _ hmem => absurd hmem List.not_mem_nil
  | untrusted hheaders => cases hposture.symm.trans hheaders
  | unauthorized hheaders => cases hposture.symm.trans hheaders
  | denied => exact unverifiedEvent_unverified
  | leaked => exact unverifiedEvent_unverified

theorem Passes.audited_eq (h : Passes settings texts providers request s principal audited s₁)
    (hmediated : settings.verifiedPosture = false ∨ protectedRequest request = true) :
    audited = true := by
  cases h with
  | headers => rfl
  | unprotected hposture hopen =>
    rcases hmediated with hheaders | hprotected
    · cases hposture.symm.trans hheaders
    · cases hopen.symm.trans hprotected
  | verified => rfl

/-- A route called in the verified posture is logged under the principal it was called with. -/
theorem Passes.attributed (h : Passes settings texts providers request s principal audited s₁)
    (hposture : settings.verifiedPosture = true) (handled : HandledResponse B) :
    ∀ event ∈ if audited then writeAuditEvents settings texts request principal handled else [],
      NamesEstablished settings texts providers request s event := by
  cases h with
  | headers hheaders => cases hposture.symm.trans hheaders
  | unprotected => exact fun _ hmem => absurd hmem List.not_mem_nil
  | verified _ _ hestablished _ =>
    intro event hmem
    rw [if_pos rfl, writeAuditEvents] at hmem
    split_ifs at hmem
    · cases List.mem_singleton.1 hmem
      exact ⟨_, hestablished, rfl, rfl, rfl⟩
    · exact absurd hmem List.not_mem_nil

/-- The middleware returns an outcome of its gates and raises what escapes them. -/
theorem run_enterpriseMiddleware (settings : AdmissionSettings) (texts : AdmissionTexts)
    (providers : PrincipalProviders σ)
    (callNext : Option ResolvedPrincipal → SecurityM σ (HandledResponse B))
    (request : EnterpriseRequest) (s : σ) :
    match (enterpriseMiddleware settings texts providers callNext request).run.run s with
    | (.ok (response, events), s') =>
      MiddlewareOutcome settings texts providers callNext request s response events s'
    | (.error e, s') => Escapes settings texts providers callNext request s e s' := by
  have hadmission := admission_cases (B := B) settings texts providers request s
  unfold enterpriseMiddleware
  rw [run_bind]
  rcases hrun : (admission settings texts providers request : SecurityM σ (Admission B)).run.run s
    with ⟨r, s₁⟩
  rw [hrun] at hadmission
  cases r with
  | error e => exact .inr hadmission
  | ok decision =>
    rcases hadmission with ⟨refusal, events, rfl, hrefuses⟩ | ⟨principal, audited, rfl, hpasses⟩
    · exact .inl ⟨refusal, hrefuses, rfl⟩
    · dsimp only
      rw [run_bind]
      rcases hcall : (callNext principal).run.run s₁ with ⟨r, s'⟩
      cases r with
      | error e => exact .inl ⟨principal, audited, s₁, hpasses, hcall⟩
      | ok handled => exact .inr ⟨principal, audited, s₁, handled, hpasses, hcall, rfl, rfl⟩

end Mediation

end LotusRisk
