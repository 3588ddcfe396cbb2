import LotusRisk.Enterprise.Audit
import LotusRisk.Enterprise.Authorization
import LotusRisk.Security.Resolution

/-! The admission of a request by the enterprise middleware, before any route handles it. -/

namespace LotusRisk
open Effects
set_option autoImplicit true

open JsonText
open Relational

section Requests

/-- The text functions of the runtime that the admission uses beside those of `PyText`. -/
structure AdmissionTexts where
  /-- `str.lower`. -/
  lower : String → String
  /-- `int(text)`. -/
  int : String → Option Int
  /-- The words and the status of a response for a denial whose reason is no text or whose status is
  no number, or what building it raises. -/
  denial : PyObject → PyObject → Except Raised (String × Int)

structure AdmissionSettings extends EnterpriseSettings where
  policyVersion : String
  maxWritePayloadBytes : Int
  /-- `ENTERPRISE_TRUSTED_INGRESS_SECRET`, without the space around it. -/
  trustedIngressSecret : String
  verifiedPosture : Bool

/-- A request whose headers have their names in lower case, in the order they came. -/
structure EnterpriseRequest where
  method : String
  path : String
  headers : List (String × String)
  correlationId : Option String

def EnterpriseRequest.header (request : EnterpriseRequest) (name : String) : Option String :=
  request.headers.lookup name

/-- `dict(request.headers)`, where the first of equal names counts. -/
def EnterpriseRequest.headerMap (request : EnterpriseRequest) : Dict String String :=
  Dict.ofList (request.headers.map fun header =>
    (header.1, (request.header header.1).getD header.2))

/-- What an error response says, the words derived from its code left out. -/
structure ErrorBody where
  status : Int
  code : String
  message : String
  instancePath : String
  correlationId : Option String
  reason : Option String
deriving DecidableEq

inductive ResponseBody (B : Type) where
  | handled (body : B)
  | error (body : ErrorBody)

/-- A response, the names of its headers in lower case. -/
structure EnterpriseResponse (B : Type) where
  statusCode : Int
  headers : Dict String String
  body : ResponseBody B

/-- What a route returns, and what it leaves in the request's state. -/
structure HandledResponse (B : Type) where
  response : EnterpriseResponse B
  portfolioScopeDenied : Bool

variable {B : Type}

def errorCorrelationId (request : EnterpriseRequest) : Option String :=
  match request.correlationId.filter (· ≠ "") with
  | some correlationId => some correlationId
  | none => (request.header "x-correlation-id").filter (· ≠ "")

def errorResponse (request : EnterpriseRequest) (statusCode : Int) (code message : String)
    (reason : Option String) : EnterpriseResponse B where
  statusCode := statusCode
  headers := Table.empty
  body := .error {
    status := statusCode
    code := code
    message := message
    instancePath := request.path
    correlationId := errorCorrelationId request
    reason := reason }

end Requests

section Gates

variable [PyText] {B : Type} (settings : AdmissionSettings) (texts : AdmissionTexts)
  (request : EnterpriseRequest)

def contentLength : Int := (texts.int ((request.header "content-length").getD "0")).getD 0

def payloadLimitResponse : Option (EnterpriseResponse B) :=
  if request.method ∉ writeMethods then none
  else if contentLength texts request ≤ settings.maxWritePayloadBytes then none
  else some (errorResponse request 413 "PAYLOAD_TOO_LARGE" "payload_too_large" none)

def protectedOperationalPaths : List String := ["/ops", "/ops/trust-telemetry", "/metrics"]

def trustedIngressRequired (method path : String) : Bool :=
  PyText.upper method ∈ writeMethods || path ∈ protectedOperationalPaths

def isAscii (text : String) : Bool := text.toList.all fun c => c.toNat < 128

/-- `compare_digest`, which compares texts of ASCII characters only. -/
def compareDigest (a b : String) : Except Raised Bool :=
  if isAscii a && isAscii b then .ok (a = b)
  else .error (.other "comparing strings with non-ASCII characters is not supported")

def trustedIngressAuthorized : Except Raised Bool :=
  if settings.trustedIngressSecret = "" then .ok true
  else
    let supplied := request.headerMap.getD "x-lotus-trusted-ingress" ""
    if supplied = "" then .ok false else compareDigest supplied settings.trustedIngressSecret

/-- The ingress is trusted, or need not be. -/
def ingressTrusted : Except Raised Bool :=
  if trustedIngressRequired request.method request.path then
    trustedIngressAuthorized settings request
  else .ok true

def denyAction : String := s!"DENY {request.method} {request.path}"

/-- The event of a request whose caller is not known. -/
def unverifiedEvent (correlationId : Option String) (reason : String) : AuditEvent :=
  auditEvent texts.lower settings.policyVersion (denyAction request) "unverified" "unverified"
    "unverified" correlationId (.obj [("reason", .str reason)])

def authorizationDenied (reason : String) : EnterpriseResponse B :=
  errorResponse request 403 "AUTHORIZATION_DENIED" "authorization_policy_denied" (some reason)

def authorizationDeniedEvent (reason : String) : AuditEvent :=
  auditEvent texts.lower settings.policyVersion (denyAction request)
    ((request.header "x-actor-id").getD "unknown") ((request.header "x-tenant-id").getD "default")
    ((request.header "x-role").getD "unknown") (request.header "x-correlation-id")
    (.obj [("reason", .str reason)])

end Gates

section Admission

/-- What the middleware decides before the route is called. -/
inductive Admission (B : Type) where
  | refused (response : EnterpriseResponse B) (events : List AuditEvent)
  | admitted (principal : Option ResolvedPrincipal) (audited : Bool)

variable [PyText] {B σ : Type} (settings : AdmissionSettings) (texts : AdmissionTexts)
  (providers : PrincipalProviders σ) (request : EnterpriseRequest)

/-- The gates of the trusted-header posture. -/
def headerAdmission : Except Raised (Admission B) := do
  let trusted ← ingressTrusted settings request
  if !trusted then
    .ok (.refused (authorizationDenied request "missing_trusted_ingress")
      [unverifiedEvent settings texts request none "missing_trusted_ingress"])
  else
    match payloadLimitResponse settings texts request with
    | some response => .ok (.refused response [])
    | none =>
      match authorizeWriteRequest settings.toEnterpriseSettings request.method request.path
          request.headerMap with
      | some reason => .ok (.refused (authorizationDenied request reason)
          [authorizationDeniedEvent settings texts request reason])
      | none => .ok (.admitted none true)

def verifiedWriteRoutes : List String := ["/analytics/risk/concentration",
  "/analytics/risk/regime-scenario-pack/evaluate", "/analytics/risk/risk-event-cohorts/evaluate"]

/-- `path.endswith("/")` and `path[:-1]`. -/
def withoutSlash (path : String) : Option String :=
  match path.toList.reverse with
  | '/' :: rest => some (String.ofList rest.reverse)
  | _ => none

/-- `_verified_route_path`. -/
def verifiedRoutePath : SecurityM σ String :=
  let path := ((withoutSlash request.path).filter (· ∈ verifiedWriteRoutes)).getD request.path
  if request.method ≠ "POST" ∨ path ∉ verifiedWriteRoutes then
    throw (denied "capability_not_granted" 403)
  else pure path

/-- The text after `Bearer ` of the only `Authorization` header. -/
def bearerCredential : SecurityM σ (Option String) :=
  match (request.headers.filter fun header => header.1 = "authorization").map Prod.snd with
  | [] => pure none
  | [value] =>
    if texts.lower (String.ofList (value.toList.take 7)) ≠ "bearer " then
      throw (denied "malformed_credential" 401)
    else pure (some (String.ofList (value.toList.drop 7)))
  | _ => throw (denied "malformed_credential" 401)

/-- The body of the `try` statement. -/
def admitPrincipal : SecurityM σ ResolvedPrincipal := do
  let canonicalPath ← verifiedRoutePath request
  let credential ← bearerCredential texts request
  resolvePrincipal credential
    (requiredCapability settings.capabilityRules request.method canonicalPath) providers

/-- `_verified_denial_response`, before the headers of every response. -/
def verifiedDenialResponse (reason : String) (status : Int) : EnterpriseResponse B :=
  let response := errorResponse request status "AUTHORIZATION_DENIED" reason none
  if status = 401 then
    { response with headers := response.headers.set "www-authenticate" "Bearer" }
  else response

def AdmissionTexts.denialWords (texts : AdmissionTexts) :
    PyObject → PyObject → Except Raised (String × Int)
  | .str reason, .int status => .ok (reason, status)
  | reason, status => texts.denial reason status

/-- `except PrincipalDenied`, which reads the reason and the status of the denial. -/
def deniedAdmission : Raised → Except Raised (Admission B)
  | .principalDenied (.value reason) (.value status) => do
    let (message, statusCode) ← texts.denialWords reason status
    .ok (.refused (verifiedDenialResponse request message statusCode)
      [unverifiedEvent settings texts request request.correlationId message])
  | .principalDenied (.value _) (.raises e) => .error e
  | .principalDenied (.raises e) _ => .error e
  | e => .error e

def jobsPath : String := "/analytics/risk/regime-scenario-pack/jobs"

/-- The paths and methods that need a principal. -/
def protectedRequest : Bool :=
  trustedIngressRequired request.method request.path ||
    jobsPath.toList.isPrefixOf request.path.toList

/-- The gates of the verified posture. -/
def verifiedAdmission : SecurityM σ (Admission B) :=
  if !protectedRequest request then pure (.admitted none false)
  else
    match payloadLimitResponse settings texts request with
    | some response => pure (.refused response [])
    | none =>
      tryCatch (do
        let principal ← admitPrincipal settings texts providers request
        pure (.admitted (some principal) true))
        (fun e => MonadExcept.ofExcept (deniedAdmission settings texts request e))

def admission : SecurityM σ (Admission B) :=
  if settings.verifiedPosture then verifiedAdmission settings texts providers request
  else MonadExcept.ofExcept (headerAdmission settings texts request)

end Admission

section Middleware

variable [PyText] {B σ : Type} (settings : AdmissionSettings) (texts : AdmissionTexts)
  (providers : PrincipalProviders σ)

/-- A text of a credential; the admitted ones have texts. -/
def PyObject.text : PyObject → String
  | .str text => text
  | _ => ""

/-- `_apply_enterprise_response_headers`. -/
def applyEnterpriseResponseHeaders (response : EnterpriseResponse B) : EnterpriseResponse B :=
  { response with
    headers := (((response.headers.set "x-enterprise-policy-version" settings.policyVersion).set
      "cache-control" "no-store").set "referrer-policy" "no-referrer").set
        "x-content-type-options" "nosniff" }

/-- `_emit_write_audit_event`. -/
def writeAuditEvents (request : EnterpriseRequest) (principal : Option ResolvedPrincipal)
    (handled : HandledResponse B) : List AuditEvent :=
  if request.method ∉ writeMethods then []
  else
    match principal with
    | some principal =>
      let scopeDenied := handled.response.statusCode = 403 && handled.portfolioScopeDenied
      [auditEvent texts.lower settings.policyVersion
        (if scopeDenied then denyAction request else s!"{request.method} {request.path}")
        principal.credential.subject.text principal.credential.tenantId.text
        principal.credential.kind.text request.correlationId
        (.obj ([("status_code", .int handled.response.statusCode)] ++
          if scopeDenied then [("reason", .str "portfolio_outside_scope")] else []))]
    | none =>
      [auditEvent texts.lower settings.policyVersion s!"{request.method} {request.path}"
        ((request.header "x-actor-id").getD "unknown")
        ((request.header "x-tenant-id").getD "default")
        ((request.header "x-role").getD "unknown") (request.header "x-correlation-id")
        (.obj [("status_code", .int handled.response.statusCode)])]

/-- The middleware around a route, with the events that it logs. -/
def enterpriseMiddleware (callNext : Option ResolvedPrincipal → SecurityM σ (HandledResponse B))
    (request : EnterpriseRequest) : SecurityM σ (EnterpriseResponse B × List AuditEvent) := do
  match ← admission settings texts providers request with
  | .refused response events =>
    pure (applyEnterpriseResponseHeaders settings response, events)
  | .admitted principal audited =>
    let handled ← callNext principal
    pure (applyEnterpriseResponseHeaders settings handled.response,
      if audited then writeAuditEvents settings texts request principal handled else [])

end Middleware

end LotusRisk
