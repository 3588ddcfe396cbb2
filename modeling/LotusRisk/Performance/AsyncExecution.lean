import LotusRisk.Lib.Emission
import LotusRisk.Upstream

/-! A submit to the performance service, and the polls for its result when it is accepted for
asynchronous execution. -/

namespace LotusRisk
open Effects Emission
set_option autoImplicit true

section Requests

/-- Which request of the workflow it is; each is recorded under its own operation label. -/
inductive Purpose where
  | submit
  | status
  | result
deriving DecidableEq

structure DownstreamRequest (K : Type) where
  purpose : Purpose
  url : String
  headers : List (String × String)
  body : Option (List (String × PyValue K))

/-- `json` is `response.json()`, which raises on a body that is not JSON. -/
structure HttpResponse (K : Type) where
  statusCode : Nat
  json : Except PyException (PyValue K)

/-- What a request comes to: a response, or an exception of the client. -/
inductive Outcome (K : Type) where
  | response (response : HttpResponse K)
  | timeoutException
  | httpError
  | upstreamServiceError (error : UpstreamServiceError)
  | raised (error : PyException)

abbrev Exchange (K : Type) := DownstreamRequest K × Outcome K

/-- The upstream answers as it likes, whatever it has answered before. -/
abbrev Upstream (K : Type) := List (Exchange K) → DownstreamRequest K → Outcome K

abbrev ExchangeM (K : Type) := Eff SourceException (List (Exchange K))

end Requests

section Execution

def performanceService : String := "lotus-performance"

/-- `response.is_success`. -/
def isSuccess (statusCode : Nat) : Bool := 200 ≤ statusCode && statusCode < 300

def classifyUpstreamHttpError (operation : String) (upstreamStatus : Nat) :
    UpstreamServiceError :=
  let error (statusCode : Nat) (code category verb : String) (retryable : Bool) :
      UpstreamServiceError := {
    service := performanceService
    operation := operation
    statusCode := statusCode
    code := code
    message := s!"{performanceService} {operation} {verb} ({upstreamStatus})"
    details := dependencyDetails performanceService operation category
      [("upstream_status_code", toString upstreamStatus)]
    retryable := retryable }
  if upstreamStatus = 429 then error 503 "UPSTREAM_THROTTLED" "throttled" "throttled" true
  else if 500 ≤ upstreamStatus then error 502 "UPSTREAM_FAILURE" "upstream_failure" "failed" true
  else error 424 "FAILED_DEPENDENCY" "rejected_request" "rejected request" false

def classifyUpstreamTransportError (operation : String) (timeout : Bool) :
    UpstreamServiceError :=
  if timeout then {
    service := performanceService
    operation := operation
    statusCode := 504
    code := "UPSTREAM_TIMEOUT"
    message := s!"{performanceService} {operation} timed out"
    details := dependencyDetails performanceService operation "timeout" []
    retryable := true }
  else {
    service := performanceService
    operation := operation
    statusCode := 503
    code := "UPSTREAM_UNAVAILABLE"
    message := s!"{performanceService} {operation} unavailable"
    details := dependencyDetails performanceService operation "transport" []
    retryable := true }

/-- `execute_downstream_request`, once the request has come to its outcome. -/
def successfulResponse (operation : String) (acceptedStatusCodes : List Nat) :
    Outcome K → Except SourceException (HttpResponse K)
  | .response response =>
    if response.statusCode ∈ acceptedStatusCodes || isSuccess response.statusCode then .ok response
    else .error (.upstream (classifyUpstreamHttpError operation response.statusCode))
  | .timeoutException => .error (.upstream (classifyUpstreamTransportError operation true))
  | .httpError => .error (.upstream (classifyUpstreamTransportError operation false))
  | .upstreamServiceError error => .error (.upstream error)
  | .raised error => .error (.python error)

def executeDownstreamRequestJson (upstream : Upstream K) (operation : String)
    (acceptedStatusCodes : List Nat) (request : DownstreamRequest K)
    (parseResponse : HttpResponse K → Except SourceException α) : ExchangeM K α := do
  let outcome ← ask upstream request
  ofExcept (successfulResponse operation acceptedStatusCodes outcome >>= parseResponse)

end Execution

section Payloads

/-- The operation labels of one asynchronous workflow. -/
structure AsyncExecutionOperations where
  submit : String
  status : String
  result : String
  workflowName : String
  bindResultCalculationId : Bool

def returnsSeriesAsyncOperations : AsyncExecutionOperations where
  submit := "/integration/returns/series"
  status := "/integration/returns/series/status/\x7bcalculation_id\x7d"
  result := "/integration/returns/series/results/\x7bcalculation_id\x7d"
  workflowName := "returns-series"
  bindResultCalculationId := true

def contributionAsyncOperations : AsyncExecutionOperations where
  submit := "/performance/contribution"
  status := "/performance/executions/\x7bcalculation_id\x7d"
  result := "/performance/contribution/results/\x7bcalculation_id\x7d"
  workflowName := "contribution"
  bindResultCalculationId := false

/-- `isinstance(value, str) and value.startswith("/")`. -/
def pathText : PyValue K → Option String
  | .str text => if text.toList.head? = some '/' then some text else none
  | _ => none

def asyncAcceptedPaths (acceptedPayload : List (String × PyValue K))
    (operations : AsyncExecutionOperations) : Except SourceException (String × Option String) :=
  match pathText (getEntry acceptedPayload "result_path") with
  | none => .error (.upstream (invalidUpstreamPayload performanceService operations.submit
      "lotus-performance async accepted payload missing result_path" []))
  | some resultPath =>
    if (getEntry acceptedPayload "poll_path").isNone then .ok (resultPath, none)
    else
      match pathText (getEntry acceptedPayload "poll_path") with
      | none => .error (.upstream (invalidUpstreamPayload performanceService operations.submit
          "lotus-performance async accepted payload has invalid poll_path" []))
      | some pollPath => .ok (resultPath, some pollPath)

def acceptedCalculationId (acceptedPayload : List (String × PyValue K))
    (operations : AsyncExecutionOperations) : Except SourceException String :=
  match getEntry acceptedPayload "calculation_id" with
  | .str calculationId =>
    if pyStrip calculationId ≠ "" then .ok calculationId
    else .error (.upstream (invalidUpstreamPayload performanceService operations.submit
      "lotus-performance async accepted payload missing calculation_id"
      [("field", "calculation_id")]))
  | _ => .error (.upstream (invalidUpstreamPayload performanceService operations.submit
      "lotus-performance async accepted payload missing calculation_id"
      [("field", "calculation_id")]))

/-- `raise_async_failure`. -/
def asyncFailure (executionPayload : List (String × PyValue K))
    (operations : AsyncExecutionOperations) : SourceException :=
  let detail := match getEntry executionPayload "error_message" with
    | .str message => if message = "" then "" else ": " ++ message
    | _ => ""
  .upstream (missingUpstreamData performanceService operations.submit
    s!"lotus-performance async {operations.workflowName} failed{detail}" [])

/-- `raise_async_poll_timeout`. -/
def asyncPollTimeout (lastStatus : String) (operations : AsyncExecutionOperations) :
    SourceException :=
  .upstream (missingUpstreamData performanceService operations.submit
    (s!"lotus-performance async {operations.workflowName} did not complete within " ++
      s!"polling budget (last_status={lastStatus})") [])

def requiredAsyncResult (resultPayload : Option (List (String × PyValue K)))
    (acceptedCalculationId : String) (operations : AsyncExecutionOperations) :
    Except SourceException (List (String × PyValue K)) :=
  match resultPayload with
  | none => .error (.upstream (missingUpstreamData performanceService operations.submit
      s!"lotus-performance async {operations.workflowName} result returned no payload" []))
  | some payload =>
    if operations.bindResultCalculationId &&
        !declares payload "calculation_id" acceptedCalculationId then
      .error (.upstream (invalidUpstreamPayload performanceService operations.result
        (s!"lotus-performance async {operations.workflowName} result calculation_id " ++
          "does not match accepted execution") [("field", "calculation_id")]))
    else .ok payload

def jsonOf (response : HttpResponse K) : Except SourceException (PyValue K) :=
  match response.json with
  | .ok payload => .ok payload
  | .error error => .error (.python error)

def parseDictPayload (response : HttpResponse K) (invalidMessage operation : String) :
    Except SourceException (List (String × PyValue K)) := do
  match ← jsonOf response with
  | .dict payload => .ok payload
  | _ => .error (.upstream (invalidUpstreamPayload performanceService operation invalidMessage []))

def parseOptionalDictPayload (response : HttpResponse K) (invalidMessage operation : String) :
    Except SourceException (Option (List (String × PyValue K))) := do
  match ← jsonOf response with
  | .none => .ok none
  | .dict payload => .ok (some payload)
  | _ => .error (.upstream (invalidUpstreamPayload performanceService operation invalidMessage []))

end Payloads

section Polling

/-- `status if isinstance(status, str) else last_status`. -/
def nextStatus (executionPayload : List (String × PyValue K)) (lastStatus : String) : String :=
  match getEntry executionPayload "status" with
  | .str status => status
  | _ => lastStatus

/-- The polls of one accepted execution. -/
structure Poller (K : Type) where
  upstream : Upstream K
  baseUrl : String
  headers : List (String × String)
  operations : AsyncExecutionOperations

variable (poller : Poller K)

def Poller.request (purpose : Purpose) (path : String) : DownstreamRequest K where
  purpose := purpose
  url := poller.baseUrl ++ path
  headers := poller.headers
  body := none

/-- What `_poll_status` makes of a status response. -/
def readStatus (operations : AsyncExecutionOperations) (pollPath lastStatus : String)
    (response : HttpResponse K) : Except SourceException String := do
  let executionPayload ← parseDictPayload response
    s!"lotus-performance returned invalid JSON payload for {pollPath}" operations.status
  if declares executionPayload "status" "failed" then
    .error (asyncFailure executionPayload operations)
  else .ok (nextStatus executionPayload lastStatus)

def pollStatus (pollPath lastStatus : String) : ExchangeM K String :=
  executeDownstreamRequestJson poller.upstream poller.operations.status []
    (poller.request .status pollPath) (readStatus poller.operations pollPath lastStatus)

/-- What `_get_result` makes of a result response. -/
def readResult (operations : AsyncExecutionOperations) (response : HttpResponse K) :
    Except SourceException (Nat × Option (List (String × PyValue K))) := do
  if response.statusCode ∈ [202, 404] then .ok (response.statusCode, none)
  else
    let payload ← parseOptionalDictPayload response
      "lotus-performance returned invalid async result payload" operations.result
    .ok (response.statusCode, payload)

def getResult (resultPath : String) :
    ExchangeM K (Nat × Option (List (String × PyValue K))) :=
  executeDownstreamRequestJson poller.upstream poller.operations.result [202, 404]
    (poller.request .result resultPath) (readResult poller.operations)

/-- The status is polled where there is a path for it. -/
def pollStatusIfGiven (pollPath : Option String) (lastStatus : String) : ExchangeM K String :=
  match pollPath with
  | none => pure lastStatus
  | some path => if path = "" then pure lastStatus else pollStatus poller path lastStatus

def pollOnce (resultPath : String) (pollPath : Option String) (lastStatus calculationId : String) :
    ExchangeM K (Option (List (String × PyValue K)) × String) := do
  let next ← pollStatusIfGiven poller pollPath lastStatus
  let result ← getResult poller resultPath
  if result.1 ≠ 200 then pure (none, next)
  else
    let payload ← ofExcept (requiredAsyncResult result.2 calculationId poller.operations)
    pure (some payload, next)

/-- The rounds that are left, and what follows the last of them. -/
def pollRounds (resultPath : String) (pollPath : Option String) (calculationId : String) :
    Nat → String → ExchangeM K (List (String × PyValue K))
  | 0, lastStatus => throw (asyncPollTimeout lastStatus poller.operations)
  | rounds + 1, lastStatus => do
    match ← pollOnce poller resultPath pollPath lastStatus calculationId with
    | (some payload, _) => pure payload
    | (none, next) => pollRounds resultPath pollPath calculationId rounds next

/-- `range(async_max_polls)` of a negative number is empty. -/
def pollAsyncResult (acceptedPayload : List (String × PyValue K)) (asyncMaxPolls : Int) :
    ExchangeM K (List (String × PyValue K)) := do
  let paths ← ofExcept (asyncAcceptedPaths acceptedPayload poller.operations)
  let calculationId ← ofExcept (acceptedCalculationId acceptedPayload poller.operations)
  pollRounds poller paths.1 paths.2 calculationId asyncMaxPolls.toNat "pending"

/-- What a submit response comes to: its status, and its payload. -/
def readSubmit (operations : AsyncExecutionOperations) (response : HttpResponse K) :
    Except SourceException (Nat × List (String × PyValue K)) := do
  let payload ← parseDictPayload response
    (if response.statusCode = 202 then "lotus-performance returned invalid async accepted payload"
      else "lotus-performance returned invalid JSON payload") operations.submit
  .ok (response.statusCode, payload)

/-- `_execute_async_workflow_with_client`. -/
def executeAsyncWorkflow (requestPayload : List (String × PyValue K)) (asyncMaxPolls : Int) :
    ExchangeM K (List (String × PyValue K)) := do
  let answer ← executeDownstreamRequestJson poller.upstream poller.operations.submit []
    { poller.request .submit poller.operations.submit with body := some requestPayload }
    (readSubmit poller.operations)
  if answer.1 = 202 then pollAsyncResult poller answer.2 asyncMaxPolls
  else pure answer.2

end Polling

end LotusRisk
