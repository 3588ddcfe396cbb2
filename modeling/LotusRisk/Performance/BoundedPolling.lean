import LotusRisk.Performance.AsyncExecution

/-! Polling stays within its budget and its identity, whatever the upstream answers. -/

namespace LotusRisk
open Effects Emission
set_option autoImplicit true

section Exchanges

def requests (purpose : Purpose) (exchanges : List (Exchange K)) : Nat :=
  exchanges.countP (fun e => e.1.purpose = purpose)

/-- A status response that says that the execution failed. -/
def ReportsFailure (e : Exchange K) (payload : List (String × PyValue K)) : Prop :=
  e.1.purpose = .status ∧ declares payload "status" "failed" = true ∧
    ∃ statusCode, e.2 = .response ⟨statusCode, .ok (.dict payload)⟩ ∧ isSuccess statusCode = true

/-- A result response with status 200 and the payload. -/
def DeliversResult (e : Exchange K) (payload : List (String × PyValue K)) : Prop :=
  e.1.purpose = .result ∧ e.2 = .response ⟨200, .ok (.dict payload)⟩

/-- A status that is not failed. -/
def PendingStatus (e : Exchange K) : Prop :=
  ∃ statusCode payload, e.2 = .response ⟨statusCode, .ok (.dict payload)⟩ ∧
    isSuccess statusCode = true ∧ declares payload "status" "failed" = false

/-- A result that is not there yet. -/
def PendingResult (e : Exchange K) : Prop :=
  ∃ response : HttpResponse K, e.2 = .response response ∧
    (response.statusCode ∈ [202, 404] ∨ isSuccess response.statusCode = true ∧
      response.statusCode ≠ 200 ∧
      (response.json = .ok .none ∨ ∃ payload, response.json = .ok (.dict payload)))

/-- Nothing went wrong, and nothing is complete. -/
def Pending (e : Exchange K) : Prop :=
  (e.1.purpose = .status → PendingStatus e) ∧ (e.1.purpose = .result → PendingResult e)

theorem DeliversResult.not_pending {e : Exchange K} (h : DeliversResult e payload) : ¬Pending e := by
  intro hpending
  obtain ⟨response, heq, hcases⟩ := hpending.2 h.1
  rw [h.2] at heq
  cases heq
  rcases hcases with hcode | ⟨_, hcode, _⟩
  · exact absurd hcode (show ¬200 ∈ [202, 404] by decide)
  · exact hcode rfl

theorem ReportsFailure.not_pending {e : Exchange K} (h : ReportsFailure e payload) :
    ¬Pending e := by
  intro hpending
  obtain ⟨statusCode, heq, _⟩ := h.2.2
  obtain ⟨statusCode', payload', heq', _, hstatus⟩ := hpending.1 h.1
  rw [heq] at heq'
  cases heq'
  rw [h.2.1] at hstatus
  cases hstatus

end Exchanges

section Steps

theorem emits_execute (upstream : Upstream K) (operation : String) (accepted : List Nat)
    (request : DownstreamRequest K) (parse : HttpResponse K → Except SourceException α) :
    Emits (executeDownstreamRequestJson upstream operation accepted request parse)
      (fun new r => ∃ outcome, new = [(request, outcome)] ∧
        r = (successfulResponse operation accepted outcome >>= parse)) := by
  rw [executeDownstreamRequestJson]
  apply (emits_ask upstream request).bind
  · rintro new e ⟨outcome, _, h⟩
    cases h
  · rintro new outcome ⟨outcome', rfl, h⟩
    cases h
    apply emits_ofExcept
    exact ⟨outcome, List.append_nil _, rfl⟩

theorem successfulResponse_eq_ok {accepted : List Nat} {outcome : Outcome K} :
    successfulResponse operation accepted outcome = .ok response ↔
      outcome = .response response ∧
        (response.statusCode ∈ accepted ∨ isSuccess response.statusCode = true) := by
  cases outcome with
  | response r =>
    rw [successfulResponse]
    by_cases h : r.statusCode ∈ accepted ∨ isSuccess r.statusCode = true
    · rw [if_pos (by simpa using h)]
      constructor
      · intro heq
        cases heq
        exact ⟨rfl, h⟩
      · rintro ⟨heq, _⟩
        cases heq
        rfl
    · rw [if_neg (by simpa using h)]
      constructor
      · intro heq
        cases heq
      · rintro ⟨heq, hcode⟩
        cases heq
        exact absurd hcode h
  | timeoutException => simp [successfulResponse]
  | httpError => simp [successfulResponse]
  | upstreamServiceError error => simp [successfulResponse]
  | raised error => simp [successfulResponse]

theorem jsonOf_eq_ok {response : HttpResponse K} :
    jsonOf response = .ok payload ↔ response.json = .ok payload := by
  rw [jsonOf]
  cases response.json with
  | ok value => simp
  | error e => simp

theorem parseDictPayload_eq_ok {response : HttpResponse K} :
    parseDictPayload response message operation = .ok payload ↔
      response.json = .ok (.dict payload) := by
  rw [parseDictPayload, bind_eq_ok]
  simp only [jsonOf_eq_ok]
  constructor
  · rintro ⟨value, hvalue, h⟩
    cases value with
    | dict entries =>
      cases h
      exact hvalue
    | _ => cases h
  · intro h
    exact ⟨_, h, rfl⟩

theorem parseOptionalDictPayload_eq_ok {response : HttpResponse K} :
    parseOptionalDictPayload response message operation = .ok payload ↔
      response.json = .ok .none ∧ payload = none ∨
        ∃ entries, response.json = .ok (.dict entries) ∧ payload = some entries := by
  rw [parseOptionalDictPayload, bind_eq_ok]
  simp only [jsonOf_eq_ok]
  constructor
  · rintro ⟨value, hvalue, h⟩
    cases value with
    | none =>
      cases h
      exact .inl ⟨hvalue, rfl⟩
    | dict entries =>
      cases h
      exact .inr ⟨entries, hvalue, rfl⟩
    | _ => cases h
  · rintro (⟨hvalue, rfl⟩ | ⟨entries, hvalue, rfl⟩)
    · exact ⟨_, hvalue, rfl⟩
    · exact ⟨_, hvalue, rfl⟩

end Steps

section Rounds

variable {poller : Poller K}

/-- The status is polled with one request, which goes on only from a pending status. -/
structure StatusSpec (poller : Poller K) (new : List (Exchange K))
    (r : Except SourceException String) : Prop where
  request : ∃ e, new = [e] ∧ e.1.purpose = .status ∧ e.1.headers = poller.headers
  pending : ∀ e ∈ new, PendingStatus e ↔ ∃ next, r = .ok next
  failed : ∀ e ∈ new, ∀ payload, ReportsFailure e payload →
    r = .error (asyncFailure payload poller.operations)

theorem readStatus_eq_ok {response : HttpResponse K} :
    (∃ next, readStatus operations path last response = .ok next) ↔
      ∃ payload, response.json = .ok (.dict payload) ∧
        declares payload "status" "failed" = false := by
  simp only [readStatus, bind_eq_ok, parseDictPayload_eq_ok]
  constructor
  · rintro ⟨next, payload, hjson, h⟩
    refine ⟨payload, hjson, ?_⟩
    cases hstatus : declares payload "status" "failed" with
    | false => rfl
    | true =>
      rw [hstatus] at h
      cases h
  · rintro ⟨payload, hjson, hstatus⟩
    exact ⟨_, payload, hjson, by rw [hstatus]; rfl⟩

theorem readStatus_failed {response : HttpResponse K} (h : response.json = .ok (.dict payload))
    (hstatus : declares payload "status" "failed" = true) :
    readStatus operations path last response = .error (asyncFailure payload operations) := by
  rw [readStatus, parseDictPayload_eq_ok.2 h]
  exact if_pos hstatus

theorem emits_pollStatus (poller : Poller K) (path last : String) :
    Emits (pollStatus poller path last) (StatusSpec poller) := by
  rw [pollStatus]
  apply (emits_execute _ _ _ _ _).weaken
  rintro new r ⟨outcome, rfl, rfl⟩
  refine ⟨⟨_, rfl, rfl, rfl⟩, ?_, ?_⟩
  · intro e he
    rw [List.mem_singleton.1 he]
    constructor
    · rintro ⟨statusCode, payload, heq, hcode, hstatus⟩
      have hread : ∃ next, readStatus poller.operations path last
          ⟨statusCode, .ok (.dict payload)⟩ = .ok next :=
        readStatus_eq_ok.2 ⟨payload, rfl, hstatus⟩
      obtain ⟨next, hnext⟩ := hread
      exact ⟨next, bind_eq_ok.2 ⟨_, successfulResponse_eq_ok.2 ⟨heq, .inr hcode⟩, hnext⟩⟩
    · rintro ⟨next, h⟩
      obtain ⟨response, hresponse, hread⟩ := bind_eq_ok.1 h
      obtain ⟨heq, hcode⟩ := successfulResponse_eq_ok.1 hresponse
      obtain ⟨payload, hjson, hstatus⟩ := readStatus_eq_ok.1 ⟨next, hread⟩
      obtain ⟨statusCode, json⟩ := response
      cases hjson
      exact ⟨statusCode, payload, heq, hcode.resolve_left (List.not_mem_nil), hstatus⟩
  · intro e he payload hfailure
    rw [List.mem_singleton.1 he] at hfailure
    obtain ⟨_, hstatus, statusCode, heq, hcode⟩ := hfailure
    have hresponse : successfulResponse poller.operations.status [] outcome =
        .ok ⟨statusCode, .ok (.dict payload)⟩ := successfulResponse_eq_ok.2 ⟨heq, .inr hcode⟩
    have hread : readStatus poller.operations path last ⟨statusCode, .ok (.dict payload)⟩ =
        .error (asyncFailure payload poller.operations) := readStatus_failed rfl hstatus
    rw [hresponse]
    exact hread

/-- The result is asked for with one request, and only a response with status 200 ends it. -/
structure ResultSpec (poller : Poller K) (new : List (Exchange K))
    (r : Except SourceException (Nat × Option (List (String × PyValue K)))) : Prop where
  request : ∃ e, new = [e] ∧ e.1.purpose = .result ∧ e.1.headers = poller.headers
  complete : ∀ e ∈ new, ∀ payload, r = .ok (200, some payload) → DeliversResult e payload
  pending : ∀ e ∈ new, PendingResult e ↔ ∃ code payload, r = .ok (code, payload) ∧ code ≠ 200

theorem readResult_eq_ok {response : HttpResponse K} :
    readResult operations response = .ok (code, payload) ↔ response.statusCode = code ∧
      (code ∈ [202, 404] ∧ payload = none ∨ code ∉ [202, 404] ∧
        (response.json = .ok .none ∧ payload = none ∨
          ∃ entries, response.json = .ok (.dict entries) ∧ payload = some entries)) := by
  rw [readResult]
  by_cases hcode : response.statusCode ∈ [202, 404]
  · rw [if_pos hcode]
    constructor
    · intro h
      cases h
      exact ⟨rfl, .inl ⟨hcode, rfl⟩⟩
    · rintro ⟨rfl, ⟨_, rfl⟩ | ⟨hother, _⟩⟩
      · rfl
      · exact absurd hcode hother
  · rw [if_neg hcode, bind_eq_ok]
    simp only [parseOptionalDictPayload_eq_ok]
    constructor
    · rintro ⟨payload', hpayload, h⟩
      cases h
      exact ⟨rfl, .inr ⟨hcode, hpayload⟩⟩
    · rintro ⟨rfl, ⟨hother, _⟩ | ⟨_, hpayload⟩⟩
      · exact absurd hother hcode
      · exact ⟨payload, hpayload, rfl⟩

theorem emits_getResult (poller : Poller K) (path : String) :
    Emits (getResult poller path) (ResultSpec poller) := by
  rw [getResult]
  apply (emits_execute _ _ _ _ _).weaken
  rintro new r ⟨outcome, rfl, rfl⟩
  refine ⟨⟨_, rfl, rfl, rfl⟩, ?_, ?_⟩
  · intro e he payload h
    rw [List.mem_singleton.1 he]
    obtain ⟨⟨statusCode, json⟩, hresponse, hread⟩ := bind_eq_ok.1 h
    obtain ⟨heq, _⟩ := successfulResponse_eq_ok.1 hresponse
    obtain ⟨hcode, hpayload⟩ := readResult_eq_ok.1 hread
    cases hcode
    rcases hpayload with ⟨hmem, _⟩ | ⟨_, ⟨_, hnone⟩ | ⟨entries, hjson, hentries⟩⟩
    · exact absurd hmem (show ¬200 ∈ [202, 404] by decide)
    · cases hnone
    · cases hentries
      cases hjson
      exact ⟨rfl, heq⟩
  · intro e he
    rw [List.mem_singleton.1 he]
    constructor
    · rintro ⟨response, heq, hcases⟩
      have hread : ∃ code payload, readResult poller.operations response = .ok (code, payload) ∧
          code ≠ 200 := by
        by_cases hmem : response.statusCode ∈ [202, 404]
        · refine ⟨_, none, readResult_eq_ok.2 ⟨rfl, .inl ⟨hmem, rfl⟩⟩, ?_⟩
          intro hcode
          rw [hcode] at hmem
          exact absurd hmem (show ¬200 ∈ [202, 404] by decide)
        · obtain ⟨_, hne, hjson⟩ := hcases.resolve_left hmem
          rcases hjson with hnone | ⟨entries, hentries⟩
          · exact ⟨_, none, readResult_eq_ok.2 ⟨rfl, .inr ⟨hmem, .inl ⟨hnone, rfl⟩⟩⟩, hne⟩
          · exact ⟨_, some entries,
              readResult_eq_ok.2 ⟨rfl, .inr ⟨hmem, .inr ⟨entries, hentries, rfl⟩⟩⟩, hne⟩
      obtain ⟨code, payload, hread, hne⟩ := hread
      have hsuccess := hcases.imp_right And.left
      exact ⟨code, payload,
        bind_eq_ok.2 ⟨response, successfulResponse_eq_ok.2 ⟨heq, hsuccess⟩, hread⟩, hne⟩
    · rintro ⟨code, payload, h, hne⟩
      obtain ⟨response, hresponse, hread⟩ := bind_eq_ok.1 h
      obtain ⟨heq, hsuccess⟩ := successfulResponse_eq_ok.1 hresponse
      obtain ⟨rfl, hpayload⟩ := readResult_eq_ok.1 hread
      refine ⟨response, heq, ?_⟩
      rcases hpayload with ⟨hmem, _⟩ | ⟨hmem, hjson⟩
      · exact .inl hmem
      · refine .inr ⟨hsuccess.resolve_left hmem, hne, ?_⟩
        exact hjson.imp And.left fun ⟨entries, hentries, _⟩ => ⟨entries, hentries⟩

theorem requests_append (purpose : Purpose) (a b : List (Exchange K)) :
    requests purpose (a ++ b) = requests purpose a + requests purpose b :=
  List.countP_append

theorem requests_singleton (purpose : Purpose) (e : Exchange K) :
    requests purpose [e] = if e.1.purpose = purpose then 1 else 0 := by
  rw [requests, List.countP_singleton]
  simp only [decide_eq_true_eq]

/-- What so many rounds of polls may send. -/
structure Polls (poller : Poller K) (rounds : Nat) (new : List (Exchange K)) : Prop where
  status : requests .status new ≤ rounds
  result : requests .result new ≤ rounds
  headers : ∀ e ∈ new, e.1.headers = poller.headers

/-- Pending exchanges, and then a complete result, of the accepted calculation where it is
bound. -/
def EndsWith (poller : Poller K) (calculationId : String) (new : List (Exchange K))
    (payload : List (String × PyValue K)) : Prop :=
  ∃ before e, new = before ++ [e] ∧ (∀ e' ∈ before, Pending e') ∧ DeliversResult e payload ∧
    (poller.operations.bindResultCalculationId = true →
      declares payload "calculation_id" calculationId = true)

theorem EndsWith.append {new : List (Exchange K)} (h : EndsWith poller calculationId new payload)
    {before : List (Exchange K)} (hbefore : ∀ e ∈ before, Pending e) :
    EndsWith poller calculationId (before ++ new) payload := by
  obtain ⟨middle, e, rfl, hmiddle, hcompletes, hbound⟩ := h
  exact ⟨before ++ middle, e, (List.append_assoc _ _ _).symm,
    List.forall_mem_append.2 ⟨hbefore, hmiddle⟩, hcompletes, hbound⟩

theorem EndsWith.not_pending {new : List (Exchange K)}
    (h : EndsWith poller calculationId new payload) : ∃ e ∈ new, ¬Pending e := by
  obtain ⟨before, e, rfl, _, hcompletes, _⟩ := h
  exact ⟨e, List.mem_append_right _ (List.mem_singleton.2 rfl), hcompletes.not_pending⟩

/-- One round of polls. -/
structure RoundSpec (poller : Poller K) (calculationId : String) (new : List (Exchange K))
    (r : Except SourceException (Option (List (String × PyValue K)) × String)) : Prop
    extends Polls poller 1 new where
  returned : ∀ payload next, r = .ok (some payload, next) →
    EndsWith poller calculationId new payload
  continued : ∀ next, r = .ok (none, next) →
    (∀ e ∈ new, Pending e) ∧ requests .result new = 1
  failed : ∀ e ∈ new, ∀ payload, ReportsFailure e payload →
    r = .error (asyncFailure payload poller.operations)
  raised : ∀ error, r = .error error → ∃ e ∈ new, ¬Pending e

/-- Nothing was asked for, or a status that is pending. -/
structure StatusGiven (poller : Poller K) (new : List (Exchange K)) : Prop where
  pending : ∀ e ∈ new, Pending e
  status : requests .status new ≤ 1
  result : requests .result new = 0
  headers : ∀ e ∈ new, e.1.headers = poller.headers

theorem StatusSpec.given {new : List (Exchange K)} (h : StatusSpec poller new (.ok next)) :
    StatusGiven poller new := by
  obtain ⟨e, rfl, hpurpose, hheaders⟩ := h.request
  have hpending := (h.pending e (List.mem_singleton.2 rfl)).2 ⟨next, rfl⟩
  refine ⟨?_, ?_, ?_, ?_⟩
  · intro e' he
    rw [List.mem_singleton.1 he]
    refine ⟨fun _ => hpending, fun hresult => ?_⟩
    rw [hpurpose] at hresult
    cases hresult
  · rw [requests_singleton, if_pos hpurpose]
  · rw [requests_singleton, hpurpose]
    rfl
  · intro e' he
    rw [List.mem_singleton.1 he, hheaders]

/-- A status that does not go on ends the round. -/
theorem StatusSpec.round {new : List (Exchange K)} (h : StatusSpec poller new (.error error)) :
    RoundSpec poller calculationId new (.error error) := by
  have hfailed := h.failed
  obtain ⟨e, rfl, hpurpose, hheaders⟩ := h.request
  have hmem : e ∈ [e] := List.mem_singleton.2 rfl
  refine ⟨⟨?_, ?_, ?_⟩, ?_, ?_, ?_, ?_⟩
  · rw [requests_singleton, if_pos hpurpose]
  · rw [requests_singleton, hpurpose]
    exact Nat.zero_le 1
  · intro e' he
    rw [List.mem_singleton.1 he, hheaders]
  · intro payload next hr
    cases hr
  · intro next hr
    cases hr
  · intro e' he payload hfailure
    rw [Except.error.inj (hfailed e' he payload hfailure)]
  · intro error' _
    refine ⟨e, hmem, fun hpending => ?_⟩
    obtain ⟨next, hnext⟩ := (h.pending e hmem).1 (hpending.1 hpurpose)
    cases hnext

theorem emits_pollStatusIfGiven (poller : Poller K) (path : Option String) (last : String) :
    Emits (pollStatusIfGiven poller path last) (fun new r =>
      StatusSpec poller new r ∨ new = [] ∧ ∃ next, r = .ok next) := by
  cases path with
  | none => exact emits_pure (.inr ⟨rfl, last, rfl⟩)
  | some path =>
    rw [pollStatusIfGiven]
    split
    · exact emits_pure (.inr ⟨rfl, last, rfl⟩)
    · exact (emits_pollStatus poller path last).weaken fun new r h => .inl h

/-- A round whose status went on, and whose result came to `r`. -/
theorem RoundSpec.of_result {before later : List (Exchange K)}
    {r : Except SourceException (Option (List (String × PyValue K)) × String)}
    (hgiven : StatusGiven poller before)
    (hrequest : ∃ e, later = [e] ∧ e.1.purpose = .result ∧ e.1.headers = poller.headers)
    (hreturned : ∀ payload next, r = .ok (some payload, next) →
      EndsWith poller calculationId later payload)
    (hpending : ∀ e ∈ later, PendingResult e ↔ ∃ next, r = .ok (none, next)) :
    RoundSpec poller calculationId (before ++ later) r := by
  obtain ⟨e, rfl, hpurpose, hheaders⟩ := hrequest
  have hmem : e ∈ [e] := List.mem_singleton.2 rfl
  have hlast : Pending e ↔ PendingResult e := by
    rw [Pending, hpurpose]
    simp
  have hcount : requests .result (before ++ [e]) = 1 := by
    rw [requests_append, hgiven.result, requests_singleton, if_pos hpurpose]
  refine ⟨⟨?_, hcount.le, ?_⟩, ?_, ?_, ?_, ?_⟩
  · rw [requests_append, requests_singleton, hpurpose]
    exact hgiven.status
  · intro e' he
    rcases List.mem_append.1 he with he | he
    · exact hgiven.headers e' he
    · rw [List.mem_singleton.1 he, hheaders]
  · intro payload next hr
    exact (hreturned payload next hr).append hgiven.pending
  · intro next hr
    refine ⟨?_, hcount⟩
    intro e' he
    rcases List.mem_append.1 he with he | he
    · exact hgiven.pending e' he
    · rw [List.mem_singleton.1 he, hlast, hpending e hmem]
      exact ⟨next, hr⟩
  · intro e' he payload hfailure
    rcases List.mem_append.1 he with he | he
    · exact absurd (hgiven.pending e' he) hfailure.not_pending
    · have hstatus := hfailure.1
      rw [List.mem_singleton.1 he, hpurpose] at hstatus
      cases hstatus
  · intro error hr
    refine ⟨e, List.mem_append_right _ hmem, fun hp => ?_⟩
    obtain ⟨next, hnext⟩ := (hpending e hmem).1 (hlast.1 hp)
    rw [hr] at hnext
    cases hnext

/-- A result with status 200 is checked, and returned or refused. -/
theorem requiredAsyncResult_eq_ok {result : Option (List (String × PyValue K))} :
    requiredAsyncResult result calculationId operations = .ok payload ↔
      result = some payload ∧ (operations.bindResultCalculationId = true →
        declares payload "calculation_id" calculationId = true) := by
  cases result with
  | none => simp [requiredAsyncResult]
  | some payload' =>
    rw [requiredAsyncResult]
    cases hbind : operations.bindResultCalculationId with
    | false => simp
    | true =>
      cases hid : declares payload' "calculation_id" calculationId with
      | true =>
        simp only [Bool.not_true, Bool.and_false, Bool.false_eq_true, if_false, Except.ok.injEq,
          Option.some.injEq, forall_const]
        constructor
        · rintro rfl
          exact ⟨rfl, hid⟩
        · exact And.left
      | false =>
        simp only [Bool.not_false, Bool.and_self, if_true, reduceCtorEq, false_iff, not_and,
          forall_const, Option.some.injEq]
        rintro rfl
        rw [hid]
        exact Bool.false_ne_true

theorem emits_pollOnce (poller : Poller K) (resultPath : String) (pollPath : Option String)
    (last calculationId : String) :
    Emits (pollOnce poller resultPath pollPath last calculationId)
      (RoundSpec poller calculationId) := by
  rw [pollOnce]
  apply (emits_pollStatusIfGiven poller pollPath last).bind
  · rintro new e (h | ⟨_, next, hr⟩)
    · exact h.round
    · cases hr
  · intro new next h
    have hgiven : StatusGiven poller new := by
      rcases h with h | ⟨rfl, _⟩
      · exact h.given
      · exact ⟨by simp, by simp [requests], by simp [requests], by simp⟩
    apply (emits_getResult poller resultPath).bind
    · intro later e hresult
      apply RoundSpec.of_result hgiven hresult.request
      · intro payload next hr
        cases hr
      · intro e' he
        rw [hresult.pending e' he]
        simp
    · rintro later ⟨code, payload⟩ hresult
      dsimp only
      by_cases hcode : code = 200
      · rw [if_neg (not_not.2 hcode)]
        have hnotPending : ∀ e ∈ later, ¬PendingResult e := by
          intro e he hpending
          obtain ⟨code', payload', hr, hne⟩ := (hresult.pending e he).1 hpending
          cases hr
          exact hne hcode
        apply (emits_ofExcept (P := fun later' r => later' = [] ∧
          r = requiredAsyncResult payload calculationId poller.operations) ⟨rfl, rfl⟩).bind
        · rintro _ e ⟨rfl, _⟩
          rw [List.append_nil]
          apply RoundSpec.of_result hgiven hresult.request
          · intro payload next hr
            cases hr
          · intro e' he
            simp [hnotPending e' he]
        · rintro _ payload' ⟨rfl, hrequired⟩
          obtain ⟨rfl, hbound⟩ := requiredAsyncResult_eq_ok.1 hrequired.symm
          subst hcode
          apply emits_pure
          rw [List.append_nil, List.append_nil]
          apply RoundSpec.of_result hgiven hresult.request
          · intro payload next hr
            cases hr
            obtain ⟨e, rfl, _⟩ := hresult.request
            exact ⟨[], e, rfl, by simp, hresult.complete e (List.mem_singleton.2 rfl) _ rfl, hbound⟩
          · intro e' he
            simp [hnotPending e' he]
      · rw [if_pos hcode]
        apply emits_pure
        rw [List.append_nil]
        apply RoundSpec.of_result hgiven hresult.request
        · intro payload next hr
          cases hr
        · intro e' he
          rw [hresult.pending e' he]
          exact iff_of_true ⟨code, payload, rfl, hcode⟩ ⟨next, rfl⟩

/-- A run of rounds. -/
structure RoundsSpec (poller : Poller K) (calculationId : String) (rounds : Nat)
    (new : List (Exchange K)) (r : Except SourceException (List (String × PyValue K))) : Prop
    extends Polls poller rounds new where
  returned : ∀ payload, r = .ok payload → EndsWith poller calculationId new payload
  failed : ∀ e ∈ new, ∀ payload, ReportsFailure e payload →
    r = .error (asyncFailure payload poller.operations)
  exhausted : (∀ e ∈ new, Pending e) → requests .result new = rounds ∧
    ∃ last, r = .error (asyncPollTimeout last poller.operations)

/-- A round that decides leaves no more to do. -/
theorem RoundSpec.decided {new : List (Exchange K)}
    {r : Except SourceException (List (String × PyValue K))}
    (h : RoundSpec poller calculationId new r')
    (hreturned : ∀ payload, r = .ok payload → EndsWith poller calculationId new payload)
    (hfailed : ∀ e ∈ new, ∀ payload, ReportsFailure e payload →
      r = .error (asyncFailure payload poller.operations))
    (hpending : ∃ e ∈ new, ¬Pending e) (rounds : Nat) :
    RoundsSpec poller calculationId (rounds + 1) new r := by
  have hle : 1 ≤ rounds + 1 := Nat.le_add_left 1 rounds
  refine ⟨⟨h.status.trans hle, h.result.trans hle, h.headers⟩, hreturned, hfailed, ?_⟩
  intro hall
  obtain ⟨e, he, hnot⟩ := hpending
  exact absurd (hall e he) hnot

/-- A round that goes on leaves the others, with one less of the budget. -/
theorem RoundSpec.continue {before later : List (Exchange K)}
    {r : Except SourceException (List (String × PyValue K))}
    (h : RoundSpec poller calculationId before (.ok (none, next)))
    (hlater : RoundsSpec poller calculationId rounds later r) :
    RoundsSpec poller calculationId (rounds + 1) (before ++ later) r := by
  obtain ⟨hpending, hcount⟩ := h.continued next rfl
  have hstatus := h.status
  have hstatus' := hlater.status
  have hresult' := hlater.result
  refine ⟨⟨?_, ?_, ?_⟩, ?_, ?_, ?_⟩
  · rw [requests_append]
    omega
  · rw [requests_append]
    omega
  · intro e he
    rcases List.mem_append.1 he with he | he
    · exact h.headers e he
    · exact hlater.headers e he
  · intro payload hr
    exact (hlater.returned payload hr).append hpending
  · intro e he payload hfailure
    rcases List.mem_append.1 he with he | he
    · exact absurd (hpending e he) hfailure.not_pending
    · exact hlater.failed e he payload hfailure
  · intro hall
    obtain ⟨hrest, htimeout⟩ := hlater.exhausted fun e he => hall e (List.mem_append_right _ he)
    refine ⟨?_, htimeout⟩
    rw [requests_append, hcount, hrest, Nat.add_comm]

/-- By induction on the rounds that are left. -/
theorem emits_pollRounds (poller : Poller K) (resultPath : String) (pollPath : Option String)
    (calculationId : String) (rounds : Nat) (last : String) :
    Emits (pollRounds poller resultPath pollPath calculationId rounds last)
      (RoundsSpec poller calculationId rounds) := by
  induction rounds generalizing last with
  | zero =>
    intro log
    refine ⟨[], (List.append_nil log).symm, ⟨⟨le_rfl, le_rfl, by simp⟩, ?_, by simp, ?_⟩⟩
    · intro payload hr
      cases hr
    · intro _
      exact ⟨rfl, last, rfl⟩
  | succ rounds ih =>
    rw [pollRounds]
    apply (emits_pollOnce poller resultPath pollPath last calculationId).bind
    · intro new error h
      apply h.decided
      · intro payload hr
        cases hr
      · intro e he payload hfailure
        rw [Except.error.inj (h.failed e he payload hfailure)]
      · exact h.raised error rfl
    · rintro new ⟨_ | payload, next⟩ h
      · exact (ih next).weaken fun later r hlater => h.continue hlater
      · apply emits_pure
        rw [List.append_nil]
        have hend := h.returned payload next rfl
        apply h.decided
        · intro payload' hr
          cases hr
          exact hend
        · intro e he payload' hfailure
          cases h.failed e he payload' hfailure
        · exact hend.not_pending

end Rounds

section Workflow

/-- The polls of an accepted execution: within the budget, under the headers of the poller, and
returning only what completed as the accepted calculation. -/
structure BoundedPolling (poller : Poller K) (acceptedPayload : List (String × PyValue K))
    (rounds : Nat) (new : List (Exchange K))
    (r : Except SourceException (List (String × PyValue K))) : Prop
    extends Polls poller rounds new where
  returned : ∀ payload, r = .ok payload → ∃ calculationId,
    getEntry acceptedPayload "calculation_id" = .str calculationId ∧
      EndsWith poller calculationId new payload
  failed : ∀ e ∈ new, ∀ payload, ReportsFailure e payload →
    r = .error (asyncFailure payload poller.operations)
  exhausted : (∃ paths, asyncAcceptedPaths acceptedPayload poller.operations = .ok paths) →
    (∃ id, acceptedCalculationId acceptedPayload poller.operations = .ok id) →
    (∀ e ∈ new, Pending e) → requests .result new = rounds ∧
      ∃ last, r = .error (asyncPollTimeout last poller.operations)

variable {poller : Poller K}

theorem getEntry_of_acceptedCalculationId {accepted : List (String × PyValue K)}
    (h : acceptedCalculationId accepted operations = .ok calculationId) :
    getEntry accepted "calculation_id" = .str calculationId := by
  rw [acceptedCalculationId] at h
  split at h
  · rename_i text htext
    split at h
    · cases h
      exact htext
    · cases h
  · cases h

/-- Nothing is sent for an accepted payload that is refused. -/
theorem boundedPolling_refused {accepted : List (String × PyValue K)} (rounds : Nat)
    (error : SourceException)
    (h : ¬((∃ paths, asyncAcceptedPaths accepted poller.operations = .ok paths) ∧
      ∃ id, acceptedCalculationId accepted poller.operations = .ok id)) :
    BoundedPolling poller accepted rounds [] (.error error) := by
  refine ⟨⟨Nat.zero_le _, Nat.zero_le _, by simp⟩, ?_, by simp, ?_⟩
  · intro payload hr
    cases hr
  · intro hpaths hid
    exact absurd ⟨hpaths, hid⟩ h

theorem emits_pollAsyncResult (poller : Poller K) (accepted : List (String × PyValue K))
    (asyncMaxPolls : Int) :
    Emits (pollAsyncResult poller accepted asyncMaxPolls)
      (BoundedPolling poller accepted asyncMaxPolls.toNat) := by
  rw [pollAsyncResult]
  apply (emits_ofExcept (P := fun new r => new = [] ∧
    r = asyncAcceptedPaths accepted poller.operations) ⟨rfl, rfl⟩).bind
  · rintro _ error ⟨rfl, herror⟩
    apply boundedPolling_refused
    rintro ⟨⟨paths, hpaths⟩, _⟩
    rw [hpaths] at herror
    cases herror
  · rintro _ paths ⟨rfl, hpaths⟩
    apply (emits_ofExcept (P := fun new r => new = [] ∧
      r = acceptedCalculationId accepted poller.operations) ⟨rfl, rfl⟩).bind
    · rintro _ error ⟨rfl, herror⟩
      apply boundedPolling_refused
      rintro ⟨_, id, hid⟩
      rw [hid] at herror
      cases herror
    · rintro _ id ⟨rfl, hid⟩
      apply (emits_pollRounds poller paths.1 paths.2 id asyncMaxPolls.toNat "pending").weaken
      intro new r h
      refine ⟨h.toPolls, ?_, h.failed, fun _ _ => h.exhausted⟩
      intro payload hr
      exact ⟨id, getEntry_of_acceptedCalculationId hid.symm, h.returned payload hr⟩

/-- The submit comes first; what follows it are the polls of what it accepted. -/
structure SubmittedPolling (poller : Poller K) (rounds : Nat) (new : List (Exchange K))
    (r : Except SourceException (List (String × PyValue K))) : Prop where
  submitted : ∃ submit rest, new = submit :: rest ∧ submit.1.purpose = .submit ∧
    (∀ e ∈ rest, e.1.headers = submit.1.headers) ∧
    (rest ≠ [] → ∃ accepted, submit.2 = .response ⟨202, .ok (.dict accepted)⟩ ∧
      BoundedPolling poller accepted rounds rest r)

theorem readSubmit_eq_ok {response : HttpResponse K} :
    readSubmit operations response = .ok (code, payload) ↔
      response.statusCode = code ∧ response.json = .ok (.dict payload) := by
  rw [readSubmit, bind_eq_ok]
  simp only [parseDictPayload_eq_ok]
  constructor
  · rintro ⟨payload', hjson, h⟩
    cases h
    exact ⟨rfl, hjson⟩
  · rintro ⟨rfl, hjson⟩
    exact ⟨payload, hjson, rfl⟩

theorem emits_executeAsyncWorkflow (poller : Poller K)
    (requestPayload : List (String × PyValue K)) (asyncMaxPolls : Int) :
    Emits (executeAsyncWorkflow poller requestPayload asyncMaxPolls)
      (SubmittedPolling poller asyncMaxPolls.toNat) := by
  rw [executeAsyncWorkflow]
  apply (emits_execute _ _ _ _ _).bind
  · rintro new error ⟨outcome, rfl, _⟩
    exact ⟨_, [], rfl, rfl, by simp, fun h => absurd rfl h⟩
  · rintro new ⟨code, payload⟩ ⟨outcome, rfl, hanswer⟩
    obtain ⟨⟨statusCode, json⟩, hresponse, hread⟩ := bind_eq_ok.1 hanswer.symm
    obtain ⟨rfl, _⟩ := successfulResponse_eq_ok.1 hresponse
    obtain ⟨rfl, rfl⟩ := readSubmit_eq_ok.1 hread
    dsimp only
    split
    · rename_i hcode
      apply (emits_pollAsyncResult poller payload asyncMaxPolls).weaken
      intro rest r h
      refine ⟨_, rest, rfl, rfl, h.headers, fun _ => ⟨payload, ?_, h⟩⟩
      rw [hcode]
    · apply emits_pure
      exact ⟨_, [], rfl, rfl, by simp, fun h => absurd rfl h⟩

end Workflow

/-- Whatever the upstream answers, the polls stay within the budget and return only a complete
result of the accepted calculation, and they carry the headers of the submit. -/
theorem async_polling_bounded (poller : Poller K) (asyncMaxPolls : Int) :
    (∀ acceptedPayload, Emits (pollAsyncResult poller acceptedPayload asyncMaxPolls)
      (BoundedPolling poller acceptedPayload asyncMaxPolls.toNat)) ∧
    ∀ requestPayload, Emits (executeAsyncWorkflow poller requestPayload asyncMaxPolls)
      (SubmittedPolling poller asyncMaxPolls.toNat) := by
  constructor
  · intro acceptedPayload
    exact emits_pollAsyncResult poller acceptedPayload asyncMaxPolls
  · intro requestPayload
    exact emits_executeAsyncWorkflow poller requestPayload asyncMaxPolls

end LotusRisk
