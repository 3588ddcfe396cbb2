import LotusRisk.Attribution.GroupEvidence
import LotusRisk.Lib.TokenChain

/-! The position rows of the core service, fetched page by page. -/

namespace LotusRisk
set_option autoImplicit true

open TokenChain

variable {K : Type}

def positionTimeseriesPageSize : Nat := 5000
def positionTimeseriesMaxPages : Nat := 25
def positionTimeseriesMaxRows : Nat := 100000

def positionTimeseriesDimensions (groupingDimensions : List GroupingDimension) : List String :=
  (if .sector ∈ groupingDimensions then ["sector"] else []) ++
    (if .assetClass ∈ groupingDimensions then ["asset_class"] else [])

/-- A text, or `None`. -/
def textOrNone : Option String → PyValue K
  | none => .none
  | some text => .str text

def positionTimeseriesPayload (asOfDate startDate : Date) (reportingCurrency : Option String)
    (dimensions : List String) (pageToken : Option String) : List (String × PyValue K) :=
  [("as_of_date", .str asOfDate.isoformat),
    ("window", .dict [("start_date", .str startDate.isoformat),
      ("end_date", .str asOfDate.isoformat)]),
    ("frequency", .str "daily"),
    ("dimensions", .list (dimensions.map .str)),
    ("consumer_system", .str "lotus-risk"),
    ("page", .dict [("page_size", .int positionTimeseriesPageSize),
      ("page_token", textOrNone pageToken)])] ++
  match reportingCurrency with
  | none => []
  | some currency =>
    if currency = "" then [] else [("reporting_currency", .str currency)]

section Pages

variable (portfolioId : String)

def positionTimeseriesOperation : String :=
  s!"/integration/portfolios/{portfolioId}/analytics/position-timeseries"

def invalidPositionTimeseriesPagination (reason : String) (pageCount rowCount : Nat) :
    SourceException :=
  .upstream (invalidUpstreamPayload "lotus-core" (positionTimeseriesOperation portfolioId)
    "lotus-core position-timeseries unsafe pagination"
    [("reason", reason), ("page_count", toString pageCount), ("row_count", toString rowCount),
      ("max_pages", toString positionTimeseriesMaxPages),
      ("max_rows", toString positionTimeseriesMaxRows)])

/-- The rows that are objects. -/
def objectRows : List (PyValue K) → List (List (String × PyValue K)) :=
  List.filterMap fun row =>
    match row with
    | .dict entries => some entries
    | _ => none

def extractPositionRowsBatch (response : List (String × PyValue K)) :
    Except SourceException (List (List (String × PyValue K))) :=
  match getEntry response "rows" with
  | .list batch => .ok (objectRows batch)
  | _ => .error (.upstream (invalidUpstreamPayload "lotus-core"
      (positionTimeseriesOperation portfolioId)
      "lotus-core position-timeseries payload missing 'rows' list" []))

/-- The entry that names the next page; `None` where the response has none. -/
def nextTokenEntry (response : List (String × PyValue K)) : PyValue K :=
  match getEntry response "page" with
  | .dict page => getEntry page "next_page_token"
  | _ => .none

def nextPositionPageToken (response : List (String × PyValue K)) : Option String :=
  match nextTokenEntry response with
  | .str token => if token = "" then none else some token
  | _ => none

/-- The rows gathered, with those of one more response. -/
def extendPositionRows (pageCount : Nat) (rows : List (List (String × PyValue K)))
    (response : List (String × PyValue K)) :
    Except SourceException (List (List (String × PyValue K))) := do
  let batch ← extractPositionRowsBatch portfolioId response
  if positionTimeseriesMaxRows < (rows ++ batch).length then
    .error (invalidPositionTimeseriesPagination portfolioId "max_rows_exceeded" pageCount
      (rows ++ batch).length)
  else .ok (rows ++ batch)

def positionTimeseriesReader : Reader (List (String × PyValue K))
    (List (List (String × PyValue K))) String SourceException where
  next := nextPositionPageToken
  keep := extendPositionRows portfolioId
  repeated pageCount rows :=
    invalidPositionTimeseriesPagination portfolioId "repeated_page_token" pageCount rows.length
  exhausted pageCount rows :=
    invalidPositionTimeseriesPagination portfolioId "max_pages_exceeded" pageCount rows.length
  maxPages := positionTimeseriesMaxPages

end Pages

/-- What a position request asks for; the rest of it is the same on every page. -/
structure PositionTimeseriesRequest where
  portfolioId : String
  asOfDate : Date
  startDate : Date
  reportingCurrency : Option String
  groupingDimensions : List GroupingDimension

/-- The service answers a request in view of the requests before it, or raises. -/
abbrev Answers (K : Type) :=
  List (List (String × PyValue K)) → Except SourceException (List (String × PyValue K))

def PositionTimeseriesRequest.payload (request : PositionTimeseriesRequest) :
    Option String → List (String × PyValue K) :=
  positionTimeseriesPayload request.asOfDate request.startDate request.reportingCurrency
    (positionTimeseriesDimensions request.groupingDimensions)

def fetchPositionTimeseriesRows (coreClient : Answers K) (request : PositionTimeseriesRequest) :
    Fetch (List (List (String × PyValue K))) String SourceException :=
  readPages (positionTimeseriesReader request.portfolioId)
    (fun tokens => coreClient (tokens.map request.payload)) []

section Lossless

/-- The object rows of a response that lists rows. -/
def positionRows (response : List (String × PyValue K)) : List (List (String × PyValue K)) :=
  match getEntry response "rows" with
  | .list batch => objectRows batch
  | _ => []

def ListsRows (response : List (String × PyValue K)) : Prop :=
  ∃ batch, getEntry response "rows" = .list batch

theorem extractPositionRowsBatch_eq_ok {response : List (String × PyValue K)} :
    extractPositionRowsBatch portfolioId response = .ok batch ↔
      ListsRows response ∧ batch = positionRows response := by
  rw [extractPositionRowsBatch, ListsRows, positionRows]
  cases getEntry response "rows" with
  | list rows =>
    constructor
    · intro h
      cases h
      exact ⟨⟨rows, rfl⟩, rfl⟩
    · rintro ⟨-, rfl⟩
      rfl
  | _ =>
    apply iff_of_false
    · nofun
    · rintro ⟨⟨rows, h⟩, -⟩
      cases h

theorem extendPositionRows_eq_ok {response : List (String × PyValue K)} :
    extendPositionRows portfolioId n rows response = .ok rows' ↔ ListsRows response ∧
      rows' = rows ++ positionRows response ∧ rows'.length ≤ positionTimeseriesMaxRows := by
  constructor
  · intro h
    obtain ⟨batch, hbatch, h⟩ := bind_eq_ok.1 h
    obtain ⟨hlists, rfl⟩ := extractPositionRowsBatch_eq_ok.1 hbatch
    split_ifs at h with hlength
    cases h
    exact ⟨hlists, rfl, not_lt.1 hlength⟩
  · rintro ⟨hlists, rfl, hlength⟩
    apply bind_eq_ok.2
    refine ⟨_, extractPositionRowsBatch_eq_ok.2 ⟨hlists, rfl⟩, ?_⟩
    rw [if_neg (not_lt.2 hlength)]

/-- The rows are those of the responses, which all list rows, within the limit. -/
structure GathersRows (responses : List (List (String × PyValue K)))
    (rows : List (List (String × PyValue K))) : Prop where
  listed : ∀ response ∈ responses, ListsRows response
  rows_eq : rows = responses.flatMap positionRows
  limit : rows.length ≤ positionTimeseriesMaxRows

theorem GathersRows.nil : GathersRows ([] : List (List (String × PyValue K))) [] where
  listed := nofun
  rows_eq := rfl
  limit := Nat.zero_le _

theorem gathersRows_append {response : List (String × PyValue K)}
    (h : GathersRows responses rows) :
    extendPositionRows portfolioId n rows response = .ok rows' ↔
      GathersRows (responses ++ [response]) rows' := by
  rw [extendPositionRows_eq_ok]
  constructor
  · rintro ⟨hlists, rfl, hlength⟩
    refine ⟨?_, ?_, hlength⟩
    · intro answer hanswer
      rcases List.mem_append.1 hanswer with hbefore | hlast
      · exact h.listed answer hbefore
      · rw [List.mem_singleton.1 hlast]
        exact hlists
    · rw [List.flatMap_append, ← h.rows_eq, List.flatMap_singleton]
  · intro hall
    refine ⟨hall.listed response (List.mem_append_right _ (List.mem_singleton_self _)), ?_,
      hall.limit⟩
    rw [hall.rows_eq, List.flatMap_append, ← h.rows_eq, List.flatMap_singleton]

theorem GathersRows.restrict {responses : List (List (String × PyValue K))}
    (h : GathersRows (responses ++ after) rows) : ∃ rows', GathersRows responses rows' := by
  refine ⟨responses.flatMap positionRows, ?_, rfl, ?_⟩
  · intro response hresponse
    exact h.listed response (List.mem_append_left _ hresponse)
  · apply le_trans _ h.limit
    rw [h.rows_eq, List.flatMap_append, List.length_append]
    exact Nat.le_add_right _ _

variable {coreClient : Answers K} {request : PositionTimeseriesRequest}

/-- The requests and the responses along a chain of distinct tokens within the budgets, up to a
response whose token is not followed. -/
structure PositionChain (coreClient : Answers K) (request : PositionTimeseriesRequest)
    (requests : List (Option String)) (responses : List (List (String × PyValue K)))
    (rows : List (List (String × PyValue K))) : Prop where
  chain : Chain (fun tokens => coreClient (tokens.map request.payload)) nextPositionPageToken []
    none requests responses
  distinct : requests.Nodup
  budget : requests.length ≤ positionTimeseriesMaxPages
  gathered : GathersRows responses rows

theorem fetch_position_rows_eq_ok :
    (fetchPositionTimeseriesRows coreClient request).result = .ok rows ↔
      ∃ requests responses, PositionChain coreClient request requests responses rows := by
  rw [fetchPositionTimeseriesRows, readPages_eq_ok (show 0 < positionTimeseriesMaxPages by decide)]
  have hkept : ∀ responses, (positionTimeseriesReader request.portfolioId).keepAll 0 []
      responses = .ok rows ↔ GathersRows responses rows := by
    intro responses
    apply Reader.keepAll_eq_ok GathersRows _ _ _ GathersRows.nil
    · intro before n kept response kept' hbefore
      exact gathersRows_append hbefore
    · intro before kept kept' h h'
      rw [h.rows_eq, h'.rows_eq]
    · intro before after kept h
      exact h.restrict
  constructor
  · rintro ⟨requests, responses, hchain, hdistinct, hbudget, hrows⟩
    exact ⟨requests, responses, hchain, hdistinct, hbudget, (hkept responses).1 hrows⟩
  · rintro ⟨requests, responses, hchain, hdistinct, hbudget, hrows⟩
    exact ⟨requests, responses, hchain, hdistinct, hbudget, (hkept responses).2 hrows⟩

/-- The token is null, absent or empty. -/
def EndsChain (response : List (String × PyValue K)) : Prop :=
  nextTokenEntry response = .none ∨ nextTokenEntry response = .str ""

/-- The token is neither null nor a text. -/
def MalformedToken (response : List (String × PyValue K)) : Prop :=
  nextTokenEntry response ≠ .none ∧ ∀ token, nextTokenEntry response ≠ .str token

theorem EndsChain.not_malformed {response : List (String × PyValue K)} (h : EndsChain response) :
    ¬ MalformedToken response := by
  intro hmalformed
  rcases h with hnone | hempty
  · exact hmalformed.1 hnone
  · exact hmalformed.2 "" hempty

/-- No token is followed exactly where there is none, or one that is no token. -/
theorem nextPositionPageToken_eq_none {response : List (String × PyValue K)} :
    nextPositionPageToken response = none ↔ EndsChain response ∨ MalformedToken response := by
  rw [nextPositionPageToken, EndsChain, MalformedToken]
  cases nextTokenEntry response with
  | none => exact iff_of_true rfl (.inl (.inl rfl))
  | str token =>
    by_cases hempty : token = ""
    · rw [hempty]
      exact iff_of_true rfl (.inl (.inr rfl))
    · simp only [if_neg hempty]
      apply iff_of_false nofun
      intro hor
      rcases hor with (hnone | htext) | hmalformed
      · cases hnone
      · cases htext
        exact hempty rfl
      · exact hmalformed.2 token rfl
  | _ => exact iff_of_true rfl (.inr ⟨nofun, nofun⟩)

end Lossless

end LotusRisk
