import Mathlib.Data.Prod.Lex
import Mathlib.Data.String.Basic
import LotusRisk.Lib.Raising
import LotusRisk.Attribution.ActiveGroupEvidence
import LotusRisk.Attribution.PositionTimeseries

/-! The exposure history of the benchmark, fetched page by page from the performance service. -/

namespace LotusRisk
set_option autoImplicit true

open TokenChain

variable {K : Type}

def benchmarkExposureContextOperation : String := "/integration/benchmarks/exposure-context"
def benchmarkExposurePageSize : Nat := 1000
def benchmarkExposureMaxPages : Nat := 25
def benchmarkExposureMaxRows : Nat := 10000

structure BenchmarkExposureHistoryRequest where
  portfolioId : String
  asOfDate : Date
  startDate : Date
  reportingCurrency : Option String
  groupingDimensions : List GroupingDimension

def invalidBenchmarkExposureContext (message : String) : SourceException :=
  .upstream (invalidUpstreamPayload "lotus-performance" benchmarkExposureContextOperation
    s!"lotus-performance benchmark exposure context {message}" [])

def invalidBenchmarkExposurePagination (reason : String) (pageCount rowCount : Nat) :
    SourceException :=
  .upstream (invalidUpstreamPayload "lotus-performance" benchmarkExposureContextOperation
    "lotus-performance benchmark exposure context unsafe pagination"
    [("reason", reason), ("page_count", toString pageCount), ("row_count", toString rowCount),
      ("max_pages", toString benchmarkExposureMaxPages),
      ("max_rows", toString benchmarkExposureMaxRows)])

section Lineage

/-- `if condition: raise _invalid_benchmark_exposure_context(message)`. -/
def refuseIf (condition : Bool) (message : String) : Except SourceException Unit :=
  if condition then .error (invalidBenchmarkExposureContext message) else .ok ()

def isEmptyList : PyValue K → Bool
  | .list items => items.isEmpty
  | _ => false

def isFalse : PyValue K → Bool
  | .bool b => !b
  | _ => false

def isZero : PyValue K → Bool
  | .int i => i = 0
  | _ => false

def completeSourceQualityHasNoOmissions (sourceQuality : List (String × PyValue K)) : Bool :=
  isZero (getEntry sourceQuality "omitted_component_count") &&
  isZero (getEntry sourceQuality "omitted_point_count") &&
  isEmptyList (getEntry sourceQuality "reason_codes") &&
  isEmptyList (getEntry sourceQuality "omissions") &&
  isFalse (getEntry sourceQuality "omissions_truncated")

def requireCompleteExposureSourceQuality (metadata : List (String × PyValue K)) :
    Except SourceException Unit :=
  match getEntry metadata "exposure_source_quality" with
  | .dict sourceQuality =>
    if declares sourceQuality "status" "incomplete" then
      .error (.upstream (missingUpstreamData "lotus-performance" benchmarkExposureContextOperation
        "lotus-performance benchmark exposure context reports incomplete economic source evidence"
        []))
    else do
      refuseIf (!declares sourceQuality "status" "complete")
        "has unknown exposure_source_quality status"
      refuseIf (!completeSourceQualityHasNoOmissions sourceQuality)
        "has contradictory complete exposure_source_quality omissions"
  | _ => .error (invalidBenchmarkExposureContext "payload missing exposure_source_quality object")

/-- `isUuid` tells the texts that `UUID(text)` reads. -/
def requireCalculationIdentity (isUuid : String → Bool)
    (response metadata : List (String × PyValue K)) : Except SourceException Unit :=
  match getEntry response "calculation_id" with
  | .str calculationId => do
    refuseIf (!declares metadata "calculation_run_id" calculationId)
      "has conflicting calculation lineage"
    refuseIf (!isUuid calculationId) "has invalid calculation lineage"
  | _ => .error (invalidBenchmarkExposureContext "has conflicting calculation lineage")

def requireContextValue (payload : List (String × PyValue K))
    (fieldName expectedValue message : String) : Except SourceException Unit :=
  refuseIf (!declares payload fieldName expectedValue) s!"missing {message}"

def metadataObject (response : List (String × PyValue K)) :
    Except SourceException (List (String × PyValue K)) :=
  match getEntry response "metadata" with
  | .dict metadata => .ok metadata
  | _ => .error (invalidBenchmarkExposureContext "payload missing metadata object")

def validateLineage (isUuid : String → Bool) (response : List (String × PyValue K)) :
    Except SourceException Unit := do
  requireContextValue response "source_service" "lotus-performance"
    "source_service=lotus-performance"
  requireContextValue response "contract_version" "v1" "contract_version=v1"
  let metadata ← metadataObject response
  requireContextValue metadata "source_system" "lotus-core" "lotus-core lineage"
  requireContextValue metadata "served_by" "lotus-performance" "served_by=lotus-performance"
  requireContextValue metadata "contract_version" "v1" "metadata.contract_version=v1"
  requireCompleteExposureSourceQuality metadata
  requireCalculationIdentity isUuid response metadata

end Lineage

section Scope

/-- `response.get("window") == {"start_date": ..., "end_date": ...}`. -/
def isWindowOf (value : PyValue K) (startDate endDate : Date) : Bool :=
  match value with
  | .dict window => window.length = 2 && declares window "start_date" startDate.isoformat &&
      declares window "end_date" endDate.isoformat
  | _ => false

/-- `response.get(field) == text`, where the text may be `None`. -/
def declaresOption (entries : List (String × PyValue K)) (field : String) : Option String → Bool
  | some text => declares entries field text
  | none =>
    match getEntry entries field with
    | .none => true
    | _ => false

def scopeChecks (response : List (String × PyValue K)) (request : BenchmarkExposureHistoryRequest) :
    List (String × Bool) :=
  [("portfolio_id", declares response "portfolio_id" request.portfolioId),
    ("as_of_date", declares response "as_of_date" request.asOfDate.isoformat),
    ("window", isWindowOf (getEntry response "window") request.startDate request.asOfDate),
    ("frequency", declares response "frequency" "DAILY"),
    ("reporting_currency", declaresOption response "reporting_currency" request.reportingCurrency)]

def validateResponseScope (response : List (String × PyValue K))
    (request : BenchmarkExposureHistoryRequest) : Except SourceException Unit :=
  (scopeChecks response request).forM fun check =>
    refuseIf (!check.2) s!"has {check.1} inconsistent with the admitted request"

def benchmarkExposurePayload (request : BenchmarkExposureHistoryRequest)
    (pageToken : Option String) : List (String × PyValue K) :=
  [("portfolio_id", .str request.portfolioId),
    ("as_of_date", .str request.asOfDate.isoformat),
    ("window", .dict [("start_date", .str request.startDate.isoformat),
      ("end_date", .str request.asOfDate.isoformat)]),
    ("frequency", .str "DAILY"),
    ("grouping_dimensions", .list (request.groupingDimensions.map fun d => .str d.text)),
    ("page", .dict [("page_size", .int benchmarkExposurePageSize),
      ("page_token", textOrNone pageToken)])] ++
  match request.reportingCurrency with
  | none => []
  | some currency =>
    if currency = "" then [] else [("reporting_currency", .str currency)]

end Scope

section Rows

def groupingDimensionOf (text : String) : Option GroupingDimension :=
  [.position, .issuer, .sector, .assetClass, .custom].find? (fun d => d.text = text)

variable [Field K] (texts : PyTexts K) (float : K → PyNumber K)

/-- `_as_decimal`. -/
def exposureWeight (value : PyValue K) : Except SourceException K :=
  match texts.toDecimal value with
  | none => .error (.upstream (invalidUpstreamPayload "lotus-performance"
      benchmarkExposureContextOperation
      s!"Invalid benchmark exposure weight from lotus-performance: {texts.pyStr value}" []))
  | some .nonFinite => .error (invalidBenchmarkExposureContext "has non-finite exposure weight")
  | some (.finite weight) => .ok weight

/-- `float` is the conversion of a finite `Decimal`. -/
def parseExposureDateWeight (valuationDate : String) (weight : PyValue K) (index : Nat) :
    Except SourceException (Date × K) :=
  let invalidRow := invalidBenchmarkExposureContext s!"has invalid exposure row at index {index}"
  match texts.fromisoformat valuationDate with
  | none => .error invalidRow
  | some observationDate =>
    if observationDate.isoformat ≠ valuationDate then .error invalidRow
    else do
      let decimalWeight ← exposureWeight texts weight
      match float decimalWeight with
      | .finite finiteWeight => .ok (observationDate, finiteWeight)
      | .nonFinite => .error invalidRow

def exposureLabel (value : PyValue K) (index : Nat) : Except SourceException (Option String) :=
  match value with
  | .none => .ok none
  | .str label => .ok (some label)
  | _ => .error (invalidBenchmarkExposureContext s!"has invalid exposure label at index {index}")

def rowToExposurePoint (row : PyValue K) (index : Nat) : Except SourceException (ExposurePoint K) :=
  match row with
  | .dict entries =>
    match getEntry entries "valuation_date", getEntry entries "grouping_dimension",
      getEntry entries "group_key", getEntry entries "weight" with
    | .str _, .str _, .str _, .none =>
      .error (invalidBenchmarkExposureContext s!"has incomplete exposure row at index {index}")
    | .str valuationDate, .str groupingDimension, .str groupKey, weight =>
      if groupKey = "" then
        .error (invalidBenchmarkExposureContext s!"has incomplete exposure row at index {index}")
      else do
        let groupLabel ← exposureLabel (getEntry entries "group_label") index
        let (date, finiteWeight) ← parseExposureDateWeight texts float valuationDate weight index
        match groupingDimensionOf groupingDimension with
        | none =>
          .error (invalidBenchmarkExposureContext s!"has invalid exposure row at index {index}")
        | some dimension => .ok ⟨date, dimension, groupKey, groupLabel, finiteWeight⟩
    | _, _, _, _ =>
      .error (invalidBenchmarkExposureContext s!"has incomplete exposure row at index {index}")
  | _ => .error (invalidBenchmarkExposureContext s!"has invalid exposure row at index {index}")

/-- The key that orders points; a tuple compares by its components in turn. -/
def ExposurePoint.sortKey (point : ExposurePoint K) : Date ×ₗ String ×ₗ String :=
  toLex (point.date, toLex (point.groupingDimension.text, point.groupKey))

/-- `points.sort(key=...)`. -/
def sortExposurePoints (points : List (ExposurePoint K)) : List (ExposurePoint K) :=
  points.insertionSort (fun p q => p.sortKey ≤ q.sortKey)

def rowsToExposurePoints (rows : List (PyValue K)) :
    Except SourceException (List (ExposurePoint K)) := do
  let exposurePoints ← rows.zipIdx.mapM fun row => rowToExposurePoint texts float row.1 row.2
  .ok (sortExposurePoints exposurePoints)

end Rows

section Pages

structure BenchmarkPage (K : Type) where
  exposurePoints : List (ExposurePoint K)
  nextPageToken : Option String
  benchmarkIdentity : String × String

def nextBenchmarkPageToken (response : List (String × PyValue K)) :
    Except SourceException (Option String) :=
  match getEntry response "page" with
  | .dict page =>
    match page.lookup "next_page_token" with
    | none => .error (invalidBenchmarkExposureContext "has missing pagination metadata")
    | some .none => .ok none
    | some (.str token) =>
      if token = "" then .error (invalidBenchmarkExposureContext "has invalid next_page_token")
      else .ok (some token)
    | some _ => .error (invalidBenchmarkExposureContext "has invalid next_page_token")
  | _ => .error (invalidBenchmarkExposureContext "has missing pagination metadata")

def benchmarkIdentityOf (response : List (String × PyValue K)) :
    Except SourceException (String × String) :=
  match getEntry response "benchmark_id", getEntry response "benchmark_version" with
  | .str benchmarkId, .str benchmarkVersion =>
    if pyStrip benchmarkId = "" ∨ pyStrip benchmarkVersion = "" then
      .error (invalidBenchmarkExposureContext "has missing benchmark identity")
    else .ok (benchmarkId, benchmarkVersion)
  | _, _ => .error (invalidBenchmarkExposureContext "has missing benchmark identity")

def benchmarkRows (response : List (String × PyValue K)) :
    Except SourceException (List (PyValue K)) :=
  match getEntry response "rows" with
  | .list rows => .ok rows
  | _ => .error (.upstream (invalidUpstreamPayload "lotus-performance"
      benchmarkExposureContextOperation
      "lotus-performance benchmark exposure context payload missing 'rows' list" []))

def outsideRequestedScope (request : BenchmarkExposureHistoryRequest) (point : ExposurePoint K) :
    Bool :=
  decide (point.date < request.startDate) || decide (request.asOfDate < point.date) ||
    decide (point.groupingDimension ∉ request.groupingDimensions)

variable [Field K] (texts : PyTexts K) (float : K → PyNumber K) (isUuid : String → Bool)

/-- What `_fetch_benchmark_exposure_page` reads of a response. -/
def readBenchmarkExposurePage (request : BenchmarkExposureHistoryRequest)
    (response : List (String × PyValue K)) : Except SourceException (BenchmarkPage K) := do
  validateLineage isUuid response
  validateResponseScope response request
  let rows ← benchmarkRows response
  let nextPageToken ← nextBenchmarkPageToken response
  let benchmarkIdentity ← benchmarkIdentityOf response
  let exposurePoints ← rowsToExposurePoints texts float rows
  refuseIf (exposurePoints.any (outsideRequestedScope request))
    "has exposure row outside requested scope"
  .ok ⟨exposurePoints, nextPageToken, benchmarkIdentity⟩

def fetchBenchmarkExposurePage (performanceClient : Answers K)
    (request : BenchmarkExposureHistoryRequest) (tokens : List (Option String)) :
    Except SourceException (BenchmarkPage K) := do
  let response ← performanceClient (tokens.map (benchmarkExposurePayload request))
  readBenchmarkExposurePage texts float isUuid request response

end Pages

section Loop

/-- The identity of an exposure row. -/
def ExposurePoint.rowKey (point : ExposurePoint K) : Date × GroupingDimension × String :=
  (point.date, point.groupingDimension, point.groupKey)

/-- What the loop keeps of the pages. -/
structure BenchmarkExposures (K : Type) where
  benchmarkExposures : List (ExposurePoint K)
  seenRowKeys : List (Date × GroupingDimension × String)
  expectedBenchmarkIdentity : Option (String × String)

def seeRow (seenRowKeys : List (Date × GroupingDimension × String)) (point : ExposurePoint K) :
    Except SourceException (List (Date × GroupingDimension × String)) :=
  if point.rowKey ∈ seenRowKeys then
    .error (invalidBenchmarkExposureContext "has duplicate exposure row across pages")
  else .ok (seenRowKeys ++ [point.rowKey])

/-- The keys seen after the page. -/
def validatePageIdentityAndRows (points : List (ExposurePoint K)) (identity : String × String)
    (expectedIdentity : Option (String × String))
    (seenRowKeys : List (Date × GroupingDimension × String)) :
    Except SourceException (List (Date × GroupingDimension × String)) := do
  refuseIf (expectedIdentity.any (fun expected => identity ≠ expected))
    "has changed benchmark identity across pages"
  points.foldlM seeRow seenRowKeys

/-- The exposures gathered, with those of one more page. -/
def extendBenchmarkExposures (pageCount : Nat) (kept : BenchmarkExposures K)
    (page : BenchmarkPage K) : Except SourceException (BenchmarkExposures K) := do
  let seenRowKeys ← validatePageIdentityAndRows page.exposurePoints page.benchmarkIdentity
    kept.expectedBenchmarkIdentity kept.seenRowKeys
  let benchmarkExposures := kept.benchmarkExposures ++ page.exposurePoints
  if benchmarkExposureMaxRows < benchmarkExposures.length then
    .error (invalidBenchmarkExposurePagination "max_rows_exceeded" pageCount
      benchmarkExposures.length)
  else .ok ⟨benchmarkExposures, seenRowKeys, some page.benchmarkIdentity⟩

def benchmarkExposureReader :
    Reader (BenchmarkPage K) (BenchmarkExposures K) String SourceException where
  next := BenchmarkPage.nextPageToken
  keep := extendBenchmarkExposures
  repeated pageCount kept := invalidBenchmarkExposurePagination "repeated_page_token" pageCount
    kept.benchmarkExposures.length
  exhausted pageCount kept := invalidBenchmarkExposurePagination "max_pages_exceeded" pageCount
    kept.benchmarkExposures.length
  maxPages := benchmarkExposureMaxPages

/-- The points and the identity, where the chain had any points. -/
def finishBenchmarkExposures (kept : BenchmarkExposures K) :
    Except SourceException (List (ExposurePoint K) × (String × String)) :=
  if kept.benchmarkExposures.isEmpty then
    .error (.upstream (missingUpstreamData "lotus-performance" benchmarkExposureContextOperation
      ("unable to build benchmark exposure history from lotus-performance " ++
        "benchmark exposure context") []))
  else
    match kept.expectedBenchmarkIdentity with
    | none => .error (invalidBenchmarkExposureContext "missing benchmark identity")
    | some identity => .ok (kept.benchmarkExposures, identity)

def validateSupportedGroupingDimensions (groupingDimensions : List GroupingDimension) :
    Except SourceException Unit :=
  if .custom ∈ groupingDimensions then
    .error (.python (.valueError ("stateful ACTIVE_RISK/TRACKING_ERROR attribution cannot source " ++
      "benchmark exposure history for grouping_dimensions=CUSTOM")))
  else .ok ()

variable [Field K] (texts : PyTexts K) (float : K → PyNumber K) (isUuid : String → Bool)

def fetchBenchmarkExposureHistoryWithIdentity (performanceClient : Answers K)
    (request : BenchmarkExposureHistoryRequest) :
    Fetch (List (ExposurePoint K) × (String × String)) String SourceException :=
  match validateSupportedGroupingDimensions request.groupingDimensions with
  | .error e => ⟨[], .error e⟩
  | .ok () =>
    let pages := readPages benchmarkExposureReader
      (fetchBenchmarkExposurePage texts float isUuid performanceClient request) ⟨[], [], none⟩
    ⟨pages.requests, pages.result >>= finishBenchmarkExposures⟩

end Loop

section Lossless

theorem foldlM_seeRow {points : List (ExposurePoint K)} (hseen : seen.Nodup) :
    points.foldlM seeRow seen = .ok seen' ↔
      seen' = seen ++ points.map ExposurePoint.rowKey ∧ seen'.Nodup := by
  induction points generalizing seen with
  | nil =>
    rw [List.foldlM_nil, List.map_nil, List.append_nil]
    constructor
    · intro h
      cases h
      exact ⟨rfl, hseen⟩
    · rintro ⟨rfl, -⟩
      rfl
  | cons point points ih =>
    rw [Raising.foldlM_cons_eq_ok, List.map_cons, List.append_cons]
    constructor
    · rintro ⟨keys, hkeys, hrest⟩
      rw [seeRow] at hkeys
      split_ifs at hkeys with hmem
      cases hkeys
      have hnodup : (seen ++ [point.rowKey]).Nodup := by
        rw [← List.concat_eq_append]
        exact hseen.concat hmem
      exact (ih hnodup).1 hrest
    · rintro ⟨rfl, hnodup⟩
      have hbefore := (List.nodup_append.1 hnodup).1
      have hmem : point.rowKey ∉ seen := by
        intro hmem
        exact (List.nodup_append.1 hbefore).2.2 _ hmem _ (List.mem_singleton_self _) rfl
      refine ⟨seen ++ [point.rowKey], ?_, (ih hbefore).2 ⟨rfl, hnodup⟩⟩
      rw [seeRow, if_neg hmem]

theorem refuseIf_eq_ok : refuseIf condition message = .ok u ↔ condition = false := by
  cases condition with
  | true => exact iff_of_false nofun nofun
  | false => exact iff_of_true rfl rfl

/-- The points are those of the pages, all of one identity, no row twice, within the limit. -/
structure GathersExposures (pages : List (BenchmarkPage K)) (kept : BenchmarkExposures K) :
    Prop where
  exposures_eq : kept.benchmarkExposures = pages.flatMap BenchmarkPage.exposurePoints
  keys_eq : kept.seenRowKeys = kept.benchmarkExposures.map ExposurePoint.rowKey
  identity_eq : kept.expectedBenchmarkIdentity = pages.head?.map BenchmarkPage.benchmarkIdentity
  same_identity : ∀ page ∈ pages, some page.benchmarkIdentity = kept.expectedBenchmarkIdentity
  distinct : kept.seenRowKeys.Nodup
  limit : kept.benchmarkExposures.length ≤ benchmarkExposureMaxRows

theorem GathersExposures.nil :
    GathersExposures ([] : List (BenchmarkPage K)) ⟨[], [], none⟩ where
  exposures_eq := rfl
  keys_eq := rfl
  identity_eq := rfl
  same_identity := nofun
  distinct := List.nodup_nil
  limit := Nat.zero_le _

/-- A page is kept when it has the identity of those before, and brings no row seen before. -/
theorem extendBenchmarkExposures_eq_ok {kept kept' : BenchmarkExposures K} {page : BenchmarkPage K}
    (hseen : kept.seenRowKeys.Nodup) : extendBenchmarkExposures n kept page = .ok kept' ↔
      (∀ expected, kept.expectedBenchmarkIdentity = some expected →
        page.benchmarkIdentity = expected) ∧
      kept' = ⟨kept.benchmarkExposures ++ page.exposurePoints,
        kept.seenRowKeys ++ page.exposurePoints.map ExposurePoint.rowKey,
        some page.benchmarkIdentity⟩ ∧
      kept'.seenRowKeys.Nodup ∧ kept'.benchmarkExposures.length ≤ benchmarkExposureMaxRows := by
  have hidentity : kept.expectedBenchmarkIdentity.any
      (fun expected => decide (page.benchmarkIdentity ≠ expected)) = false ↔
      ∀ expected, kept.expectedBenchmarkIdentity = some expected →
        page.benchmarkIdentity = expected := by
    cases kept.expectedBenchmarkIdentity with
    | none => exact iff_of_true rfl nofun
    | some expected => simp
  constructor
  · intro h
    obtain ⟨keys, hkeys, h⟩ := bind_eq_ok.1 h
    obtain ⟨u, hsame, hkeys⟩ := bind_eq_ok.1 hkeys
    obtain ⟨rfl, hnodup⟩ := (foldlM_seeRow hseen).1 hkeys
    simp only at h
    split_ifs at h with hlength
    cases h
    exact ⟨hidentity.1 (refuseIf_eq_ok.1 hsame), rfl, hnodup, not_lt.1 hlength⟩
  · rintro ⟨hsame, rfl, hnodup, hlength⟩
    apply bind_eq_ok.2
    refine ⟨_, bind_eq_ok.2 ⟨(), refuseIf_eq_ok.2 (hidentity.2 hsame),
      (foldlM_seeRow hseen).2 ⟨rfl, hnodup⟩⟩, ?_⟩
    exact if_neg (not_lt.2 hlength)

theorem gathersExposures_append {page : BenchmarkPage K} (h : GathersExposures pages kept) :
    extendBenchmarkExposures n kept page = .ok kept' ↔
      GathersExposures (pages ++ [page]) kept' := by
  rw [extendBenchmarkExposures_eq_ok h.distinct]
  constructor
  · rintro ⟨hsame, rfl, hnodup, hlength⟩
    have hhead : some page.benchmarkIdentity =
        (pages ++ [page]).head?.map BenchmarkPage.benchmarkIdentity := by
      cases pages with
      | nil => rfl
      | cons first rest =>
        rw [hsame _ h.identity_eq]
        rfl
    refine ⟨?_, ?_, hhead, ?_, hnodup, hlength⟩
    · rw [List.flatMap_append, ← h.exposures_eq, List.flatMap_singleton]
    · rw [List.map_append, ← h.keys_eq]
    · intro other hother
      rcases List.mem_append.1 hother with hbefore | hlast
      · have hexpected := h.same_identity other hbefore
        rw [hsame _ hexpected.symm]
      · rw [List.mem_singleton.1 hlast]
  · intro hall
    have hexposures : kept'.benchmarkExposures = kept.benchmarkExposures ++ page.exposurePoints := by
      rw [hall.exposures_eq, List.flatMap_append, ← h.exposures_eq, List.flatMap_singleton]
    have hkeys : kept'.seenRowKeys =
        kept.seenRowKeys ++ page.exposurePoints.map ExposurePoint.rowKey := by
      rw [hall.keys_eq, hexposures, List.map_append, ← h.keys_eq]
    have hlast := hall.same_identity page (List.mem_append_right _ (List.mem_singleton_self _))
    refine ⟨?_, ?_, hall.distinct, hall.limit⟩
    · intro expected hexpected
      rw [h.identity_eq] at hexpected
      cases pages with
      | nil => cases hexpected
      | cons first rest =>
        cases hexpected
        have hfirst := hall.same_identity first List.mem_cons_self
        exact Option.some.inj (hlast.trans hfirst.symm)
    · rw [← hexposures, ← hkeys, hlast]

theorem GathersExposures.unique (h : GathersExposures pages kept)
    (h' : GathersExposures pages kept') : kept = kept' := by
  have hexposures : kept.benchmarkExposures = kept'.benchmarkExposures := by
    rw [h.exposures_eq, h'.exposures_eq]
  have hkeys : kept.seenRowKeys = kept'.seenRowKeys := by
    rw [h.keys_eq, h'.keys_eq, hexposures]
  have hidentity : kept.expectedBenchmarkIdentity = kept'.expectedBenchmarkIdentity := by
    rw [h.identity_eq, h'.identity_eq]
  cases kept
  cases kept'
  cases hexposures
  cases hkeys
  cases hidentity
  rfl

theorem GathersExposures.restrict (h : GathersExposures (pages ++ after) kept) :
    ∃ kept', GathersExposures (K := K) pages kept' := by
  have hexposures : kept.benchmarkExposures = pages.flatMap BenchmarkPage.exposurePoints ++
      after.flatMap BenchmarkPage.exposurePoints := by
    rw [h.exposures_eq, List.flatMap_append]
  refine ⟨⟨pages.flatMap BenchmarkPage.exposurePoints,
    (pages.flatMap BenchmarkPage.exposurePoints).map ExposurePoint.rowKey,
    pages.head?.map BenchmarkPage.benchmarkIdentity⟩, rfl, rfl, rfl, ?_, ?_, ?_⟩
  · intro page hpage
    cases pages with
    | nil => cases hpage
    | cons first rest =>
      have hfirst := h.same_identity first List.mem_cons_self
      have hother := h.same_identity page (List.mem_append_left _ hpage)
      exact hother.trans hfirst.symm
  · have hnodup := h.distinct
    rw [h.keys_eq, hexposures, List.map_append] at hnodup
    exact (List.nodup_append.1 hnodup).1
  · apply le_trans _ h.limit
    rw [hexposures, List.length_append]
    exact Nat.le_add_right _ _

end Lossless

end LotusRisk
