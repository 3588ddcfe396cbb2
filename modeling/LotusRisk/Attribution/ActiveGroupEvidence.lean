import LotusRisk.Attribution.GroupEvidence
import LotusRisk.PythonDecimals

/-! Portfolio and benchmark group economics, admitted for active risk. -/

namespace LotusRisk
set_option autoImplicit true

open Relational

variable {K : Type}

def lotusPerformanceGroupReturnEvidenceOperation : String :=
  "/integration/attribution/group-return-evidence/v1"

def returnBasis : String := "SOURCE_POSITION_AND_BENCHMARK_COMPONENT_GROSS_TWR"
def valuationBasis : String := "SOURCE_REPORTED_BEGINNING_AND_ENDING_MARKET_VALUES"
def weightBasis : String := "SIGNED_BEGINNING_CAPITAL_AND_BENCHMARK_BOP_WEIGHT"

/-- Group evidence that breaks the contract of its producer. -/
def invalid (message : String) : SourceException :=
  .upstream (invalidUpstreamPayload "lotus-performance"
    lotusPerformanceGroupReturnEvidenceOperation s!"group-return evidence: {message}" [])

def missing (message : String) : SourceException :=
  .upstream (missingUpstreamData "lotus-performance"
    lotusPerformanceGroupReturnEvidenceOperation message [])

structure ExposurePoint (K : Type) where
  date : Date
  groupingDimension : GroupingDimension
  groupKey : String
  groupLabel : Option String
  weight : K

structure ActiveGroupObservation (K : Type) where
  observationDate : Date
  activeContribution : K
  activeWeight : K

structure ActiveGroupEvidence (K : Type) where
  observationsByGroup : Dict String (List (ActiveGroupObservation K))
  sourceCutId : String
  benchmarkId : String
  reportingCurrency : String

section Identities

def GroupingDimension.text : GroupingDimension → String
  | .position => "POSITION"
  | .issuer => "ISSUER"
  | .sector => "SECTOR"
  | .assetClass => "ASSET_CLASS"
  | .custom => "CUSTOM"

/-- `text.split()`. -/
def pySplit (text : String) : List String :=
  ((text.toList.splitOnP isPySpace).filter (fun word => !word.isEmpty)).map String.ofList

variable (casefold : String → String)

def sourceGroupIdentity (dimension : GroupingDimension) (label : String) : String :=
  dimension.text ++ ":" ++ "_".intercalate (pySplit (casefold label))

/-- One step of the binding of source labels to contributor identities. -/
def bindSourceLabel (dimension : GroupingDimension) (result : Dict String String)
    (point : ExposurePoint K) : Except SourceException (Dict String String) :=
  let unlabelled := invalid "active exposure group lacks a source classification label"
  match point.groupLabel with
  | none => .error unlabelled
  | some label =>
    if pyStrip label = "" then .error unlabelled
    else
      match result.get? (sourceGroupIdentity casefold dimension label) with
      | none => .ok (result.set (sourceGroupIdentity casefold dimension label) point.groupKey)
      | some existing =>
        if existing = point.groupKey then .ok result
        else .error (invalid "active exposure group source identity is ambiguous")

def activeGroupKeyBySourceId (exposureHistory benchmarkExposureHistory : List (ExposurePoint K))
    (dimension : GroupingDimension) (startDate endDate : Date) :
    Except SourceException (Dict String String) :=
  ((exposureHistory ++ benchmarkExposureHistory).filter (fun point =>
    decide (point.groupingDimension = dimension) &&
      (decide (startDate ≤ point.date) && decide (point.date ≤ endDate)))).foldlM
    (bindSourceLabel casefold dimension) Table.empty

end Identities

section Fields

variable (texts : PyTexts K)

/-- `_decimal`. -/
def decimalOf [IntCast K] (value : PyValue K) (field : String) : Except SourceException K :=
  match value with
  | .none | .bool _ => .error (invalid s!"missing or invalid {field}")
  | value =>
    match texts.toDecimal value with
    | some (.finite number) => .ok number
    | some .nonFinite => .error (invalid s!"non-finite {field}")
    | none => .error (invalid s!"invalid {field}")

/-- `_date`. -/
def dateOf (value : PyValue K) (field : String) : Except SourceException Date :=
  match value with
  | .str raw =>
    match texts.fromisoformat raw with
    | some date => .ok date
    | none => .error (invalid s!"invalid {field}")
  | _ => .error (invalid s!"invalid {field}")

/-- `_mapping`. -/
def mappingOf (value : PyValue K) (field : String) :
    Except SourceException (List (String × PyValue K)) :=
  match value with
  | .dict entries => .ok entries
  | _ => .error (invalid s!"missing {field} object")

/-- `_rows`. -/
def rowsOf (value : PyValue K) (field : String) : Except SourceException (List (PyValue K)) :=
  match value with
  | .list (first :: rest) => .ok (first :: rest)
  | _ => .error (invalid s!"missing {field} rows")

end Fields

section Scope

/-- The request that the evidence answers. -/
structure GroupEvidenceRequest where
  calculationId : String
  portfolioId : String
  asOfDate : String
  startDate : String
  endDate : String
  reportingCurrency : String

variable (texts : PyTexts K) (response : List (String × PyValue K))
  (request : GroupEvidenceRequest)

omit texts in
def isWindow : Bool :=
  match getEntry response "window" with
  | .dict window => window.length = 2 && declares window "start_date" request.startDate &&
      declares window "end_date" request.endDate
  | _ => false

omit texts in
/-- The fields that repeat the request or the contract, and whether they do. -/
def scopeFields (dimension : GroupingDimension) : List (String × Bool) :=
  [("contract_version", declares response "contract_version" "v1"),
    ("calculation_id", declares response "calculation_id" request.calculationId),
    ("portfolio_id", declares response "portfolio_id" request.portfolioId),
    ("as_of_date", declares response "as_of_date" request.asOfDate),
    ("window", isWindow response request),
    ("grouping_dimension", declares response "grouping_dimension" dimension.text),
    ("reporting_currency", declares response "reporting_currency" request.reportingCurrency),
    ("return_basis", declares response "return_basis" returnBasis),
    ("valuation_basis", declares response "valuation_basis" valuationBasis),
    ("weight_basis", declares response "weight_basis" weightBasis)]

omit texts in
def validatedScope (dimension : GroupingDimension) (expectedBenchmarkId : Option String) :
    Except SourceException String :=
  match (scopeFields response request dimension).find? (fun field => !field.2) with
  | some (field, _) =>
    .error (invalid s!"{field} does not match the admitted request or v1 contract")
  | none =>
    match getEntry response "benchmark_id" with
    | .str benchmarkId =>
      if pyStrip benchmarkId = "" then .error (invalid "missing benchmark_id")
      else if expectedBenchmarkId = some benchmarkId then .ok benchmarkId
      else .error (invalid "group-return benchmark_id differs from admitted exposure source")
    | _ => .error (invalid "missing benchmark_id")

def evidenceTolerance [Field K] : K := (1 : Nat) / (1000000 : Nat)

omit texts in
def noReasonCodes (coverage : List (String × PyValue K)) : Bool :=
  match getEntry coverage "reason_codes" with
  | .list codes => codes.isEmpty
  | _ => false

def validatedCoverage [Field K] [LinearOrder K] : Except SourceException (List Date) := do
  let coverage ← mappingOf (getEntry response "coverage") "coverage"
  if !declares coverage "status" "COMPLETE" then
    .error (missing "group-return evidence reports incomplete coverage")
  else do
    let tolerance ←
      decimalOf texts (getEntry coverage "reconciliation_tolerance") "reconciliation_tolerance"
    if !noReasonCodes coverage || !(decide (0 ≤ tolerance) && decide (tolerance ≤ evidenceTolerance))
    then .error (invalid "coverage contradicts the complete v1 contract")
    else do
      let rawDates ← rowsOf (getEntry coverage "observed_dates") "observed_dates"
      let observedDates ← rawDates.mapM (fun value => dateOf texts value "observed_dates")
      if !(decide observedDates.Nodup &&
          decide (observedDates = observedDates.insertionSort (· ≤ ·))) then
        .error (invalid "duplicate or unordered coverage dates")
      else do
        let start ← dateOf texts (.str request.startDate) "window start"
        let stop ← dateOf texts (.str request.endDate) "window end"
        if observedDates.any (fun day => decide (day < start) || decide (stop < day)) then
          .error (invalid "coverage date outside request window")
        else .ok observedDates

end Scope

section Lineage

/-- `bytes.fromhex` accepts the text: pairs of digits, white space between them. -/
def isHexText : List Char → Bool
  | [] => true
  | [c] => c ∈ [' ', '\t', '\n', '\r', '\x0b', '\x0c']
  | c :: d :: rest =>
    if c ∈ [' ', '\t', '\n', '\r', '\x0b', '\x0c'] then isHexText (d :: rest)
    else "0123456789abcdefABCDEF".toList.contains c &&
      "0123456789abcdefABCDEF".toList.contains d && isHexText rest

def snapshotFields : List String :=
  ["upstream_endpoint", "source_identifier", "as_of_date", "request_fingerprint",
    "response_fingerprint", "retrieval_status"]

/-- The text of a field, empty when the field is not a text. -/
def textOr (entries : List (String × PyValue K)) (field : String) : String :=
  match getEntry entries field with
  | .str text => text
  | _ => ""

def validateSnapshot (snapshot : PyValue K) : Except SourceException Unit := do
  let item ← mappingOf snapshot "source snapshot"
  if snapshotFields.any (fun field => textOr item field = "") then
    .error (invalid "incomplete source snapshot")
  else if (textOr item "retrieval_status").toList.head? = some '2' then .ok ()
  else .error (invalid "failed source snapshot")

def validatedLineage (response : List (String × PyValue K)) (request : GroupEvidenceRequest) :
    Except SourceException String := do
  let lineage ← mappingOf (getEntry response "source_lineage") "source_lineage"
  if !declares lineage "tenant_scope" "ADMITTED_TENANT" ||
      !declares lineage "upstream_revision_status" "NOT_PROVIDED_BY_SOURCE" then
    .error (invalid "unsupported source lineage")
  else if !declares lineage "execution_id" request.calculationId then
    .error (invalid "execution lineage does not match request")
  else
    let sourceCutId := textOr lineage "source_cut_id"
    if sourceCutId.toList.length ≠ 71 ∨ sourceCutId.toList.take 7 ≠ "sha256:".toList then
      .error (invalid "missing source-cut identity")
    else if !isHexText (sourceCutId.toList.drop 7) then
      .error (invalid "invalid source-cut identity")
    else do
      let snapshots ← rowsOf (getEntry lineage "snapshots") "source snapshots"
      snapshots.forM validateSnapshot
      .ok sourceCutId

end Lineage

section Arithmetic

variable [Field K] [LinearOrder K] (context : DecimalContext K)

omit [Field K] [LinearOrder K] in
/-- The result of an operation, rounded. -/
def rounded (exact : K) : Except SourceException K :=
  match context.round exact with
  | some x => .ok x
  | none => .error (.python (.decimalSignal "Overflow"))

/-- `abs(x - y) > TOLERANCE`. -/
def differ (x y : K) : Except SourceException Bool := do
  let difference ← rounded context (x - y)
  let distance ← rounded context |difference|
  .ok (decide (evidenceTolerance < distance))

/-- A disjunction of differences, of which the first that holds ends the evaluation. -/
def anyDiffer : List (K × K) → Except SourceException Bool
  | [] => .ok false
  | (x, y) :: pairs => do
    if ← differ context x y then .ok true else anyDiffer pairs

end Arithmetic

section Evidence

variable [Field K] [LinearOrder K] (context : DecimalContext K) (texts : PyTexts K)
  (casefold : String → String)

omit [LinearOrder K] in
def returnRatio (point : ReturnPoint K) : Except SourceException (Date × K) := do
  let ratio ← rounded context (fromPercent point.value)
  .ok (point.date, ratio)

omit [LinearOrder K] in
/-- The admitted returns as decimal ratios. -/
def returnsByDate (points : List (ReturnPoint K)) : Except SourceException (Dict Date K) := do
  let ratios ← points.mapM (returnRatio context)
  .ok (Dict.ofList ratios)

def validatedReturnPaths (portfolioReturns benchmarkReturns : List (ReturnPoint K))
    (observedDates : List Date) : Except SourceException (Dict Date K × Dict Date K) := do
  let portfolio ← returnsByDate context portfolioReturns
  let benchmark ← returnsByDate context benchmarkReturns
  if !(portfolio.keys.all (fun day => decide (day ∈ benchmark.keys)) &&
      benchmark.keys.all (fun day => decide (day ∈ portfolio.keys))) then
    .error (missing "portfolio and benchmark return calendars differ for active attribution")
  else if portfolio.keys.isEmpty ||
      !portfolio.keys.all (fun day => decide (day ∈ observedDates)) then
    .error (invalid "coverage omits a requested return date")
  else .ok (portfolio, benchmark)

omit [Field K] [LinearOrder K] in
def readAggregate (aggregates : Dict Date (List (String × PyValue K))) (raw : PyValue K) :
    Except SourceException (Dict Date (List (String × PyValue K))) := do
  let item ← mappingOf raw "aggregate return"
  let day ← dateOf texts (getEntry item "date") "aggregate date"
  if day ∈ aggregates.keys then .error (invalid "duplicate aggregate date")
  else .ok (aggregates.set day item)

omit [Field K] [LinearOrder K] in
def validatedAggregates (response : List (String × PyValue K)) (observedDates : List Date) :
    Except SourceException (Dict Date (List (String × PyValue K))) := do
  let raws ← rowsOf (getEntry response "aggregate_returns") "aggregate_returns"
  let aggregates ← raws.foldlM (readAggregate texts) Table.empty
  if aggregates.keys.all (fun day => decide (day ∈ observedDates)) &&
      observedDates.all (fun day => decide (day ∈ aggregates.keys)) then .ok aggregates
  else .error (invalid "aggregate calendar differs from declared coverage")

structure GroupRowIdentity where
  day : Date
  sourceId : String
  label : String
  groupKey : String

omit [Field K] [LinearOrder K] in
def groupRowIdentity (item : List (String × PyValue K))
    (aggregates : Dict Date (List (String × PyValue K))) (dimension : GroupingDimension)
    (expectedGroupKeyBySourceId : Dict String String) :
    Except SourceException GroupRowIdentity := do
  let day ← dateOf texts (getEntry item "date") "group date"
  let outside := invalid "group row outside coverage or missing identity"
  match getEntry item "group_id", getEntry item "group_label" with
  | .str sourceId, .str label =>
    if day ∉ aggregates.keys ∨ pyStrip label = "" then .error outside
    else if sourceId ≠ sourceGroupIdentity casefold dimension label then
      .error (invalid "group identity and label disagree")
    else
      match expectedGroupKeyBySourceId.get? sourceId with
      | none => .error (invalid "group outside the admitted exposure universe")
      | some groupKey => .ok ⟨day, sourceId, label, groupKey⟩
  | _, _ => .error outside

/-- The weighed returns of the two legs, the active contribution and the active weight. -/
structure GroupEconomics (K : Type) where
  portfolio : K
  benchmark : K
  active : K
  activeWeight : K

def groupEconomics (item : List (String × PyValue K)) :
    Except SourceException (GroupEconomics K) := do
  let pReturn ← decimalOf texts (getEntry item "portfolio_group_return") "portfolio_group_return"
  let bReturn ← decimalOf texts (getEntry item "benchmark_group_return") "benchmark_group_return"
  let pWeight ← decimalOf texts (getEntry item "portfolio_weight") "portfolio_weight"
  let bWeight ← decimalOf texts (getEntry item "benchmark_weight") "benchmark_weight"
  let active ← decimalOf texts (getEntry item "active_contribution") "active_contribution"
  let portfolio ← rounded context (pWeight * pReturn)
  let benchmark ← rounded context (bWeight * bReturn)
  let earned ← rounded context (portfolio - benchmark)
  if ← differ context active earned then
    .error (invalid "active contribution does not match group economics")
  else do
    let activeWeight ← rounded context (pWeight - bWeight)
    .ok ⟨portfolio, benchmark, active, activeWeight⟩

/-- What the loop over the group rows keeps. -/
structure GroupRows (K : Type) where
  byGroup : Dict String (Dict Date (ActiveGroupObservation K))
  activeSums : Dict Date K
  portfolioSums : Dict Date K
  benchmarkSums : Dict Date K
  seenRows : List (Date × String)
  labelsById : Dict String String

omit [LinearOrder K] in
/-- `sums[day] += x` of a `defaultdict(Decimal)`. -/
def addOn (sums : Dict Date K) (day : Date) (x : K) : Except SourceException (Dict Date K) := do
  let sum ← rounded context (sums.getD day 0 + x)
  .ok (sums.set day sum)

omit [Field K] [LinearOrder K] in
/-- `by_group[key][day] = observation` of a `defaultdict(dict)`. -/
def place (byGroup : Dict String (Dict Date (ActiveGroupObservation K))) (groupKey : String)
    (observation : ActiveGroupObservation K) :
    Dict String (Dict Date (ActiveGroupObservation K)) :=
  byGroup.set groupKey
    ((byGroup.getD groupKey Table.empty).set observation.observationDate observation)

def readGroupRow (aggregates : Dict Date (List (String × PyValue K)))
    (dimension : GroupingDimension) (expectedGroupKeyBySourceId : Dict String String)
    (state : GroupRows K) (raw : PyValue K) : Except SourceException (GroupRows K) := do
  let item ← mappingOf raw "group evidence row"
  let row ← groupRowIdentity texts casefold item aggregates dimension expectedGroupKeyBySourceId
  if state.labelsById.getD row.sourceId row.label ≠ row.label then
    .error (invalid "conflicting labels for one group identity")
  else if (row.day, row.sourceId) ∈ state.seenRows then
    .error (invalid "duplicate group observation")
  else do
    let economics ← groupEconomics context texts item
    let activeSums ← addOn context state.activeSums row.day economics.active
    let portfolioSums ← addOn context state.portfolioSums row.day economics.portfolio
    let benchmarkSums ← addOn context state.benchmarkSums row.day economics.benchmark
    .ok {
      byGroup := place state.byGroup row.groupKey
        ⟨row.day, economics.active, economics.activeWeight⟩
      activeSums := activeSums
      portfolioSums := portfolioSums
      benchmarkSums := benchmarkSums
      seenRows := state.seenRows ++ [(row.day, row.sourceId)]
      labelsById := state.labelsById.set row.sourceId row.label }

def readGroupRows (aggregates : Dict Date (List (String × PyValue K)))
    (dimension : GroupingDimension) (expectedGroupKeyBySourceId : Dict String String)
    (raws : List (PyValue K)) : Except SourceException (GroupRows K) :=
  raws.foldlM (readGroupRow context texts casefold aggregates dimension expectedGroupKeyBySourceId)
    ⟨Table.empty, Table.empty, Table.empty, Table.empty, [], Table.empty⟩

def validatedGroupRows (response : List (String × PyValue K))
    (aggregates : Dict Date (List (String × PyValue K))) (dimension : GroupingDimension)
    (expectedGroupKeyBySourceId : Dict String String) : Except SourceException (GroupRows K) := do
  let raws ← rowsOf (getEntry response "rows") "group evidence"
  let state ←
    readGroupRows context texts casefold aggregates dimension expectedGroupKeyBySourceId raws
  let expected := expectedGroupKeyBySourceId.items.map Prod.snd
  if state.byGroup.keys.all (fun key => decide (key ∈ expected)) &&
      expected.all (fun key => decide (key ∈ state.byGroup.keys)) then .ok state
  else .error (invalid "group evidence omits an admitted exposure group")

def legReconciliation (portfolioSums benchmarkSums : Dict Date K)
    (aggregate : Date × List (String × PyValue K)) : Except SourceException Unit := do
  let weightedPortfolio ← decimalOf texts (getEntry aggregate.2 "weighted_portfolio_return")
    "weighted_portfolio_return"
  let portfolio ← decimalOf texts (getEntry aggregate.2 "portfolio_return")
    "aggregate portfolio_return"
  let benchmark ← decimalOf texts (getEntry aggregate.2 "benchmark_return")
    "aggregate benchmark_return"
  if ← anyDiffer context [(portfolioSums.getD aggregate.1 0, weightedPortfolio),
      (weightedPortfolio, portfolio), (benchmarkSums.getD aggregate.1 0, benchmark)] then
    .error (invalid "group portfolio or benchmark returns do not reconcile")
  else do
    let declaredDelta ← decimalOf texts (getEntry aggregate.2 "portfolio_reconciliation_delta")
      "portfolio_reconciliation_delta"
    let delta ← rounded context (weightedPortfolio - portfolio)
    if ← differ context declaredDelta delta then
      .error (invalid "declared portfolio reconciliation delta disagrees with economics")
    else .ok ()

def smallDelta (item : List (String × PyValue K)) (field : String) :
    Except SourceException Unit := do
  let delta ← decimalOf texts (getEntry item field) field
  let size ← rounded context |delta|
  if evidenceTolerance < size then .error (invalid s!"{field} exceeds tolerance") else .ok ()

def matchesAdmitted (portfolioByDate benchmarkByDate : Dict Date K) (day : Date)
    (pReturn bReturn : K) : Except SourceException Unit :=
  match portfolioByDate.get? day with
  | none => .ok ()
  | some portfolio => do
    if ← anyDiffer context [(pReturn, portfolio), (bReturn, benchmarkByDate.getD day 0)] then
      .error (invalid "source returns do not match Risk's admitted return series")
    else .ok ()

def dailyReconciliation (activeSums portfolioByDate benchmarkByDate : Dict Date K)
    (aggregate : Date × List (String × PyValue K)) : Except SourceException Unit := do
  let pReturn ← decimalOf texts (getEntry aggregate.2 "portfolio_return")
    "aggregate portfolio_return"
  let bReturn ← decimalOf texts (getEntry aggregate.2 "benchmark_return")
    "aggregate benchmark_return"
  let active ← decimalOf texts (getEntry aggregate.2 "active_return") "aggregate active_return"
  let difference ← rounded context (pReturn - bReturn)
  if ← anyDiffer context [(active, difference), (activeSums.getD aggregate.1 0, active)] then
    .error (invalid "group active contributions do not reconcile")
  else do
    smallDelta context texts aggregate.2 "portfolio_reconciliation_delta"
    smallDelta context texts aggregate.2 "group_active_contribution_delta"
    matchesAdmitted context portfolioByDate benchmarkByDate aggregate.1 pReturn bReturn

/-- The observations of a group on the required dates; a date without a row is a zero. -/
def requiredObservations (requiredDates : List Date)
    (observations : Dict Date (ActiveGroupObservation K)) : List (ActiveGroupObservation K) :=
  requiredDates.map (fun day => observations.getD day ⟨day, 0, 0⟩)

def parseActiveGroupEvidence (response : List (String × PyValue K))
    (request : GroupEvidenceRequest) (expectedBenchmarkId : Option String)
    (dimension : GroupingDimension) (expectedGroupKeyBySourceId : Dict String String)
    (portfolioReturns benchmarkReturns : List (ReturnPoint K)) :
    Except SourceException (ActiveGroupEvidence K) := do
  let benchmarkId ← validatedScope response request dimension expectedBenchmarkId
  let observedDates ← validatedCoverage texts response request
  let sourceCutId ← validatedLineage response request
  let paths ← validatedReturnPaths context portfolioReturns benchmarkReturns observedDates
  let aggregates ← validatedAggregates texts response observedDates
  let rows ←
    validatedGroupRows context texts casefold response aggregates dimension
      expectedGroupKeyBySourceId
  aggregates.items.forM (legReconciliation context texts rows.portfolioSums rows.benchmarkSums)
  aggregates.items.forM (dailyReconciliation context texts rows.activeSums paths.1 paths.2)
  let requiredDates := paths.1.keys.insertionSort (· ≤ ·)
  .ok {
    observationsByGroup := Dict.ofList
      ((rows.byGroup.items.insertionSort (fun a b => a.1 ≤ b.1)).map (fun group =>
        (group.1, requiredObservations requiredDates group.2)))
    sourceCutId := sourceCutId
    benchmarkId := benchmarkId
    reportingCurrency := texts.pyStr (getEntry response "reporting_currency") }

end Evidence

end LotusRisk
