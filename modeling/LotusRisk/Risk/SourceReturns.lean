import LotusRisk.Risk.Buckets
import LotusRisk.Supportability.Calculation

/-! The returns series of the performance service, read and admitted for a request. -/

namespace LotusRisk
set_option autoImplicit true

variable {K : Type}

def returnsSeriesOperation : String := "/integration/returns/series"

def invalidReturns (message : String) (details : List (String × String)) : SourceException :=
  .upstream (invalidUpstreamPayload "lotus-performance" returnsSeriesOperation message details)

section ReturnPoints

def isTradingDay (value : Date) : Bool := value.weekday < 5

/-- `_date_matches_frequency`. -/
def dateMatchesFrequency (value : Date) : Frequency → Bool
  | .daily => isTradingDay value
  | .weekly => value.weekday = 4
  | .monthly => value.day = daysInMonth value.year value.month

variable [Field K] (texts : PyTexts K) (float : K → PyNumber K)

/-- `float` is the conversion of a finite `Decimal`. -/
def decimalReturnToPercentagePoints (value : PyValue K) : Except SourceException (PyNumber K) :=
  let text := texts.pyStr value
  match texts.toDecimal value with
  | none => .error (invalidReturns s!"Invalid return value from lotus-performance: {text}" [])
  | some .nonFinite =>
    .error (invalidReturns s!"Non-finite return value from lotus-performance: {text}" [])
  | some (.finite decimalValue) => .ok (float (inPercent decimalValue))

/-- One row of the loop; the dates seen are those of the points read. -/
def readReturnRow (frequency : Frequency) (result : List (ReturnPoint K)) (row : PyValue K) :
    Except SourceException (List (ReturnPoint K)) :=
  match row with
  | .dict entries =>
    match getEntry entries "date" with
    | .str rawDate =>
      match texts.fromisoformat rawDate with
      | none =>
        .error (invalidReturns "Invalid return date from lotus-performance" [("field", "date")])
      | some parsedDate =>
        if !dateMatchesFrequency parsedDate frequency then
          if frequency = .daily then .ok result
          else .error (invalidReturns "Return date from lotus-performance does not match frequency"
            [("field", "date"), ("frequency", frequency.text)])
        else if parsedDate ∈ result.map ReturnPoint.date then
          .error (invalidReturns "Duplicate return date from lotus-performance"
            [("field", "date"), ("date", parsedDate.isoformat)])
        else do
          let value ← decimalReturnToPercentagePoints texts float (getEntry entries "return_value")
          let point ← returnPoint parsedDate value
          .ok (result ++ [point])
    | _ => .ok result
  | _ => .ok result

def toReturnPoints (frequency : Frequency) (series : PyValue K) :
    Except SourceException (List (ReturnPoint K)) :=
  match series with
  | .list rows => rows.foldlM (readReturnRow texts float frequency) []
  | _ => .ok []

omit [Field K] in
def extractSeriesPayload (sourceResponse : List (String × PyValue K)) :
    Except SourceException (List (String × PyValue K)) :=
  match getEntry sourceResponse "series" with
  | .dict series => .ok series
  | _ => .error (invalidReturns
      "lotus-performance returns-series payload missing 'series' object" [])

def extractRequiredPortfolioReturns (sourceResponse : List (String × PyValue K))
    (frequency : Frequency) :
    Except SourceException (List (String × PyValue K) × List (ReturnPoint K)) := do
  let series ← extractSeriesPayload sourceResponse
  let portfolioPoints ← toReturnPoints texts float frequency (getEntry series "portfolio_returns")
  if portfolioPoints.isEmpty then
    .error (.upstream (missingUpstreamData "lotus-performance" returnsSeriesOperation
      "lotus-performance returns-series returned no portfolio returns" []))
  else .ok (series, portfolioPoints)

end ReturnPoints

section Evidence

/-- A double with its special values, exact where it is finite. -/
inductive PyDouble (K : Type) where
  | finite (x : K)
  | posInf
  | negInf
  | nan
deriving DecidableEq

/-- How pydantic reads a field of a lax type. -/
structure FieldCoercions (K : Type) where
  int : PyValue K → Option Int
  float : PyValue K → Option (PyDouble K)
  uuid : PyValue K → Option String

/-- The pattern `^sha256:[0-9a-f]{64}$`. -/
def isSha256Label (text : String) : Bool :=
  match text.toList with
  | 's' :: 'h' :: 'a' :: '2' :: '5' :: '6' :: ':' :: digits =>
    digits.length = 64 && digits.all (fun c => c.isDigit || ('a' ≤ c && c ≤ 'f'))
  | _ => false

def textField (entries : List (String × PyValue K)) (field : String) (accepts : String → Bool) :
    Option String :=
  match getEntry entries field with
  | .str text => if accepts text then some text else none
  | _ => none

variable [Field K] [LinearOrder K] [FloorRing K]

/-- `round(x, 8)`. -/
def roundEight (x : K) : K :=
  let scaled := x * (100000000 : Nat)
  let twice := (scaled - ⌊scaled⌋) * (2 : Nat)
  let nearest :=
    if twice < 1 then ⌊scaled⌋
    else if 1 < twice then ⌊scaled⌋ + 1
    else if ⌊scaled⌋ % 2 = 0 then ⌊scaled⌋ else ⌊scaled⌋ + 1
  (nearest : K) / (100000000 : Nat)

def ratioTolerance : K := 1 / (1000000000000 : Nat)

/-- The bounds of the field, which refuse what is not ordered with them. -/
def withinUnitInterval : PyDouble K → Bool
  | .finite x => decide (0 ≤ x) && decide (x ≤ 1)
  | .nan | .posInf | .negInf => false

/-- The validator runs on a ratio that the bounds have admitted. -/
def ratioReconciles (requestedPoints returnedPoints : Nat) : PyDouble K → Bool
  | .finite coverageRatio =>
    let expectedRatio : K :=
      if requestedPoints = 0 then 1 else (returnedPoints : K) / (requestedPoints : K)
    decide (|coverageRatio - expectedRatio| ≤ ratioTolerance) ||
      decide (coverageRatio = roundEight expectedRatio)
  | .nan | .posInf | .negInf => false

/-- The evidence of one response, with what its validation guarantees. -/
structure SourceReturnsEvidence (K : Type) [Field K] [LinearOrder K] [FloorRing K] extends
    StatefulReturnsSourceEvidence where
  calculationId : String
  inputFingerprint : String
  calculationHash : String
  requestedPoints : Nat
  returnedPoints : Nat
  coverageRatio : PyDouble K
  counts_reconcile : requestedPoints = returnedPoints + missingPoints
  ratio_reconciles : ratioReconciles requestedPoints returnedPoints coverageRatio = true

variable (coercions : FieldCoercions K)

omit [Field K] [LinearOrder K] [FloorRing K] in
/-- An integer field with `ge=0`. -/
def countField (entries : List (String × PyValue K)) (field : String) : Option Nat :=
  match coercions.int (getEntry entries field) with
  | some (.ofNat n) => some n
  | _ => none

/-- `StatefulReturnsSourceEvidence.model_validate(_source_evidence_payload(...))`. -/
def validateSourceEvidence (sourceResponse : List (String × PyValue K)) :
    Option (SourceReturnsEvidence K) := do
  let provenance := mappingOrEmpty (getEntry sourceResponse "provenance")
  let diagnostics := mappingOrEmpty (getEntry sourceResponse "diagnostics")
  let coverage := mappingOrEmpty (getEntry diagnostics "coverage")
  let _ ← textField sourceResponse "source_service" (fun text => text = "lotus-performance")
  let calculationId ← coercions.uuid (getEntry sourceResponse "calculation_id")
  let _ ← textField sourceResponse "contract_version" (fun text => text = "v1")
  let inputFingerprint ← textField provenance "input_fingerprint" isSha256Label
  let calculationHash ← textField provenance "calculation_hash" isSha256Label
  let freshness ← textField diagnostics "freshness" (fun text => text = "current" || text = "stale")
  let requestedPoints ← countField coercions coverage "requested_points"
  let returnedPoints ← countField coercions coverage "returned_points"
  let missingPoints ← countField coercions coverage "missing_points"
  let coverageRatio ← coercions.float (getEntry coverage "coverage_ratio")
  if !withinUnitInterval coverageRatio then none
  else if hcounts : requestedPoints = returnedPoints + missingPoints then
    if hratio : ratioReconciles requestedPoints returnedPoints coverageRatio = true then
      some {
        freshness := if freshness = "current" then .current else .stale
        missingPoints := missingPoints
        calculationId := calculationId
        inputFingerprint := inputFingerprint
        calculationHash := calculationHash
        requestedPoints := requestedPoints
        returnedPoints := returnedPoints
        coverageRatio := coverageRatio
        counts_reconcile := hcounts
        ratio_reconciles := hratio }
    else none
  else none

end Evidence

section Window

/-- The window of a request, as `build_returns_series_window` makes it. -/
inductive ReturnsSeriesWindow where
  | explicit (fromDate toDate : String)
  | relative (period : String)
deriving DecidableEq, Repr

def windowMismatch : SourceException :=
  invalidReturns "lotus-performance returns-series resolved window does not match request"
    [("field", "resolved_window")]

variable (texts : PyTexts K)

def resolvedWindowOf (sourceResponse : List (String × PyValue K)) : List (String × PyValue K) :=
  mappingOrEmpty (getEntry sourceResponse "resolved_window")

/-- `date.fromisoformat(window[field])`, where `none` stands for the exceptions. -/
def windowDate (resolvedWindow : List (String × PyValue K)) (field : String) : Option Date :=
  match getEntry resolvedWindow field with
  | .str text => texts.fromisoformat text
  | _ => none

/-- The first day of the bucket of a frequency that ends on a date. -/
def bucketStart (bucketEnd : Date) : Frequency → Date
  | .daily => bucketEnd
  | .weekly => (Date.fromordinal (max 1 (bucketEnd.toordinal - 6))).getD bucketEnd
  | .monthly => (dateOfFields? bucketEnd.year bucketEnd.month 1).getD bucketEnd

/-- `_bucket_overlaps_window`. -/
def bucketOverlapsWindow (bucketEnd : Date) (frequency : Frequency) (startDate endDate : Date) :
    Bool :=
  decide (bucketStart bucketEnd frequency ≤ endDate) && decide (startDate ≤ bucketEnd)

def validateExplicitWindow (resolvedWindow : List (String × PyValue K)) (fromDate toDate : String) :
    Except SourceException Unit :=
  if declares resolvedWindow "start_date" fromDate && declares resolvedWindow "end_date" toDate &&
      (getEntry resolvedWindow "resolved_period_label").isNone then .ok ()
  else .error windowMismatch

def validateRelativeWindow (resolvedWindow : List (String × PyValue K)) (period : String)
    (asOfDate : Date) : Except SourceException Unit :=
  if !declares resolvedWindow "resolved_period_label" period then .error windowMismatch
  else
    match windowDate texts resolvedWindow "start_date",
      windowDate texts resolvedWindow "end_date" with
    | some startDate, some endDate =>
      if endDate = asOfDate ∧ startDate ≤ endDate then .ok () else .error windowMismatch
    | _, _ => .error windowMismatch

def validateResolvedWindow (sourceResponse : List (String × PyValue K)) (asOfDate : Date) :
    ReturnsSeriesWindow → Except SourceException Unit
  | .explicit fromDate toDate =>
    validateExplicitWindow (resolvedWindowOf sourceResponse) fromDate toDate
  | .relative period =>
    validateRelativeWindow texts (resolvedWindowOf sourceResponse) period asOfDate

def validateReturnedPointsWithinWindow (sourceResponse : List (String × PyValue K))
    (returnedPoints : List (ReturnPoint K)) (frequency : Frequency) : Except SourceException Unit :=
  match windowDate texts (resolvedWindowOf sourceResponse) "start_date",
    windowDate texts (resolvedWindowOf sourceResponse) "end_date" with
  | some startDate, some endDate =>
    if returnedPoints.any
        (fun point => !bucketOverlapsWindow point.date frequency startDate endDate) then
      .error (invalidReturns "lotus-performance portfolio return lies outside resolved window"
        [("field", "series.portfolio_returns.date")])
    else .ok ()
  | _, _ => .error windowMismatch

/-- The end of the admitted window is the date of a bucket that ends later. -/
def normalizeReturnPointsToResolvedWindow (sourceResponse : List (String × PyValue K))
    (returnedPoints : List (ReturnPoint K)) (frequency : Frequency) :
    Except SourceException (List (ReturnPoint K)) := do
  validateReturnedPointsWithinWindow texts sourceResponse returnedPoints frequency
  if frequency = .daily then .ok returnedPoints
  else
    match windowDate texts (resolvedWindowOf sourceResponse) "end_date" with
    | none => .error windowMismatch
    | some endDate =>
      .ok (returnedPoints.map fun point => { point with date := min point.date endDate })

end Window

section Admission

/-- The identity of a returns request that a response repeats. -/
structure ReturnsIdentity where
  portfolioId : String
  asOfDate : Date
  frequency : Frequency
  metricBasis : String

def ReturnsIdentity.expectedFields (identity : ReturnsIdentity) : List (String × String) :=
  [("portfolio_id", identity.portfolioId), ("as_of_date", identity.asOfDate.isoformat),
    ("frequency", identity.frequency.text), ("metric_basis", identity.metricBasis)]

def validateSourceRequestIdentity (sourceResponse : List (String × PyValue K))
    (identity : ReturnsIdentity) : Except SourceException Unit :=
  match identity.expectedFields.find? (fun field => !declares sourceResponse field.1 field.2) with
  | some (field, _) => .error (invalidReturns
      "lotus-performance returns-series identity does not match request" [("field", field)])
  | none => .ok ()

def validateStatefulProvenance (provenance : List (String × PyValue K)) :
    Except SourceException Unit :=
  if declares provenance "input_mode" "stateful" then .ok ()
  else .error (invalidReturns
    "lotus-performance returns-series provenance does not match stateful request"
    [("field", "provenance.input_mode")])

variable [Field K] [LinearOrder K] [FloorRing K] (coercions : FieldCoercions K)

/-- The number of returned points is that of the points consumed. -/
def validateCoverage (evidence : SourceReturnsEvidence K) :
    Option (List (ReturnPoint K)) → Except SourceException Unit
  | none => .ok ()
  | some returnedPoints =>
    if evidence.returnedPoints = returnedPoints.length then .ok ()
    else .error (invalidReturns
      "lotus-performance coverage does not match consumed portfolio returns"
      [("field", "diagnostics.coverage.returned_points")])

omit [Field K] [LinearOrder K] [FloorRing K] in
def validateWindow (texts : PyTexts K) (sourceResponse : List (String × PyValue K))
    (identity : ReturnsIdentity) (returnedPoints : Option (List (ReturnPoint K))) :
    Option ReturnsSeriesWindow → Except SourceException Unit
  | none => .ok ()
  | some requestedWindow => do
    validateResolvedWindow texts sourceResponse identity.asOfDate requestedWindow
    match returnedPoints with
    | none => .ok ()
    | some points =>
      validateReturnedPointsWithinWindow texts sourceResponse points identity.frequency

def extractStatefulReturnsSourceEvidence (texts : PyTexts K)
    (sourceResponse : List (String × PyValue K)) (identity : ReturnsIdentity)
    (requestedWindow : Option ReturnsSeriesWindow)
    (returnedPoints : Option (List (ReturnPoint K))) :
    Except SourceException (SourceReturnsEvidence K) :=
  match validateSourceEvidence coercions sourceResponse with
  | none => .error (invalidReturns
      "lotus-performance returns-series source qualification is invalid"
      [("field", "source_qualification")])
  | some evidence => do
    validateSourceRequestIdentity sourceResponse identity
    validateStatefulProvenance (mappingOrEmpty (getEntry sourceResponse "provenance"))
    validateCoverage evidence returnedPoints
    validateWindow texts sourceResponse identity returnedPoints requestedWindow
    .ok evidence

end Admission

end LotusRisk
