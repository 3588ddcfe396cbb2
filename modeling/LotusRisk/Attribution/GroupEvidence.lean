import LotusRisk.Upstream

/-! The group returns of a contribution response, validated for one grouping dimension. -/

namespace LotusRisk
set_option autoImplicit true

open Relational

variable {K : Type}

inductive GroupingDimension where
  | position
  | issuer
  | sector
  | assetClass
  | custom
deriving DecidableEq, Repr

section ContributionResponse

variable (malformed : String → SourceException) (texts : PyTexts K)

def explicitLevels (response : List (String × PyValue K)) :
    Except SourceException (Option (List (PyValue K))) :=
  match response.lookup "results_by_period" with
  | none => .error (malformed "payload missing results_by_period mapping")
  | some (.dict results) =>
    match results.lookup "EXPLICIT" with
    | none => .ok none
    | some (.dict period) =>
      match period.lookup "levels" with
      | some (.list levels) => .ok (some levels)
      | _ => .error (malformed "results_by_period.EXPLICIT.levels is not a list")
    | some _ => .error (malformed "results_by_period.EXPLICIT is not a mapping")
  | some _ => .error (malformed "results_by_period is not a mapping")

/-- The name of a level, with the mapping it stands in. -/
def levelName (level : PyValue K) : Except SourceException (String × List (String × PyValue K)) :=
  match level with
  | .dict entries =>
    match getEntry entries "name" with
    | .str name => .ok (name, entries)
    | _ => .error (malformed
        "results_by_period.EXPLICIT.levels contains a level without a name")
  | _ => .error (malformed "results_by_period.EXPLICIT.levels contains a non-mapping level")

def mapping? (value : PyValue K) : Option (List (String × PyValue K)) :=
  match value with
  | .dict entries => some entries
  | _ => none

def levelRows (level : List (String × PyValue K)) (dimensionField : String) :
    Except SourceException (List (List (String × PyValue K))) :=
  let field := texts.repr (.str dimensionField)
  match getEntry level "rows" with
  | .list rows =>
    match rows.mapM mapping? with
    | some rows => .ok rows
    | none => .error (malformed s!"hierarchy level {field} contains a non-mapping row")
  | _ => .error (malformed s!"hierarchy level {field} rows is not a list")

def requestedLevelRows (dimensionField : String) :
    List (PyValue K) → Except SourceException (List (List (String × PyValue K)))
  | [] =>
    let field := texts.repr (.str dimensionField)
    .error (malformed
      s!"results_by_period.EXPLICIT.levels missing requested hierarchy {field}")
  | level :: levels => do
    let named ← levelName malformed level
    if named.1 = dimensionField then levelRows malformed texts named.2 dimensionField
    else requestedLevelRows dimensionField levels

/-- The rows of the requested hierarchy; a missing period is none. -/
def extractPeriodRows (response : List (String × PyValue K)) (dimensionField : String) :
    Except SourceException (Option (List (List (String × PyValue K)))) := do
  match ← explicitLevels malformed response with
  | none => .ok none
  | some levels => do
    let rows ← requestedLevelRows malformed texts dimensionField levels
    .ok (some rows)

end ContributionResponse

def lotusPerformanceContributionOperation : String := "/performance/contribution"

def flagTruncated : String := "group_return_evidence:truncated"
def flagPeriodMissing : String := "group_return_evidence:period_missing"
def flagReconciliationBreach : String := "group_return_evidence:reconciliation_breach"
def flagGroupUniverseIncomplete : String := "group_return_evidence:group_universe_incomplete"
def flagUnavailable : String := "group_return_evidence:unavailable"
def flagCalendarIncomplete : String := "group_return_evidence:calendar_incomplete"

def groupReturnBasis : String := "SOURCE_POSITION_VALUATION_TWR"
def groupWeightBasis : String := "BEGINNING_CAPITAL_RATIO"

structure GroupReturnObservation (K : Type) where
  observationDate : Date
  returnPp : K
  weightRatio : K

structure GroupReturnSeries (K : Type) where
  groupKey : String
  currency : String
  observations : List (GroupReturnObservation K)

/-- The evidence for one grouping dimension over one period. -/
structure GroupEvidencePack (K : Type) where
  groupingDimension : GroupingDimension
  seriesByGroup : Dict String (GroupReturnSeries K)
  degradationFlags : List String
  expectedGroupKeys : List String

def GroupEvidencePack.empirical (pack : GroupEvidencePack K) : Bool :=
  pack.degradationFlags.isEmpty && !pack.seriesByGroup.items.isEmpty

/-- A contribution response that breaks the contract of its producer. -/
def malformed (message : String) : SourceException :=
  .upstream (invalidUpstreamPayload "lotus-performance" lotusPerformanceContributionOperation
    s!"lotus-performance contribution group evidence: {message}" [])

section Points

variable {V : Type} [ValuedFloat K V] (texts : PyTexts K)

/-- `_finite`, which handles a `TypeError` and a `ValueError` of `float`. -/
def finite (raw : PyValue K) (field groupKey : String) : Except SourceException K :=
  let key := texts.repr (.str groupKey)
  let special := malformed s!"non-finite {field} for group {key}"
  match texts.toFloat raw with
  | .ok (.finite number) => if ValuedFloat.isFinite number then .ok number else .error special
  | .ok .nonFinite => .error special
  | .error .invalid => .error (malformed s!"non-numeric {field} for group {key}")
  | .error .overflow => .error (.python (.overflowError "int too large to convert to float"))

omit [ValuedFloat K V] in
def parseObservationDate (value : PyValue K) (groupKey : String) : Except SourceException Date :=
  let key := texts.repr (.str groupKey)
  let text := texts.repr value
  let invalid := malformed s!"invalid observation date for group {key}: {text}"
  match value with
  | .date date => .ok date
  | .str raw =>
    match texts.fromisoformat raw with
    | some date => .ok date
    | none => .error invalid
  | _ => .error invalid

omit [ValuedFloat K V] in
def groupKeyFromRow (row : List (String × PyValue K)) (dimensionField : String) :
    Except SourceException String :=
  let field := texts.repr (.str dimensionField)
  let missing := malformed s!"hierarchy row without a {field} key value"
  match getEntry row "key" with
  | .dict key =>
    match getEntry key dimensionField with
    | .none => .error missing
    | value => if pyStrip (texts.pyStr value) = "" then .error missing else .ok (texts.pyStr value)
  | _ => .error (malformed "hierarchy row without a key mapping")

omit [ValuedFloat K V] in
def validatedSeriesCurrency (rowEvidence : List (String × PyValue K)) (groupKey : String)
    (expectedCurrency : Option String) : Except SourceException String :=
  let key := texts.repr (.str groupKey)
  let missing := malformed s!"READY evidence without a currency for group {key}"
  match getEntry rowEvidence "currency" with
  | .str currency =>
    if pyStrip currency = "" then .error missing
    else
      match expectedCurrency with
      | some expected =>
        if currency = expected then .ok currency
        else .error (malformed
          s!"READY evidence for group {key} is in {currency}, requested {expected}")
      | none => .ok currency
  | _ => .error missing

/-- The dates an observation may have: those of the portfolio, and the weekends of the period. -/
def inAnalysedWindow (windowDates : List Date) (periodStart periodEnd date : Date) : Bool :=
  decide (date ∈ windowDates) ||
    (decide (periodStart ≤ date) && decide (date ≤ periodEnd) && decide (5 ≤ date.weekday))

variable (windowDates : List Date) (periodStart periodEnd : Date)

def parseObservation (groupKey : String) (seenDates : List Date) (rawPoint : PyValue K) :
    Except SourceException (GroupReturnObservation K) :=
  let key := texts.repr (.str groupKey)
  match rawPoint with
  | .dict point => do
    let observationDate ← parseObservationDate texts (getEntry point "date") groupKey
    let day := observationDate.isoformat
    if observationDate ∈ seenDates then
      .error (malformed s!"duplicate observation date {day} for group {key}")
    else if inAnalysedWindow windowDates periodStart periodEnd observationDate then do
      let returnPp ← finite texts (getEntry point "return_pct") "return_pct" groupKey
      let weightPct ←
        finite texts (getEntry point "portfolio_weight_pct") "portfolio_weight_pct" groupKey
      .ok ⟨observationDate, returnPp, FloatOps.div weightPct (FloatOps.ofInt 100)⟩
    else
      .error (malformed s!"observation outside the analysed window for group {key}: {day}")
  | _ => .error (malformed s!"non-mapping series point for group {key}")

/-- The observations and the dates that the loop over a series has read. -/
structure SeriesRead (K : Type) where
  observations : Dict Date (GroupReturnObservation K)
  seenDates : List Date

def readObservation (groupKey : String) (state : SeriesRead K) (rawPoint : PyValue K) :
    Except SourceException (SeriesRead K) := do
  let observation ←
    parseObservation texts windowDates periodStart periodEnd groupKey state.seenDates rawPoint
  .ok {
    seenDates := state.seenDates ++ [observation.observationDate]
    observations :=
      if observation.observationDate ∈ windowDates then
        state.observations.set observation.observationDate observation
      else state.observations }

def readObservations (groupKey : String) (rawSeries : List (PyValue K)) :
    Except SourceException (SeriesRead K) :=
  rawSeries.foldlM (readObservation texts windowDates periodStart periodEnd groupKey)
    ⟨Table.empty, []⟩

omit [ValuedFloat K V] in
/-- What `_parse_ready_series` checks before it reads the series. -/
def readyHeader (rowEvidence : List (String × PyValue K)) (groupKey : String)
    (expectedCurrency : Option String) :
    Except SourceException (String × List (PyValue K)) := do
  let key := texts.repr (.str groupKey)
  if !declares rowEvidence "return_basis" groupReturnBasis then
    .error (malformed s!"READY evidence has unsupported return_basis for group {key}")
  else if !declares rowEvidence "weight_basis" groupWeightBasis then
    .error (malformed s!"READY evidence has unsupported weight_basis for group {key}")
  else do
    let currency ← validatedSeriesCurrency texts rowEvidence groupKey expectedCurrency
    match getEntry rowEvidence "series" with
    | .list (first :: rest) =>
      if windowDates.isEmpty then
        .error (malformed s!"READY evidence without portfolio return dates for group {key}")
      else .ok (currency, first :: rest)
    | _ => .error (malformed s!"READY evidence without a series for group {key}")

def parseReadySeries (rowEvidence : List (String × PyValue K)) (groupKey : String)
    (expectedCurrency : Option String) : Except SourceException (GroupReturnSeries K) := do
  let header ← readyHeader texts windowDates rowEvidence groupKey expectedCurrency
  let read ← readObservations texts windowDates periodStart periodEnd groupKey header.2
  let ordered := (read.observations.items.insertionSort (fun a b => a.1 ≤ b.1)).map Prod.snd
  .ok ⟨groupKey, header.1, ordered⟩

end Points

section Rows

variable {V : Type} [ValuedFloat K V] [ZeroTest K] (texts : PyTexts K) (windowDates : List Date)
  (periodStart periodEnd : Date)

structure RowEvidence (K : Type) where
  flags : List String
  seriesByGroup : Dict String (GroupReturnSeries K)
  seenSourceKeys : List String
  seenCalculationKeys : List String

omit [ValuedFloat K V] [ZeroTest K] in
/-- The source key and the Core group of a row that no earlier row has. -/
def rowGroup (dimensionField : String) (expectedGroupKeyBySourceKey : Dict String String)
    (state : RowEvidence K) (row : List (String × PyValue K)) :
    Except SourceException (String × String) := do
  let sourceGroupKey ← groupKeyFromRow texts row dimensionField
  let source := texts.repr (.str sourceGroupKey)
  if sourceGroupKey ∈ state.seenSourceKeys then
    .error (malformed s!"duplicate hierarchy rows for group {source}")
  else
    match expectedGroupKeyBySourceKey.get? sourceGroupKey with
    | none => .error (malformed
        s!"hierarchy row group {source} is outside the Core group universe")
    | some calculationGroupKey =>
      let calculation := texts.repr (.str calculationGroupKey)
      if calculationGroupKey ∈ state.seenCalculationKeys then
        .error (malformed
          s!"multiple hierarchy rows resolve to one Core group identity {calculation}")
      else .ok (sourceGroupKey, calculationGroupKey)

omit [ValuedFloat K V] [ZeroTest K] in
/-- The evidence of a row that is `READY`; none when it is `UNAVAILABLE`. -/
def rowReturnEvidence (sourceGroupKey : String) (row : List (String × PyValue K)) :
    Except SourceException (Option (List (String × PyValue K))) :=
  let source := texts.repr (.str sourceGroupKey)
  match getEntry row "group_return" with
  | .dict rowEvidence =>
    let status := texts.repr (getEntry rowEvidence "status")
    if declares rowEvidence "status" "UNAVAILABLE" then .ok none
    else if declares rowEvidence "status" "READY" then .ok (some rowEvidence)
    else .error (malformed s!"unknown group_return status {status} for group {source}")
  | _ => .error (malformed s!"hierarchy row without group_return evidence for {source}")

def collectRow (dimensionField : String) (expectedCurrency : Option String)
    (expectedGroupKeyBySourceKey : Dict String String) (state : RowEvidence K)
    (row : List (String × PyValue K)) : Except SourceException (RowEvidence K) :=
  if (getEntry row "is_other").truthy then
    .ok { state with flags := state.flags ++ [flagTruncated] }
  else do
    let group ← rowGroup texts dimensionField expectedGroupKeyBySourceKey state row
    let seen := { state with
      seenSourceKeys := state.seenSourceKeys ++ [group.1]
      seenCalculationKeys := state.seenCalculationKeys ++ [group.2] }
    match ← rowReturnEvidence texts group.1 row with
    | none => .ok { seen with flags := state.flags ++ [flagUnavailable] }
    | some rowEvidence => do
      let series ← parseReadySeries texts windowDates periodStart periodEnd rowEvidence group.2
        expectedCurrency
      .ok { seen with seriesByGroup := state.seriesByGroup.set group.2 series }

def collectRows (dimensionField : String) (expectedCurrency : Option String)
    (expectedGroupKeyBySourceKey : Dict String String) (rows : List (List (String × PyValue K))) :
    Except SourceException (RowEvidence K) :=
  rows.foldlM (collectRow texts windowDates periodStart periodEnd dimensionField expectedCurrency
    expectedGroupKeyBySourceKey) ⟨[], Table.empty, [], []⟩

def collectRowEvidence (dimensionField : String) (expectedCurrency : Option String)
    (expectedGroupKeyBySourceKey : Dict String String) (rows : List (List (String × PyValue K))) :
    Except SourceException (Dict String (GroupReturnSeries K) × List String) := do
  let state ← collectRows texts windowDates periodStart periodEnd dimensionField expectedCurrency
    expectedGroupKeyBySourceKey rows
  let expected := expectedGroupKeyBySourceKey.items.map Prod.snd
  if expected.all (fun key => decide (key ∈ state.seenCalculationKeys)) then
    .ok (state.seriesByGroup, state.flags)
  else .ok (state.seriesByGroup, state.flags ++ [flagGroupUniverseIncomplete])

end Rows

section Pack

def calendarFlags (seriesByGroup : Dict String (GroupReturnSeries K)) (portfolioDates : List Date) :
    List String :=
  (seriesByGroup.items.insertionSort (fun a b => a.1 ≤ b.1)).filterMap (fun group =>
    let observed := group.2.observations.map (fun point => point.observationDate)
    if portfolioDates.any (fun date => decide (date ∉ observed)) then some flagCalendarIncomplete
    else none)

variable {V : Type} [ValuedFloat K V] [ZeroTest K] (texts : PyTexts K)

/-- One basis point. -/
def reconciliationTolerancePp : K := FloatOps.div (FloatOps.ofInt 1) (FloatOps.ofInt 100)

def perDate (series : GroupReturnSeries K) : Dict Date (GroupReturnObservation K) :=
  Dict.ofList (series.observations.map (fun point => (point.observationDate, point)))

def weighedReturn (date : Date) (observations : Dict Date (GroupReturnObservation K)) :
    Except SourceException K :=
  match observations.get? date with
  | some point => .ok (FloatOps.mul point.weightRatio point.returnPp)
  | none => .error (.python (.keyError (texts.repr (.date date))))

def reconciliationBreach (observationsByGroup : List (Dict Date (GroupReturnObservation K)))
    (point : ReturnPoint K) : Except SourceException Bool := do
  let weighed ← observationsByGroup.mapM (weighedReturn texts point.date)
  .ok (OrderedFloatOps.lt reconciliationTolerancePp
    (OrderedFloatOps.abs (FloatOps.sub (FloatOps.sum weighed) point.value)))

def firstBreach (observationsByGroup : List (Dict Date (GroupReturnObservation K))) :
    List (ReturnPoint K) → Except SourceException (List String)
  | [] => .ok []
  | point :: points => do
    if ← reconciliationBreach texts observationsByGroup point then .ok [flagReconciliationBreach]
    else firstBreach observationsByGroup points

def reconciliationFlags (seriesByGroup : Dict String (GroupReturnSeries K))
    (portfolioReturns : List (ReturnPoint K)) : Except SourceException (List String) :=
  firstBreach texts (seriesByGroup.items.map (fun group => perDate group.2)) portfolioReturns

/-- Only evidence without a flag is reconciled. -/
def breachFlags (seriesByGroup : Dict String (GroupReturnSeries K)) (flags : List String)
    (portfolioReturns : List (ReturnPoint K)) : Except SourceException (List String) :=
  if flags.isEmpty then reconciliationFlags texts seriesByGroup portfolioReturns else .ok []

/-- The flags of the collected evidence, the reconciliation left out. -/
def coverageFlags (seriesByGroup : Dict String (GroupReturnSeries K)) (flags : List String)
    (windowDates : List Date) : List String :=
  (if seriesByGroup.items.isEmpty && flags.isEmpty then [flagPeriodMissing] else flags) ++
    calendarFlags seriesByGroup (windowDates.insertionSort (· ≤ ·))

def parseGroupEvidence (response : List (String × PyValue K))
    (groupingDimension : GroupingDimension) (dimensionField : String)
    (expectedCurrency : Option String) (portfolioReturns : List (ReturnPoint K))
    (periodStart periodEnd : Date) (expectedGroupKeyBySourceKey : Dict String String) :
    Except SourceException (GroupEvidencePack K) := do
  let expectedGroupKeys :=
    (expectedGroupKeyBySourceKey.items.map Prod.snd).dedup.insertionSort (· ≤ ·)
  match ← extractPeriodRows malformed texts response dimensionField with
  | none => .ok ⟨groupingDimension, Table.empty, [flagPeriodMissing], expectedGroupKeys⟩
  | some rows => do
    let windowDates := (portfolioReturns.map (fun point => point.date)).dedup
    let collected ← collectRowEvidence texts windowDates periodStart periodEnd dimensionField
      expectedCurrency expectedGroupKeyBySourceKey rows
    let currencies := (collected.1.items.map (fun group => group.2.currency)).dedup
    let declared := texts.repr
      (.list ((currencies.insertionSort (· ≤ ·)).map PyValue.str))
    if 1 < currencies.length then
      .error (malformed s!"mixed group evidence currencies {declared}")
    else do
      let flags := coverageFlags collected.1 collected.2 windowDates
      let breach ← breachFlags texts collected.1 flags portfolioReturns
      .ok ⟨groupingDimension, collected.1, (flags ++ breach).eraseDups, expectedGroupKeys⟩

end Pack

end LotusRisk
