import LotusRisk.Concentration.Metrics
import LotusRisk.Concentration.Snapshot
import LotusRisk.Risk.StatefulRequest

/-! What is read from a portfolio snapshot of the core, in the stateful and the simulation mode. -/

namespace LotusRisk
set_option autoImplicit true

open Relational

section Inputs

structure IssuerMappingInput where
  securityId : String
  issuerId : Option String
  issuerName : Option String
  ultimateParentIssuerId : Option String
  ultimateParentIssuerName : Option String
deriving DecidableEq

structure StatefulConcentrationInput where
  portfolioId : String
  asOfDate : Date
  reportingCurrency : Option String
  includeCashPositions : Bool
  includeZeroQuantityPositions : Bool
  topN : Nat
  issuerMappings : List IssuerMappingInput
  topN_bounds : 1 ≤ topN ∧ topN ≤ 100

/-- How the issuers of a request are grouped and enriched. -/
structure IssuerPolicy where
  groupingLevel : IssuerGroupingLevel
  enrichmentPolicy : EnrichmentPolicy
deriving DecidableEq

end Inputs

section Issuers

/-- `_issuer_key_from_mapping`. -/
def issuerKeyFromMapping (mapping : IssuerMappingInput) (groupingLevel : IssuerGroupingLevel) :
    Option IssuerIdentity :=
  issuerKeyFromPosition mapping.issuerId mapping.issuerName mapping.ultimateParentIssuerId
    mapping.ultimateParentIssuerName groupingLevel

/-- `_caller_issuer_map`. -/
def callerIssuerMap (mappings : List IssuerMappingInput) (groupingLevel : IssuerGroupingLevel) :
    Dict String IssuerIdentity :=
  Dict.ofList (mappings.filterMap fun mapping =>
    (issuerKeyFromMapping mapping groupingLevel).map fun issuer => (mapping.securityId, issuer))

/-- `_extract_issuer_map`; its rows are read as the enrichment records are. -/
def extractIssuerMap (sections : List (String × PyValue ℚ)) (groupingLevel : IssuerGroupingLevel) :
    Dict String IssuerIdentity × Option String :=
  match getEntry sections "instrument_enrichment" with
  | .list enrichment =>
    let issuerBySecurity := issuerMapFromCoreRecords enrichment groupingLevel
    if issuerBySecurity.keys.isEmpty then
      (Table.empty, some "issuer_id missing in lotus-core instrument_enrichment")
    else (issuerBySecurity, none)
  | _ => (Table.empty, some "instrument_enrichment missing from lotus-core snapshot")

/-- The name that a row of the enrichment gives a security. -/
def enrichmentName (row : PyValue ℚ) : Option (String × String) :=
  match row with
  | .dict entries =>
    match asStr (getEntry entries "security_id"), asStr (getEntry entries "instrument_name") with
    | some securityId, some instrumentName =>
      if securityId = "" ∨ instrumentName = "" then none else some (securityId, instrumentName)
    | _, _ => none
  | _ => none

def securityNamesFromEnrichment (enrichment : List (PyValue ℚ)) : Dict String String :=
  Dict.ofList (enrichment.filterMap enrichmentName)

/-- One row of `apply_display_names_to_rows`. -/
def applyDisplayName (securityNames : Dict String String) (row : PyValue ℚ) : PyValue ℚ :=
  match row with
  | .dict entries =>
    match (asStr (getEntry entries "security_id")).bind fun securityId =>
        if securityId = "" then none else securityNames.get? securityId with
    | some name =>
      if (entries.lookup "instrument_name").isSome then .dict entries
      else .dict (entries ++ [("instrument_name", .str name)])
    | none => .dict entries
  | row => row

/-- A section of positions after `apply_snapshot_display_names`. -/
def namedPositions (sections : List (String × PyValue ℚ)) (sectionName : String) : PyValue ℚ :=
  match getEntry sections "instrument_enrichment", getEntry sections sectionName with
  | .list enrichment, .list positions =>
    .list (positions.map (applyDisplayName (securityNamesFromEnrichment enrichment)))
  | _, positions => positions

def snapshotIssuerMap (policy : IssuerPolicy) (sections : List (String × PyValue ℚ))
    (issuerMappings : List IssuerMappingInput) : Dict String IssuerIdentity × Option String :=
  let core := extractIssuerMap sections policy.groupingLevel
  (mergeIssuerMaps (callerIssuerMap issuerMappings policy.groupingLevel) core.1
    policy.enrichmentPolicy, core.2)

end Issuers

section States

variable {F : Type} [ExposureFloat F] (texts : PyTexts ℚ)

/-- The rows that are iterated over; what is false has none. -/
def iterableRows (positions : PyValue ℚ) : Except PyException (List (PyValue ℚ)) :=
  if positions.truthy then
    match positions with
    | .list rows => .ok rows
    | .dict _ | .str _ => .error (.typeError "invalid_position_row")
    | .bool _ => .error (.typeError "'bool' object is not iterable")
    | .int _ => .error (.typeError "'int' object is not iterable")
    | .float _ => .error (.typeError "'float' object is not iterable")
    | .date _ => .error (.typeError "'datetime.date' object is not iterable")
    | .none => .ok []
  else .ok []

/-- The positions of a section and their issuers. -/
def sectionValues (positions : PyValue ℚ) (issuerBySecurity : Dict String IssuerIdentity) :
    Except PyException (List (PositionEntry F) × IssuerTally F) := do
  let rows ← iterableRows positions
  extractValuesWithIssuerFromSnapshot texts (some rows) issuerBySecurity

inductive SnapshotMode where
  | baseline
  | simulation
deriving DecidableEq, Repr

def SnapshotMode.text : SnapshotMode → String
  | .baseline => "BASELINE"
  | .simulation => "SIMULATION"

/-- `snapshot_mode.lower()`. -/
def SnapshotMode.lower : SnapshotMode → String
  | .baseline => "baseline"
  | .simulation => "simulation"

def invalidCoreSnapshotPayload (snapshotMode : SnapshotMode) (reason : String) :
    UpstreamServiceError :=
  invalidUpstreamPayload "lotus-core" lotusCoreSnapshotOperation
    s!"lotus-core concentration {snapshotMode.lower} snapshot returned invalid response payload"
    [("snapshot_mode", snapshotMode.text), ("reason", reason)]

/-- `except (TypeError, ValueError) as error`. -/
def asInvalidSnapshot (snapshotMode : SnapshotMode) (result : Except PyException α) :
    Except SourceException α :=
  match result with
  | .ok value => .ok value
  | .error (.typeError reason) | .error (.valueError reason) =>
    .error (.upstream (invalidCoreSnapshotPayload snapshotMode reason))
  | .error e => .error (.python e)

structure ConcentrationValuationContext where
  portfolioCurrency : Option String
  reportingCurrency : Option String
  positionBasis : Option String
  weightBasis : Option String
deriving DecidableEq

/-- `_market_value_valuation_context`. -/
def marketValueValuationContext : PyValue ℚ → Option ConcentrationValuationContext
  | .dict context => some {
      portfolioCurrency := asStr (getEntry context "portfolio_currency")
      reportingCurrency := asStr (getEntry context "reporting_currency")
      positionBasis := some "market_value_base"
      weightBasis := some "total_market_value_base" }
  | _ => none

/-- `sections = snapshot.get("sections")`. -/
def snapshotSections (snapshotMode : SnapshotMode) (snapshot : List (String × PyValue ℚ)) :
    Except SourceException (List (String × PyValue ℚ)) :=
  match getEntry snapshot "sections" with
  | .dict sections => .ok sections
  | _ => .error (.upstream (invalidCoreSnapshotPayload snapshotMode "missing_sections"))

/-- What a snapshot is computed from, beside its metadata. -/
structure SnapshotComputation (F : Type) where
  input : ConcentrationComputationInput F
  valuationContext : Option ConcentrationValuationContext

/-- `stateful_baseline_values` and `_stateful_computation_input` of a snapshot. -/
def statefulComputation (policy : IssuerPolicy) (stateful : StatefulConcentrationInput)
    (snapshot : List (String × PyValue ℚ)) : Except SourceException (SnapshotComputation F) := do
  let sections ← snapshotSections .baseline snapshot
  let issuers := snapshotIssuerMap policy sections stateful.issuerMappings
  let baseline : List (PositionEntry F) × IssuerTally F ← asInvalidSnapshot .baseline
    (sectionValues texts (namedPositions sections "positions_baseline") issuers.1)
  .ok {
    input := {
      currentPositions := baseline.1
      proposedPositions := baseline.1
      topN := stateful.topN
      currentIssuers := baseline.2.issuers
      proposedIssuers := baseline.2.issuers
      coveredPositionCountCurrent := baseline.2.covered
      coveredPositionCountProposed := baseline.2.covered
      totalPositionCountCurrent := baseline.2.total
      totalPositionCountProposed := baseline.2.total
      useCurrentStateWhenProposedEmpty := true
      issuerNote := issuers.2 }
    valuationContext := marketValueValuationContext (getEntry snapshot "valuation_context") }

/-- `raw_projected_positions`, which must be a list. -/
def projectedSection (sections : List (String × PyValue ℚ)) :
    Except SourceException (PyValue ℚ) :=
  match sections.lookup "positions_projected" with
  | none => .error (.upstream
      (invalidCoreSnapshotPayload .simulation "missing_positions_projected"))
  | some (.list _) => .ok (namedPositions sections "positions_projected")
  | some _ => .error (.upstream
      (invalidCoreSnapshotPayload .simulation "invalid_positions_projected"))

/-- `issuer_map_from_snapshot_sections`, `simulation_snapshot_state` and
`_simulation_computation_input` of a snapshot. -/
def simulationComputation (policy : IssuerPolicy) (simulation : StatefulConcentrationInput)
    (snapshot : List (String × PyValue ℚ)) : Except SourceException (SnapshotComputation F) := do
  let sections ← snapshotSections .simulation snapshot
  let issuers := snapshotIssuerMap policy sections simulation.issuerMappings
  let rawProjectedPositions ← projectedSection sections
  let baseline ← asInvalidSnapshot .simulation
    (sectionValues texts (namedPositions sections "positions_baseline") issuers.1)
  let projected ← asInvalidSnapshot .simulation
    (sectionValues texts rawProjectedPositions issuers.1)
  .ok {
    input := {
      currentPositions := baseline.1
      proposedPositions := projected.1
      topN := simulation.topN
      currentIssuers := baseline.2.issuers
      proposedIssuers := projected.2.issuers
      coveredPositionCountCurrent := baseline.2.covered
      coveredPositionCountProposed := projected.2.covered
      totalPositionCountCurrent := baseline.2.total
      totalPositionCountProposed := projected.2.total
      useCurrentStateWhenProposedEmpty := false
      issuerNote := issuers.2 }
    valuationContext := marketValueValuationContext (getEntry snapshot "valuation_context") }

end States

end LotusRisk
