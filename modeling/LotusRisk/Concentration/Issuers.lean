import LotusRisk.Concentration.Exposures
import LotusRisk.Lib.Dict
import LotusRisk.Upstream

/-! The current and the projected positions of a portfolio, and the issuers they are grouped by. -/

namespace LotusRisk
set_option autoImplicit true

open Relational

section Inputs

inductive IssuerGroupingLevel where
  | legalIssuer
  | ultimateParent
deriving DecidableEq, Repr

inductive EnrichmentPolicy where
  | useCallerOnly
  | mergeCallerThenCore
  | coreOnly
deriving DecidableEq, Repr

structure CurrentPosition where
  securityId : String
  securityName : Option String
  quantity : Option (PyNumber ℚ)
  marketValueBase : Option (PyNumber ℚ)
  issuerId : Option String
  ultimateParentIssuerId : Option String

structure ProjectedPosition where
  securityId : String
  securityName : Option String
  proposedQuantity : Option (PyNumber ℚ)
  projectedMarketValueBase : Option (PyNumber ℚ)
  issuerId : Option String
  ultimateParentIssuerId : Option String

inductive StatelessExposureBasis where
  | marketValueBase
  | quantityProxy
deriving DecidableEq, Repr

/-- `_state_exposure_basis`, of the market values and the quantities of the rows. -/
def stateExposureBasis (rows : List (Option (PyNumber ℚ) × Option (PyNumber ℚ)))
    (stateName : String) : Except PyException (Option StatelessExposureBasis) :=
  if rows.isEmpty then .ok none
  else if rows.any (fun row => row.1.isSome) then
    if rows.all (fun row => row.1.isSome) then .ok (some .marketValueBase)
    else .error (.valueError
      s!"{stateName} positions cannot mix market-value and quantity exposure bases")
  else if rows.all (fun row => row.2.isSome) then .ok (some .quantityProxy)
  else .error (.valueError
    s!"{stateName} positions require every row to provide market value or quantity")

def statelessExposureBasis (currentPositions : List CurrentPosition)
    (projectedPositions : List ProjectedPosition) :
    Except PyException (Option StatelessExposureBasis) := do
  let currentBasis ← stateExposureBasis (currentPositions.map fun position =>
    (position.marketValueBase, position.quantity)) "current"
  let projectedBasis ← stateExposureBasis (projectedPositions.map fun position =>
    (position.projectedMarketValueBase, position.proposedQuantity)) "projected"
  if currentBasis.isSome && projectedBasis.isSome && decide (currentBasis ≠ projectedBasis) then
    .error (.valueError "current and projected positions must use the same exposure basis")
  else .ok (currentBasis.or projectedBasis)

/-- A validated input. The projection may be left out, which is not the same as an empty one. -/
structure StatelessConcentrationInput where
  currentPositions : List CurrentPosition
  projectedPositions : Option (List ProjectedPosition)
  topN : Nat
  topN_bounds : 1 ≤ topN ∧ topN ≤ 100
  exposureBasis : Option StatelessExposureBasis
  exposureBasis_eq :
    statelessExposureBasis currentPositions (projectedPositions.getD []) = .ok exposureBasis

structure ConcentrationRequest where
  statelessInput : StatelessConcentrationInput
  issuerGroupingLevel : IssuerGroupingLevel
  enrichmentPolicy : EnrichmentPolicy

end Inputs

section Rows

variable {F : Type} [ExposureFloat F]

structure PositionEntry (F : Type) where
  securityId : Option String
  securityName : Option String
  value : F
deriving DecidableEq

/-- `_to_decimal` of a float; only a positive number is a value. -/
def toDecimal : Option (PyNumber ℚ) → Option ℚ
  | some (.finite x) => if 0 < x then some x else none
  | _ => none

def currentRow (basis : Option StatelessExposureBasis) (position : CurrentPosition) :
    Option (PositionEntry F) :=
  (toDecimal (if basis = some .marketValueBase then position.marketValueBase
    else position.quantity)).map fun candidate =>
      ⟨some position.securityId, position.securityName, toExposureValue candidate⟩

def proposedRow (basis : Option StatelessExposureBasis) (position : ProjectedPosition) :
    Option (PositionEntry F) :=
  (toDecimal (if basis = some .marketValueBase then position.projectedMarketValueBase
    else position.proposedQuantity)).map fun candidate =>
      ⟨some position.securityId, position.securityName, toExposureValue candidate⟩

/-- `_extract_values_from_stateless_payload`. -/
def extractValuesFromStatelessPayload (payload : StatelessConcentrationInput) :
    List (PositionEntry F) × List (PositionEntry F) :=
  (payload.currentPositions.filterMap (currentRow payload.exposureBasis),
    (payload.projectedPositions.getD []).filterMap (proposedRow payload.exposureBasis))

end Rows

section Issuers

structure IssuerIdentity where
  issuerId : String
  issuerName : Option String
deriving DecidableEq

/-- `a or b` of two optional texts. -/
def orText (a b : Option String) : Option String :=
  if a = none ∨ a = some "" then b else a

/-- `_issuer_key_from_position`. -/
def issuerKeyFromPosition (issuerId issuerName ultimateParentIssuerId
    ultimateParentIssuerName : Option String) (groupingLevel : IssuerGroupingLevel) :
    Option IssuerIdentity :=
  let resolvedId := match groupingLevel with
    | .ultimateParent => orText ultimateParentIssuerId issuerId
    | .legalIssuer => issuerId
  let resolvedName := match groupingLevel with
    | .ultimateParent => orText ultimateParentIssuerName issuerName
    | .legalIssuer => issuerName
  match resolvedId with
  | some text => if text = "" then none else some ⟨text, resolvedName⟩
  | none => none

/-- `_issuer_map_from_positions`, of the security, the issuer and the parent of each position. -/
def issuerMapFromPositions (positions : List (String × Option String × Option String))
    (groupingLevel : IssuerGroupingLevel) : Dict String IssuerIdentity :=
  Dict.ofList (positions.filterMap fun position =>
    (issuerKeyFromPosition position.2.1 none position.2.2 none groupingLevel).map
      fun issuerKey => (position.1, issuerKey))

/-- The baseline issuers, and those with the rows of the projection written over them. -/
def statelessCallerIssuerMaps (request : ConcentrationRequest) :
    Dict String IssuerIdentity × Dict String IssuerIdentity :=
  let currentMap := issuerMapFromPositions (request.statelessInput.currentPositions.map
    fun p => (p.securityId, p.issuerId, p.ultimateParentIssuerId)) request.issuerGroupingLevel
  let projected := issuerMapFromPositions ((request.statelessInput.projectedPositions.getD []).map
    fun p => (p.securityId, p.issuerId, p.ultimateParentIssuerId)) request.issuerGroupingLevel
  (currentMap, currentMap.update projected)

/-- `_as_str`. -/
def asStr : PyValue ℚ → Option String
  | .str s => some s
  | _ => none

/-- What a record of the enrichment says, and of which security. -/
def coreRecordIssuer (groupingLevel : IssuerGroupingLevel) (record : PyValue ℚ) :
    Option (String × IssuerIdentity) :=
  match record with
  | .dict entries =>
    match asStr (getEntry entries "security_id") with
    | some securityId =>
      if securityId = "" then none
      else (issuerKeyFromPosition (asStr (getEntry entries "issuer_id"))
        (asStr (getEntry entries "issuer_name"))
        (asStr (getEntry entries "ultimate_parent_issuer_id"))
        (asStr (getEntry entries "ultimate_parent_issuer_name")) groupingLevel).map
          fun issuer => (securityId, issuer)
    | none => none
  | _ => none

def issuerMapFromCoreRecords (records : List (PyValue ℚ)) (groupingLevel : IssuerGroupingLevel) :
    Dict String IssuerIdentity :=
  Dict.ofList (records.filterMap (coreRecordIssuer groupingLevel))

/-- `get_instrument_enrichment`; `none` is a `ValueError`, which every failure of it is. -/
abbrev EnrichmentClient := List String → Option (List (String × PyValue ℚ))

def statelessSecurityIds (rows : List (PositionEntry F)) : List String :=
  ((rows.filterMap PositionEntry.securityId).dedup).insertionSort (· ≤ ·)

def enrichmentRecords (payload : Option (List (String × PyValue ℚ))) : Option (List (PyValue ℚ)) :=
  payload.bind fun entries =>
    match getEntry entries "records" with
    | .list records => some records
    | _ => none

def statelessCoreIssuerMap (request : ConcentrationRequest) (rows : List (PositionEntry F))
    (coreClient : Option EnrichmentClient) : Dict String IssuerIdentity × Option String :=
  match request.enrichmentPolicy, coreClient with
  | .useCallerOnly, _ => (Table.empty, none)
  | _, none => (Table.empty, none)
  | _, some getInstrumentEnrichment =>
    let securityIds := statelessSecurityIds rows
    if securityIds.isEmpty then (Table.empty, none)
    else
      match getInstrumentEnrichment securityIds with
      | none => (Table.empty, some "lotus-core enrichment unavailable for stateless issuer mapping")
      | some payload =>
        match enrichmentRecords (some payload) with
        | none => (Table.empty, some "lotus-core enrichment payload missing records list")
        | some records => (issuerMapFromCoreRecords records request.issuerGroupingLevel, none)

/-- `_merge_issuer_maps`. -/
def mergeIssuerMaps (callerMap coreMap : Dict String IssuerIdentity) :
    EnrichmentPolicy → Dict String IssuerIdentity
  | .useCallerOnly => callerMap
  | .coreOnly => coreMap
  | .mergeCallerThenCore => coreMap.update callerMap

structure StatelessIssuerMaps where
  current : Dict String IssuerIdentity
  proposed : Dict String IssuerIdentity
  issuerNote : Option String

def statelessIssuerMaps (request : ConcentrationRequest) (rows : List (PositionEntry F))
    (coreClient : Option EnrichmentClient) : StatelessIssuerMaps :=
  let core := statelessCoreIssuerMap request rows coreClient
  let caller := statelessCallerIssuerMaps request
  { current := mergeIssuerMaps caller.1 core.1 request.enrichmentPolicy
    proposed := mergeIssuerMaps caller.2 core.1 request.enrichmentPolicy
    issuerNote := core.2 }

end Issuers

section Weighting

variable {F : Type} [ExposureFloat F]

structure IssuerEntry (F : Type) where
  issuerId : Option String
  issuerName : Option String
  value : F
deriving DecidableEq

/-- The variables of `_to_weighted_values`. -/
structure IssuerTally (F : Type) where
  issuerTotals : Dict String (IssuerEntry F)
  covered : Nat
  total : Nat

/-- The issuer of a row; an empty security id has none. -/
def issuerOfRow (issuerBySecurity : Dict String IssuerIdentity) (row : PositionEntry F) :
    Option IssuerIdentity :=
  row.securityId.bind fun securityId =>
    if securityId = "" then none else issuerBySecurity.get? securityId

def weighRow (issuerBySecurity : Dict String IssuerIdentity) (tally : IssuerTally F)
    (row : PositionEntry F) : IssuerTally F :=
  match issuerOfRow issuerBySecurity row with
  | none => { tally with total := tally.total + 1 }
  | some issuer =>
    let entry := match tally.issuerTotals.get? issuer.issuerId with
      | none => ⟨some issuer.issuerId, issuer.issuerName, row.value⟩
      | some existing => { existing with value := PyFloat.add existing.value row.value }
    { issuerTotals := tally.issuerTotals.set issuer.issuerId entry
      covered := tally.covered + 1
      total := tally.total + 1 }

/-- `_to_weighted_values`; the rows are returned as they are. -/
def toWeightedValues (rows : List (PositionEntry F)) (issuerBySecurity : Dict String IssuerIdentity) :
    IssuerTally F :=
  rows.foldl (weighRow issuerBySecurity) ⟨Table.empty, 0, 0⟩

def IssuerTally.issuers (tally : IssuerTally F) : List (IssuerEntry F) :=
  tally.issuerTotals.items.map Prod.snd

/-- `ConcentrationComputationInput`, as the stateless resolver fills it. -/
structure ConcentrationComputationInput (F : Type) where
  currentPositions : List (PositionEntry F)
  proposedPositions : List (PositionEntry F)
  topN : Nat
  currentIssuers : List (IssuerEntry F)
  proposedIssuers : List (IssuerEntry F)
  coveredPositionCountCurrent : Nat
  coveredPositionCountProposed : Nat
  totalPositionCountCurrent : Nat
  totalPositionCountProposed : Nat
  useCurrentStateWhenProposedEmpty : Bool
  issuerNote : Option String

def issuerNoteOf (issuerNote : Option String) (current proposed : IssuerTally F) : Option String :=
  if issuerNote = none ∧ (0 < current.total ∨ 0 < proposed.total) ∧
      current.covered = 0 ∧ proposed.covered = 0 then
    some "issuer mapping unavailable for stateless payload"
  else issuerNote

def resolveStateless (request : ConcentrationRequest) (coreClient : Option EnrichmentClient) :
    ConcentrationComputationInput F :=
  let rows : List (PositionEntry F) × List (PositionEntry F) :=
    extractValuesFromStatelessPayload request.statelessInput
  let maps := statelessIssuerMaps request (rows.1 ++ rows.2) coreClient
  let current := toWeightedValues rows.1 maps.current
  let proposed := toWeightedValues rows.2 maps.proposed
  let projectionSupplied := request.statelessInput.projectedPositions.isSome
  { currentPositions := rows.1
    proposedPositions := if projectionSupplied then rows.2 else rows.1
    topN := request.statelessInput.topN
    currentIssuers := current.issuers
    proposedIssuers := if projectionSupplied then proposed.issuers else current.issuers
    coveredPositionCountCurrent := current.covered
    coveredPositionCountProposed := if projectionSupplied then proposed.covered else current.covered
    totalPositionCountCurrent := current.total
    totalPositionCountProposed := if projectionSupplied then proposed.total else current.total
    useCurrentStateWhenProposedEmpty := !projectionSupplied
    issuerNote := issuerNoteOf maps.issuerNote current proposed }

end Weighting

end LotusRisk
