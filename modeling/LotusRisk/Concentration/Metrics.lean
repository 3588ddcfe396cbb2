import LotusRisk.Concentration.Issuers

/-! How concentrated a portfolio is, in its current state and in the proposed one. -/

namespace LotusRisk
set_option autoImplicit true

open Relational

section Drivers

variable {F : Type} [ExposureFloat F]

structure TopPositionDriver (F : Type) where
  securityId : Option String
  securityName : Option String
  weight : F
deriving DecidableEq

structure TopIssuerDriver (F : Type) where
  issuerId : Option String
  issuerName : Option String
  weight : F
deriving DecidableEq

/-- `_top_position_driver`; of equal exposures the greater security id leads. -/
def topPositionDriver (entries : List (PositionEntry F)) : TopPositionDriver F :=
  let total := exposureTotal (entries.map PositionEntry.value)
  let top := topEntry (fun entry => (PyFloat.abs entry.value, entry.securityId.getD "")) entries
  match top with
  | some entry =>
    if PyFloat.le total PyFloat.zero then ⟨none, none, PyFloat.zero⟩
    else ⟨entry.securityId, entry.securityName, PyFloat.round6 (shareOf total entry.value)⟩
  | none => ⟨none, none, PyFloat.zero⟩

/-- `_top_issuer_driver`. -/
def topIssuerDriver (entries : List (IssuerEntry F)) : TopIssuerDriver F :=
  let total := exposureTotal (entries.map IssuerEntry.value)
  let top := topEntry (fun entry => (PyFloat.abs entry.value, entry.issuerId.getD "")) entries
  match top with
  | some entry =>
    if PyFloat.le total PyFloat.zero then ⟨none, none, PyFloat.zero⟩
    else ⟨entry.issuerId, entry.issuerName, PyFloat.round6 (shareOf total entry.value)⟩
  | none => ⟨none, none, PyFloat.zero⟩

end Drivers

section Metrics

variable {F : Type} [ExposureFloat F]

structure PositionConcentrationMetrics (F : Type) where
  hhiCurrent : F
  hhiProposed : F
  topCurrent : F
  topProposed : F
  topNCurrent : F
  topNProposed : F
  driverCurrent : TopPositionDriver F
  driverProposed : TopPositionDriver F

inductive IssuerCoverageStatus where
  | complete
  | partialCoverage
  | unavailable
deriving DecidableEq, Repr

structure IssuerConcentrationMetrics (F : Type) where
  hhiCurrent : F
  hhiProposed : F
  topCurrent : F
  topProposed : F
  driverCurrent : TopIssuerDriver F
  driverProposed : TopIssuerDriver F
  coverageStatus : IssuerCoverageStatus

def issuerCoverageStatus (payload : ConcentrationComputationInput F) : IssuerCoverageStatus :=
  if payload.totalPositionCountCurrent = 0 ∧ payload.totalPositionCountProposed = 0 then
    .unavailable
  else if payload.coveredPositionCountCurrent = payload.totalPositionCountCurrent ∧
      payload.coveredPositionCountProposed = payload.totalPositionCountProposed then .complete
  else if 0 < payload.coveredPositionCountCurrent ∨ 0 < payload.coveredPositionCountProposed then
    .partialCoverage
  else .unavailable

def positionMetrics (payload : ConcentrationComputationInput F) : PositionConcentrationMetrics F :=
  let currentValues := payload.currentPositions.map PositionEntry.value
  let proposedValues := payload.proposedPositions.map PositionEntry.value
  let fallbackToCurrent := payload.useCurrentStateWhenProposedEmpty && proposedValues.isEmpty
  let currentTop := singlePositionMetrics currentValues payload.topN
  let proposedTop := if fallbackToCurrent then currentTop
    else singlePositionMetrics proposedValues payload.topN
  { hhiCurrent := computeHhi currentValues
    hhiProposed := if fallbackToCurrent then computeHhi currentValues else computeHhi proposedValues
    topCurrent := currentTop.1
    topProposed := proposedTop.1
    topNCurrent := currentTop.2
    topNProposed := proposedTop.2
    driverCurrent := topPositionDriver payload.currentPositions
    driverProposed := if fallbackToCurrent then topPositionDriver payload.currentPositions
      else topPositionDriver payload.proposedPositions }

def issuerMetrics (payload : ConcentrationComputationInput F) : IssuerConcentrationMetrics F :=
  let currentValues := payload.currentIssuers.map IssuerEntry.value
  let proposedValues := payload.proposedIssuers.map IssuerEntry.value
  let fallbackToCurrent := payload.useCurrentStateWhenProposedEmpty && proposedValues.isEmpty
  let currentTop := (singlePositionMetrics currentValues 1).1
  { hhiCurrent := computeHhi currentValues
    hhiProposed := if fallbackToCurrent then computeHhi currentValues else computeHhi proposedValues
    topCurrent := currentTop
    topProposed := if fallbackToCurrent then currentTop
      else (singlePositionMetrics proposedValues 1).1
    driverCurrent := topIssuerDriver payload.currentIssuers
    driverProposed := if fallbackToCurrent then topIssuerDriver payload.currentIssuers
      else topIssuerDriver payload.proposedIssuers
    coverageStatus := issuerCoverageStatus payload }

end Metrics

section Response

variable {F : Type} [ExposureFloat F]

structure ConcentrationRiskProxy (F : Type) where
  hhiCurrent : F
  hhiProposed : F
  hhiDelta : F

structure SinglePositionConcentration (F : Type) where
  topPositionWeightCurrent : F
  topPositionWeightProposed : F
  topPositionWeightDelta : F
  topNCumulativeWeightCurrent : F
  topNCumulativeWeightProposed : F
  topNCumulativeWeightDelta : F
  topN : Nat
  topPositionCurrent : TopPositionDriver F
  topPositionProposed : TopPositionDriver F

structure IssuerConcentration (F : Type) where
  hhiCurrent : F
  hhiProposed : F
  hhiDelta : F
  topIssuerWeightCurrent : F
  topIssuerWeightProposed : F
  topIssuerWeightDelta : F
  coverageStatus : IssuerCoverageStatus
  coveredPositionCountCurrent : Nat
  coveredPositionCountProposed : Nat
  totalPositionCountCurrent : Nat
  totalPositionCountProposed : Nat
  uncoveredPositionCountCurrent : Nat
  uncoveredPositionCountProposed : Nat
  coverageRatioCurrent : F
  coverageRatioProposed : F
  note : Option String
  topIssuerCurrent : TopIssuerDriver F
  topIssuerProposed : TopIssuerDriver F

structure ConcentrationResponse (F : Type) where
  riskProxy : ConcentrationRiskProxy F
  singlePositionConcentration : SinglePositionConcentration F
  issuerConcentration : IssuerConcentration F

/-- `_risk_proxy`. -/
def concentrationRiskProxy (metrics : PositionConcentrationMetrics F) : ConcentrationRiskProxy F where
  hhiCurrent := PyFloat.round6 metrics.hhiCurrent
  hhiProposed := PyFloat.round6 metrics.hhiProposed
  hhiDelta := PyFloat.round6 (PyFloat.sub metrics.hhiProposed metrics.hhiCurrent)

/-- `_single_position_concentration`. -/
def singlePositionConcentration (payload : ConcentrationComputationInput F)
    (metrics : PositionConcentrationMetrics F) : SinglePositionConcentration F where
  topPositionWeightCurrent := PyFloat.round6 metrics.topCurrent
  topPositionWeightProposed := PyFloat.round6 metrics.topProposed
  topPositionWeightDelta := PyFloat.round6 (PyFloat.sub metrics.topProposed metrics.topCurrent)
  topNCumulativeWeightCurrent := PyFloat.round6 metrics.topNCurrent
  topNCumulativeWeightProposed := PyFloat.round6 metrics.topNProposed
  topNCumulativeWeightDelta := PyFloat.round6 (PyFloat.sub metrics.topNProposed metrics.topNCurrent)
  topN := payload.topN
  topPositionCurrent := metrics.driverCurrent
  topPositionProposed := metrics.driverProposed

/-- `_issuer_concentration`. -/
def issuerConcentration (payload : ConcentrationComputationInput F)
    (metrics : IssuerConcentrationMetrics F) : IssuerConcentration F where
  hhiCurrent := PyFloat.round6 metrics.hhiCurrent
  hhiProposed := PyFloat.round6 metrics.hhiProposed
  hhiDelta := PyFloat.round6 (PyFloat.sub metrics.hhiProposed metrics.hhiCurrent)
  topIssuerWeightCurrent := PyFloat.round6 metrics.topCurrent
  topIssuerWeightProposed := PyFloat.round6 metrics.topProposed
  topIssuerWeightDelta := PyFloat.round6 (PyFloat.sub metrics.topProposed metrics.topCurrent)
  coverageStatus := metrics.coverageStatus
  coveredPositionCountCurrent := payload.coveredPositionCountCurrent
  coveredPositionCountProposed := payload.coveredPositionCountProposed
  totalPositionCountCurrent := payload.totalPositionCountCurrent
  totalPositionCountProposed := payload.totalPositionCountProposed
  uncoveredPositionCountCurrent :=
    payload.totalPositionCountCurrent - payload.coveredPositionCountCurrent
  uncoveredPositionCountProposed :=
    payload.totalPositionCountProposed - payload.coveredPositionCountProposed
  coverageRatioCurrent :=
    coverageRatio payload.coveredPositionCountCurrent payload.totalPositionCountCurrent
  coverageRatioProposed :=
    coverageRatio payload.coveredPositionCountProposed payload.totalPositionCountProposed
  note := payload.issuerNote
  topIssuerCurrent := metrics.driverCurrent
  topIssuerProposed := metrics.driverProposed

/-- `_build_response`, its metadata left out. -/
def buildConcentrationResponse (payload : ConcentrationComputationInput F) :
    ConcentrationResponse F where
  riskProxy := concentrationRiskProxy (positionMetrics payload)
  singlePositionConcentration := singlePositionConcentration payload (positionMetrics payload)
  issuerConcentration := issuerConcentration payload (issuerMetrics payload)

/-- `calculate_concentration` of a stateless request. -/
def calculateConcentration (request : ConcentrationRequest)
    (coreClient : Option EnrichmentClient) : ConcentrationResponse F :=
  buildConcentrationResponse (resolveStateless request coreClient)

end Response

end LotusRisk
