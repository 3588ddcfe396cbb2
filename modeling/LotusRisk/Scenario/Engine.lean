import LotusRisk.Lib.Json
import LotusRisk.Scenario.Governance

namespace LotusRisk
open Relational JsonText
set_option autoImplicit true

structure ScenarioPositionContribution (F : Type) where
  securityId : String
  displayName : Option String
  bucket : String
  weight : F
  shockPct : F
  contributionLossPct : F

structure ScenarioResult (F : Type) where
  scenarioId : String
  displayName : String
  expectedLossPct : F
  shockByBucket : Dict String F
  positionContributions : List (ScenarioPositionContribution F)

/-- The metadata fields the engine sets; the others are the defaults of their class. -/
structure ScenarioEvaluationMetadata where
  requestFingerprint : String
  calculationSupportability : ScenarioSupportabilityState

structure RegimeScenarioPackResponse (F : Type) where
  scenarioPackId : String
  portfolioId : Option String
  asOfDate : Date
  worstCaseLossPct : F
  maximumAllowedLossPct : F
  breach : Bool
  scenarioResults : List (ScenarioResult F)
  governanceEvidence : ScenarioPackGovernanceEvidence
  reasonCodes : List String
  metadata : ScenarioEvaluationMetadata

variable [PyFloat F] [PyText]

section ModelDump

def optionalStr : Option String → Json
  | none => .null
  | some s => .str s

def floatJson (x : F) : Json := .float (PyFloat.repr x)

def ScenarioExposure.modelDump (exposure : ScenarioExposure F) : Json :=
  .obj [("bucket", .str exposure.bucket), ("weight", floatJson exposure.weight)]

def ScenarioExposureComponent.modelDump (component : ScenarioExposureComponent F) : Json :=
  .obj [("security_id", .str component.securityId),
    ("display_name", optionalStr component.displayName),
    ("bucket", .str component.bucket), ("weight", floatJson component.weight)]

/-- `request.model_dump(mode="json")`, of either request class. -/
def ScenarioEvaluationRequest.modelDump (request : ScenarioEvaluationRequest F) : Json :=
  .obj [("scenario_pack_id", .str request.scenarioPackId),
    ("portfolio_id", optionalStr request.portfolioId),
    ("as_of_date", .str request.asOfDate.isoformat),
    ("exposures", .arr (request.exposures.map (·.modelDump))),
    ("exposure_components", .arr (request.exposureComponents.map (·.modelDump))),
    ("maximum_allowed_loss_pct", floatJson request.maximumAllowedLossPct)]

def ScenarioPositionContribution.modelDump (contribution : ScenarioPositionContribution F) :
    Json :=
  .obj [("security_id", .str contribution.securityId),
    ("display_name", optionalStr contribution.displayName),
    ("bucket", .str contribution.bucket), ("weight", floatJson contribution.weight),
    ("shock_pct", floatJson contribution.shockPct),
    ("contribution_loss_pct", floatJson contribution.contributionLossPct)]

def ScenarioResult.modelDump (result : ScenarioResult F) : Json :=
  .obj [("scenario_id", .str result.scenarioId), ("display_name", .str result.displayName),
    ("expected_loss_pct", floatJson result.expectedLossPct),
    ("shock_by_bucket", .obj (result.shockByBucket.items.map (fun m => (m.1, floatJson m.2)))),
    ("position_contributions", .arr (result.positionContributions.map (·.modelDump)))]

def ScenarioPackGovernanceEvidence.modelDump (evidence : ScenarioPackGovernanceEvidence) : Json :=
  .obj [("cio_approval_status", .str evidence.cioApprovalStatus.value),
    ("cio_approval_ref", .str evidence.cioApprovalRef),
    ("approved_by", .str evidence.approvedBy),
    ("approved_at", .str evidence.approvedAt.isoformat),
    ("effective_from", .str evidence.effectiveFrom.isoformat),
    ("effective_to", .str evidence.effectiveTo.isoformat),
    ("effective_period_status", .str evidence.effectivePeriodStatus.value),
    ("applicability_status", .str evidence.applicabilityStatus.value),
    ("applicability_scope", .arr (evidence.applicabilityScope.map .str)),
    ("portfolio_applicability_ref", optionalStr evidence.portfolioApplicabilityRef),
    ("methodology_ref", .str evidence.methodologyRef)]

def ScenarioEvaluationMetadata.modelDump (metadata : ScenarioEvaluationMetadata) : Json :=
  .obj [("product_name", .str "RegimeScenarioPackEvaluation"), ("product_version", .str "v1"),
    ("source_service", .str "lotus-risk"), ("source_services", .arr [.str "lotus-risk"]),
    ("correlation_id", .null),
    ("lineage_version", .str "risk-regime-scenario-pack-evaluation.v1"),
    ("request_fingerprint", .str metadata.requestFingerprint),
    ("calculation_supportability", .str metadata.calculationSupportability.value)]

def RegimeScenarioPackResponse.modelDump (response : RegimeScenarioPackResponse F) : Json :=
  .obj [("scenario_pack_id", .str response.scenarioPackId),
    ("portfolio_id", optionalStr response.portfolioId),
    ("as_of_date", .str response.asOfDate.isoformat),
    ("worst_case_loss_pct", floatJson response.worstCaseLossPct),
    ("maximum_allowed_loss_pct", floatJson response.maximumAllowedLossPct),
    ("breach", .bool response.breach),
    ("scenario_results", .arr (response.scenarioResults.map (·.modelDump))),
    ("governance_evidence", response.governanceEvidence.modelDump),
    ("reason_codes", .arr (response.reasonCodes.map .str)),
    ("metadata", response.metadata.modelDump)]

end ModelDump

section Evaluation

/-- `Field(ge=0.0)` on an output field. -/
def nonNegativeField (loc : String) (value : F) : List FieldError :=
  if PyFloat.lt value PyFloat.zero then [⟨loc, "greater_than_equal"⟩] else []

/-- Construction of an output row, which pydantic refuses when a field is negative. -/
def ScenarioPositionContribution.validated (row : ScenarioPositionContribution F) :
    Except PyException (ScenarioPositionContribution F) :=
  match nonNegativeField "weight" row.weight ++
      nonNegativeField "contribution_loss_pct" row.contributionLossPct with
  | [] => .ok row
  | errors => .error (.validationError errors)

def positionContribution (scenario : ScenarioDefinition F)
    (component : ScenarioExposureComponent F) : ScenarioPositionContribution F where
  securityId := component.securityId
  displayName := component.displayName
  bucket := PyText.upper component.bucket
  weight := component.weight
  shockPct := scenario.shockByBucket.getD (PyText.upper component.bucket) PyFloat.zero
  contributionLossPct := PyFloat.round6 (PyFloat.max (PyFloat.neg (PyFloat.mul component.weight
    (scenario.shockByBucket.getD (PyText.upper component.bucket) PyFloat.zero))) PyFloat.zero)

/-- The comparison of the keys `(-row.contribution_loss_pct, row.bucket, row.security_id)`: the
first components that differ decide. -/
def contributionKeyLt (a b : ScenarioPositionContribution F) : Bool :=
  let x := PyFloat.neg a.contributionLossPct
  let y := PyFloat.neg b.contributionLossPct
  if !PyFloat.eq x y then PyFloat.lt x y
  else if a.bucket ≠ b.bucket then a.bucket < b.bucket
  else a.securityId < b.securityId

def evaluatePositionContributions (scenario : ScenarioDefinition F)
    (components : List (ScenarioExposureComponent F)) :
    Except PyException (List (ScenarioPositionContribution F)) := do
  let contributions ← components.mapM (fun component =>
    (positionContribution scenario component).validated)
  pure (contributions.insertionSort (fun a b => contributionKeyLt b a = false))

def scenarioLoss (scenario : ScenarioDefinition F) (exposureByBucket : Dict String F) : F :=
  exposureByBucket.items.foldl (fun loss m =>
    let shock := scenario.shockByBucket.getD m.1 PyFloat.zero
    PyFloat.add loss (PyFloat.max (PyFloat.neg (PyFloat.mul m.2 shock)) PyFloat.zero))
    PyFloat.zero

def evaluateScenario (exposureByBucket : Dict String F)
    (components : List (ScenarioExposureComponent F)) (scenario : ScenarioDefinition F) :
    Except PyException (ScenarioResult F) := do
  let loss := scenarioLoss scenario exposureByBucket
  let contributions ← evaluatePositionContributions scenario components
  pure {
    scenarioId := scenario.scenarioId
    displayName := scenario.displayName
    expectedLossPct := PyFloat.round6 loss
    shockByBucket := scenario.shockByBucket
    positionContributions := contributions }

structure ScenarioPackContext (F : Type) where
  scenarioPack : List (ScenarioDefinition F)
  exposureByBucket : Dict String F
  governanceEvidence : ScenarioPackGovernanceEvidence
  reasonCodes : List String
  supportability : ScenarioSupportabilityState

def scenarioPackContext (catalog : ScenarioCatalog F) (request : ScenarioEvaluationRequest F) :
    Except PyException (ScenarioPackContext F) :=
  match catalog.packs.get? request.scenarioPackId with
  | none => .error (.keyError request.scenarioPackId)
  | some pack => do
    let exposureByBucket := exposureByBucket request.exposures
    let unsupported := sortedSet (exposureByBucket.keys.filter (· ∉ supportedBuckets))
    let governance ← evaluateGovernanceEvidence catalog request
    pure {
      scenarioPack := pack
      exposureByBucket := exposureByBucket
      governanceEvidence := governance.evidence
      reasonCodes := "REGIME_SCENARIO_PACK_READY" ::
        ((if unsupported.isEmpty then [] else ["REGIME_SCENARIO_UNSUPPORTED_EXPOSURE_BUCKET"]) ++
          governance.reasonCodes)
      supportability := mostSevereSupportability
        (if unsupported.isEmpty then .ready else .degraded) governance.supportability }

def supportabilityAfterBreach (breach : Bool) (supportability : ScenarioSupportabilityState) :
    ScenarioSupportabilityState :=
  if breach ∧ supportability = .ready then .pendingReview else supportability

structure ScenarioPackEvaluation (F : Type) where
  scenarioResults : List (ScenarioResult F)
  worstCaseLoss : F
  breach : Bool
  governanceEvidence : ScenarioPackGovernanceEvidence
  reasonCodes : List String
  supportability : ScenarioSupportabilityState

def evaluateScenarioPackContext (catalog : ScenarioCatalog F)
    (request : ScenarioEvaluationRequest F) : Except PyException (ScenarioPackEvaluation F) := do
  let context ← scenarioPackContext catalog request
  let results ← context.scenarioPack.mapM
    (evaluateScenario context.exposureByBucket request.exposureComponents)
  let worstCaseLoss := PyFloat.maxD PyFloat.zero (results.map (·.expectedLossPct))
  let breach := PyFloat.lt request.maximumAllowedLossPct worstCaseLoss
  pure {
    scenarioResults := results
    worstCaseLoss := worstCaseLoss
    breach := breach
    governanceEvidence := context.governanceEvidence
    reasonCodes := sortedSet (context.reasonCodes ++
      (if breach then ["REGIME_SCENARIO_POLICY_THRESHOLD_BREACH"] else []))
    supportability := supportabilityAfterBreach breach context.supportability }

/-- `_request_fingerprint` of the engine. -/
def requestFingerprint (request : ScenarioEvaluationRequest F) : String :=
  "sha256:" ++ PyText.sha256 (dumps request.modelDump)

def responseFromEvaluation (catalog : ScenarioCatalog F) (request : ScenarioEvaluationRequest F) :
    Except PyException (RegimeScenarioPackResponse F) := do
  let evaluation ← evaluateScenarioPackContext catalog request
  pure {
    scenarioPackId := request.scenarioPackId
    portfolioId := request.portfolioId
    asOfDate := request.asOfDate
    worstCaseLossPct := PyFloat.round6 evaluation.worstCaseLoss
    maximumAllowedLossPct := request.maximumAllowedLossPct
    breach := evaluation.breach
    scenarioResults := evaluation.scenarioResults
    governanceEvidence := evaluation.governanceEvidence
    reasonCodes := evaluation.reasonCodes
    metadata := {
      requestFingerprint := requestFingerprint request
      calculationSupportability := evaluation.supportability } }

def validatePositionContributionRowBound (scenarioCount : Nat)
    (request : ScenarioEvaluationRequest F) : Except PyException Unit :=
  if scenarioCount = 0 then .ok ()
  else
    let components := request.exposureComponents.length
    raiseIf (scenarioMaxPositionContributionRows / scenarioCount < components)
      (.valueError ("exposure_components would emit " ++ toString (components * scenarioCount) ++
        " position contribution rows across " ++ toString scenarioCount ++
        " scenarios; maximum returned rows is " ++
        toString scenarioMaxPositionContributionRows))

/-- The synchronous endpoint. -/
def evaluateRegimeScenarioPack (catalog : ScenarioCatalog F)
    (request : RegimeScenarioPackRequest F) :
    Except PyException (RegimeScenarioPackResponse F) :=
  match catalog.packs.get? request.scenarioPackId with
  | none => .error (.valueError ("Unsupported scenario_pack_id: " ++ request.scenarioPackId))
  | some pack => do
    validatePositionContributionRowBound pack.length request.toScenarioEvaluationRequest
    responseFromEvaluation catalog request.toScenarioEvaluationRequest

/-- The worker's evaluation, without the response-row cap. -/
def evaluateLargeRegimeScenarioJob (catalog : ScenarioCatalog F)
    (request : RegimeScenarioPackJobRequest F) :
    Except PyException (RegimeScenarioPackResponse F) :=
  match catalog.packs.get? request.scenarioPackId with
  | none => .error (.valueError ("Unsupported scenario_pack_id: " ++ request.scenarioPackId))
  | some _ => responseFromEvaluation catalog request.toScenarioEvaluationRequest

end Evaluation

end LotusRisk
