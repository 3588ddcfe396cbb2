import LotusRisk.Scenario.Contracts

namespace LotusRisk
open Relational
set_option autoImplicit true

structure ScenarioDefinition (F : Type) where
  scenarioId : String
  displayName : String
  shockByBucket : Dict String F

inductive ScenarioSupportabilityState where
  | ready | degraded | pendingReview | blocked
deriving DecidableEq, Repr

def ScenarioSupportabilityState.value : ScenarioSupportabilityState → String
  | .ready => "ready"
  | .degraded => "degraded"
  | .pendingReview => "pending_review"
  | .blocked => "blocked"

inductive ScenarioPackApprovalStatus where
  | approved | notApproved
deriving DecidableEq, Repr

def ScenarioPackApprovalStatus.value : ScenarioPackApprovalStatus → String
  | .approved => "approved"
  | .notApproved => "not_approved"

inductive ScenarioPackEffectivePeriodStatus where
  | active | notYetEffective | expired
deriving DecidableEq, Repr

def ScenarioPackEffectivePeriodStatus.value : ScenarioPackEffectivePeriodStatus → String
  | .active => "active"
  | .notYetEffective => "not_yet_effective"
  | .expired => "expired"

inductive ScenarioPackApplicabilityStatus where
  | applicable | pendingReview | notApplicable
deriving DecidableEq, Repr

def ScenarioPackApplicabilityStatus.value : ScenarioPackApplicabilityStatus → String
  | .applicable => "applicable"
  | .pendingReview => "pending_review"
  | .notApplicable => "not_applicable"

structure ScenarioPackGovernanceDefinition where
  cioApprovalStatus : ScenarioPackApprovalStatus
  cioApprovalRef : String
  approvedBy : String
  approvedAt : UtcDateTime
  effectiveFrom : Date
  effectiveTo : Date
  applicabilityScope : List String
  applicablePortfolioIds : List String
  methodologyRef : String

structure ScenarioPackGovernanceEvidence where
  cioApprovalStatus : ScenarioPackApprovalStatus
  cioApprovalRef : String
  approvedBy : String
  approvedAt : UtcDateTime
  effectiveFrom : Date
  effectiveTo : Date
  effectivePeriodStatus : ScenarioPackEffectivePeriodStatus
  applicabilityStatus : ScenarioPackApplicabilityStatus
  applicabilityScope : List String
  portfolioApplicabilityRef : Option String
  methodologyRef : String

/-- The code-defined catalog in force: `SCENARIO_PACKS` and `SCENARIO_PACK_GOVERNANCE`. -/
structure ScenarioCatalog (F : Type) where
  packs : Dict String (List (ScenarioDefinition F))
  governance : Dict String ScenarioPackGovernanceDefinition

def supportedBuckets : List String := ["EQUITY", "FIXED_INCOME", "ALTERNATIVES", "CASH"]

structure GovernanceEvaluation where
  evidence : ScenarioPackGovernanceEvidence
  reasonCodes : List String
  supportability : ScenarioSupportabilityState

def ScenarioSupportabilityState.severity : ScenarioSupportabilityState → Nat
  | .ready => 0
  | .pendingReview => 1
  | .degraded => 2
  | .blocked => 3

def mostSevereSupportability (left right : ScenarioSupportabilityState) :
    ScenarioSupportabilityState :=
  if right.severity ≤ left.severity then left else right

def cioApprovalDecision (governance : ScenarioPackGovernanceDefinition) :
    List String × ScenarioSupportabilityState :=
  if governance.cioApprovalStatus ≠ .approved then
    (["REGIME_SCENARIO_CIO_APPROVAL_NOT_CONFIRMED"], .blocked)
  else ([], .ready)

def effectivePeriodDecision (governance : ScenarioPackGovernanceDefinition) (asOfDate : Date) :
    ScenarioPackEffectivePeriodStatus × List String × ScenarioSupportabilityState :=
  if asOfDate.before governance.effectiveFrom then
    (.notYetEffective, ["REGIME_SCENARIO_EFFECTIVE_PERIOD_EXCEPTION"], .degraded)
  else if governance.effectiveTo.before asOfDate then
    (.expired, ["REGIME_SCENARIO_EFFECTIVE_PERIOD_EXCEPTION"], .degraded)
  else (.active, [], .ready)

def portfolioApplicabilityDecision (governance : ScenarioPackGovernanceDefinition)
    (portfolioId : Option String) :
    ScenarioPackApplicabilityStatus × Option String × List String × ScenarioSupportabilityState :=
  match portfolioId with
  | none =>
    (.pendingReview, none, ["REGIME_SCENARIO_PORTFOLIO_APPLICABILITY_NOT_CONFIRMED"],
      .pendingReview)
  | some portfolioId =>
    if portfolioId ∈ governance.applicablePortfolioIds then
      (.applicable, some (governance.cioApprovalRef ++ "-APP-" ++ portfolioId), [], .ready)
    else (.notApplicable, none, ["REGIME_SCENARIO_PORTFOLIO_NOT_APPLICABLE"], .blocked)

def governanceEvidence (governance : ScenarioPackGovernanceDefinition)
    (effectivePeriodStatus : ScenarioPackEffectivePeriodStatus)
    (applicabilityStatus : ScenarioPackApplicabilityStatus)
    (portfolioApplicabilityRef : Option String) : ScenarioPackGovernanceEvidence where
  cioApprovalStatus := governance.cioApprovalStatus
  cioApprovalRef := governance.cioApprovalRef
  approvedBy := governance.approvedBy
  approvedAt := governance.approvedAt
  effectiveFrom := governance.effectiveFrom
  effectiveTo := governance.effectiveTo
  effectivePeriodStatus := effectivePeriodStatus
  applicabilityStatus := applicabilityStatus
  applicabilityScope := governance.applicabilityScope
  portfolioApplicabilityRef := portfolioApplicabilityRef
  methodologyRef := governance.methodologyRef

/-- `SCENARIO_PACK_GOVERNANCE[request.scenario_pack_id]` raises on a pack without an entry. -/
def evaluateGovernanceEvidence (catalog : ScenarioCatalog F)
    (request : ScenarioEvaluationRequest F) : Except PyException GovernanceEvaluation :=
  match catalog.governance.get? request.scenarioPackId with
  | none => .error (.keyError request.scenarioPackId)
  | some governance =>
    let approval := cioApprovalDecision governance
    let (periodStatus, periodReasons, periodState) :=
      effectivePeriodDecision governance request.asOfDate
    let (applicability, applicabilityRef, applicabilityReasons, applicabilityState) :=
      portfolioApplicabilityDecision governance request.portfolioId
    .ok {
      evidence := governanceEvidence governance periodStatus applicability applicabilityRef
      reasonCodes := approval.1 ++ periodReasons ++ applicabilityReasons
      supportability := mostSevereSupportability
        (mostSevereSupportability approval.2 periodState) applicabilityState }

/-- Governance fails on nothing but a missing entry. -/
theorem evaluateGovernanceEvidence_isOk {catalog : ScenarioCatalog F}
    {request : ScenarioEvaluationRequest F} :
    (∃ evaluation, evaluateGovernanceEvidence catalog request = .ok evaluation) ↔
      (catalog.governance.get? request.scenarioPackId).isSome := by
  unfold evaluateGovernanceEvidence
  cases catalog.governance.get? request.scenarioPackId with
  | none => simp
  | some governance => simp

end LotusRisk
