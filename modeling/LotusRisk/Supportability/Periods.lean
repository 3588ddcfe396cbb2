import LotusRisk.Risk.Contracts
import LotusRisk.Supportability.Reasons

namespace LotusRisk
set_option autoImplicit true

open Precedence

structure RiskCalculationSupportability where
  state : RiskSupportabilityState
  reason : RiskSupportabilityReason
  freshnessBucket : RiskFreshnessBucket
  degradedMetricCount : Nat
  emptyPeriodCount : Nat
  evaluatedPeriodCount : Nat
deriving DecidableEq, Repr

/-- A field that the context's class does not have is `none`. -/
structure DependencyContext where
  requested : Bool
  applied : Option Bool
  available : Option Bool
  aligned : Option Bool
  reason : Option String
deriving DecidableEq, Repr

/-- What `getattr` reads of a period result, with `none` for what is absent. -/
structure PeriodAttributes where
  portfolioObservationCount : Option Int
  seriesCount : Option Int
  error : Option String
  relativeToBenchmarkContext : Option DependencyContext
  benchmarkContext : Option DependencyContext
  riskFreeContext : Option DependencyContext
deriving DecidableEq, Repr

def observationCount (periodResult : PeriodAttributes) : Option Int :=
  periodResult.portfolioObservationCount <|> periodResult.seriesCount

def PeriodAttributes.isEmpty (periodResult : PeriodAttributes) : Bool :=
  observationCount periodResult = some 0

/-- `str(reason)`. -/
def DependencyContext.reasonText (context : DependencyContext) : String :=
  context.reason.getD "None"

def contextDegradationReason (context : DependencyContext) : Option RiskSupportabilityReason :=
  if context.requested = false then none
  else if context.applied = some false ∨ context.available = some false then
    some (supportabilityReasonForError context.reasonText)
  else if context.aligned = some false then some .insufficientAlignedObservations
  else none

/-- The contexts in the order in which they are examined. -/
def PeriodAttributes.contexts (periodResult : PeriodAttributes) : List DependencyContext :=
  [periodResult.relativeToBenchmarkContext, periodResult.benchmarkContext,
    periodResult.riskFreeContext].filterMap id

def dependencyDegradationReason (periodResult : PeriodAttributes) :
    Option RiskSupportabilityReason :=
  periodResult.contexts.findSome? contextDegradationReason

structure PeriodSupportabilityAssessment where
  degradedReasons : List RiskSupportabilityReason
  emptyPeriodCount : Nat
  degradedResultCount : Nat
deriving DecidableEq, Repr

def PeriodSupportabilityAssessment.degrade (assessment : PeriodSupportabilityAssessment)
    (reason : RiskSupportabilityReason) : PeriodSupportabilityAssessment :=
  { assessment with
    degradedReasons := assessment.degradedReasons ++ [reason]
    degradedResultCount := assessment.degradedResultCount + 1 }

/-- The body of the loop over the period results. -/
def assessPeriodResult (assessment : PeriodSupportabilityAssessment)
    (periodResult : PeriodAttributes) : PeriodSupportabilityAssessment :=
  let assessment :=
    if observationCount periodResult = some 0 then
      { assessment with emptyPeriodCount := assessment.emptyPeriodCount + 1 }
    else assessment
  match periodResult.error with
  | some error => assessment.degrade (supportabilityReasonForError error)
  | none =>
    match dependencyDegradationReason periodResult with
    | some dependencyReason => assessment.degrade dependencyReason
    | none => assessment

def assessPeriodResults (results : List PeriodAttributes) : PeriodSupportabilityAssessment :=
  results.foldl assessPeriodResult ⟨[], 0, 0⟩

structure PeriodSupportabilityOutcome where
  state : RiskSupportabilityState
  reason : RiskSupportabilityReason
  degradedMetricCount : Nat
  emptyPeriodCount : Nat
deriving DecidableEq, Repr

def periodSupportabilityOutcome (freshnessBucket : RiskFreshnessBucket)
    (assessment : PeriodSupportabilityAssessment) :
    Except PyException PeriodSupportabilityOutcome :=
  if assessment.degradedResultCount ≠ 0 then do
    let reason ← selectSupportabilityReason assessment.degradedReasons
    .ok ⟨.degraded, reason, assessment.degradedResultCount, assessment.emptyPeriodCount⟩
  else if assessment.emptyPeriodCount ≠ 0 then
    .ok ⟨.empty, .insufficientObservations, 0, assessment.emptyPeriodCount⟩
  else if freshnessBucket = .stale then .ok ⟨.stale, .staleSourceObservations, 0, 0⟩
  else .ok ⟨.ready, .calculationComplete, 0, 0⟩

def riskCalculationSupportability (outcome : PeriodSupportabilityOutcome)
    (freshnessBucket : RiskFreshnessBucket) (evaluatedPeriodCount : Nat) :
    RiskCalculationSupportability where
  state := outcome.state
  reason := outcome.reason
  freshnessBucket := freshnessBucket
  degradedMetricCount := outcome.degradedMetricCount
  emptyPeriodCount := outcome.emptyPeriodCount
  evaluatedPeriodCount := evaluatedPeriodCount

def periodResultsSupportabilityState (freshnessBucket : RiskFreshnessBucket)
    (assessment : PeriodSupportabilityAssessment) (evaluatedPeriodCount : Nat) :
    Except PyException RiskCalculationSupportability := do
  let outcome ← periodSupportabilityOutcome freshnessBucket assessment
  .ok (riskCalculationSupportability outcome freshnessBucket evaluatedPeriodCount)

section Assessment

/-- The reason one period contributes. -/
def degradationReason (periodResult : PeriodAttributes) : Option RiskSupportabilityReason :=
  (periodResult.error.map supportabilityReasonForError).or
    (dependencyDegradationReason periodResult)

theorem assessPeriodResult_eq (assessment : PeriodSupportabilityAssessment)
    (periodResult : PeriodAttributes) : assessPeriodResult assessment periodResult =
      ⟨assessment.degradedReasons ++ (degradationReason periodResult).toList,
        assessment.emptyPeriodCount + periodResult.isEmpty.toNat,
        assessment.degradedResultCount + (degradationReason periodResult).toList.length⟩ := by
  unfold assessPeriodResult degradationReason PeriodAttributes.isEmpty
  by_cases he : observationCount periodResult = some 0
  · cases periodResult.error with
    | some error => simp [he, PeriodSupportabilityAssessment.degrade]
    | none =>
      cases dependencyDegradationReason periodResult with
      | some reason => simp [he, PeriodSupportabilityAssessment.degrade]
      | none => simp [he]
  · cases periodResult.error with
    | some error => simp [he, PeriodSupportabilityAssessment.degrade]
    | none =>
      cases dependencyDegradationReason periodResult with
      | some reason => simp [he, PeriodSupportabilityAssessment.degrade]
      | none => simp [he]

theorem foldl_assessPeriodResult (results : List PeriodAttributes)
    (assessment : PeriodSupportabilityAssessment) :
    results.foldl assessPeriodResult assessment =
      ⟨assessment.degradedReasons ++ results.filterMap degradationReason,
        assessment.emptyPeriodCount + results.countP PeriodAttributes.isEmpty,
        assessment.degradedResultCount + (results.filterMap degradationReason).length⟩ := by
  induction results generalizing assessment with
  | nil => simp
  | cons periodResult results ih =>
    have hone : periodResult.isEmpty.toNat = if periodResult.isEmpty then 1 else 0 := by
      cases periodResult.isEmpty <;> rfl
    rw [List.foldl_cons, ih, assessPeriodResult_eq, List.countP_cons, List.filterMap_cons, hone]
    cases degradationReason periodResult with
    | some reason =>
      simp only [Option.toList_some, List.append_assoc, List.singleton_append, List.length_cons,
        List.length_nil, PeriodSupportabilityAssessment.mk.injEq, true_and]
      omega
    | none =>
      simp only [Option.toList_none, List.append_nil, List.length_nil,
        PeriodSupportabilityAssessment.mk.injEq, true_and]
      omega

/-- Each period contributes at most one reason, in the order of the periods. -/
theorem assessPeriodResults_eq (results : List PeriodAttributes) : assessPeriodResults results =
    ⟨results.filterMap degradationReason, results.countP PeriodAttributes.isEmpty,
      (results.filterMap degradationReason).length⟩ := by
  unfold assessPeriodResults
  rw [foldl_assessPeriodResult]
  simp

end Assessment

end LotusRisk
