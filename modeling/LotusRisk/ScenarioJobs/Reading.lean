import LotusRisk.ScenarioJobs.Cursor
import LotusRisk.ScenarioJobs.Service

/-! What a tenant reads of its jobs. -/

namespace LotusRisk
open Relational JsonText
set_option autoImplicit true

structure ScenarioEvaluationJobStatusResponse (F : Type) extends ScenarioEvaluationJobAccepted where
  submittedAt : Timestamp
  failureCode : Option String
  completedAt : Option Timestamp
  result : Option (RegimeScenarioPackResponse F)

structure ScenarioEvaluationJobContribution (F : Type) extends ScenarioPositionContribution F where
  scenarioId : String

structure ScenarioEvaluationJobContributionPage (F : Type) where
  jobId : String
  contributions : List (ScenarioEvaluationJobContribution F)
  nextCursor : Option String

/-- The position contribution a row was made of. -/
def ScenarioEvaluationJobContributionRecord.contribution
    (row : ScenarioEvaluationJobContributionRecord F) : ScenarioPositionContribution F where
  securityId := row.securityId
  displayName := row.displayName
  bucket := row.bucket
  weight := row.weight
  shockPct := row.shockPct
  contributionLossPct := row.contributionLossPct

def ScenarioEvaluationJobContributionRecord.jobContribution
    (row : ScenarioEvaluationJobContributionRecord F) : ScenarioEvaluationJobContribution F :=
  { row.contribution with scenarioId := row.scenarioId }

/-- `(scenario_id, ordinal)`. -/
def ScenarioEvaluationJobContributionRecord.pageKey
    (row : ScenarioEvaluationJobContributionRecord F) : String × Nat :=
  (row.scenarioId, row.ordinal)

/-- `load` is `RegimeScenarioPackResponse.model_validate(json.loads(text))`. -/
def scenarioJobStatusResponse (load : String → Except PyException (RegimeScenarioPackResponse F))
    (s : ScenarioJobStore F) (tenantId jobId : String) :
    Except PyException (Option (ScenarioEvaluationJobStatusResponse F)) :=
  match s.getForTenant tenantId jobId with
  | none => .ok none
  | some record => do
    let result ← match record.resultJson with
      | some text => (load text).map some
      | none => pure none
    pure (some { accepted record with
      submittedAt := record.submittedAt
      failureCode := record.failureCode
      completedAt := record.completedAt
      result := result })

section Pages

variable [PyFloat F]

/-- Construction of one contribution of a page, with the bounds its class inherits. -/
def validatedContribution (row : ScenarioEvaluationJobContributionRecord F) :
    Except PyException (ScenarioEvaluationJobContribution F) := do
  let contribution ← row.contribution.validated
  pure { contribution with scenarioId := row.scenarioId }

def decodeAfter : Option String → Except PyException (Option (String × Nat))
  | some cursor => (decodeContributionCursor cursor).map some
  | none => .ok none

/-- A negative `limit`, which the route refuses, is not modelled. -/
def scenarioJobContributionPage (db : Database) (s : ScenarioJobStore F) (tenantId jobId : String)
    (cursor : Option String) (limit : Nat) :
    Except PyException (Option (ScenarioEvaluationJobContributionPage F)) := do
  let after ← decodeAfter cursor
  match s.contributionPage db tenantId jobId after limit with
  | none => pure none
  | some rows =>
    let pageRows := rows.take limit
    let nextCursor := if limit < rows.length then
        pageRows.getLast?.map (fun row => encodeContributionCursor row.scenarioId row.ordinal)
      else none
    let contributions ← pageRows.mapM validatedContribution
    pure (some ⟨jobId, contributions, nextCursor⟩)

/-- The fields of the row that a page checks. -/
def Readable (row : ScenarioEvaluationJobContributionRecord F) : Prop :=
  row.scenarioId ≠ "" ∧ PyFloat.lt row.weight PyFloat.zero = false ∧
    PyFloat.lt row.contributionLossPct PyFloat.zero = false

instance (row : ScenarioEvaluationJobContributionRecord F) : Decidable (Readable row) :=
  inferInstanceAs (Decidable (_ ∧ _ ∧ _))

theorem validatedContribution_of_readable {row : ScenarioEvaluationJobContributionRecord F}
    (h : Readable row) : validatedContribution row = .ok row.jobContribution := by
  obtain ⟨-, hw, hl⟩ := h
  have hw' : PyFloat.lt row.contribution.weight PyFloat.zero = false := hw
  have hl' : PyFloat.lt row.contribution.contributionLossPct PyFloat.zero = false := hl
  unfold validatedContribution ScenarioPositionContribution.validated nonNegativeField
  rw [hw', hl']
  rfl

omit [PyFloat F] in
theorem decodeAfter_encode {key : Option (String × Nat)} (h : ∀ k ∈ key, k.1 ≠ "") :
    decodeAfter (key.map (fun k => encodeContributionCursor k.1 k.2)) = .ok key := by
  cases key with
  | none => rfl
  | some k =>
    rw [Option.map_some, decodeAfter, decodeContributionCursor_encode (h k rfl)]
    rfl

end Pages

end LotusRisk
