import LotusRisk.Scenario.Engine

/-! What the engine returns on a request its contract accepted: of the pack, only a missing
governance entry can make it raise. -/

namespace LotusRisk
open Relational JsonText
set_option autoImplicit true

variable [PyFloat F]

theorem weights_of_requestFieldErrors {request : ScenarioEvaluationRequest F}
    (h : requestFieldErrors maximum request = []) :
    (∀ exposure ∈ request.exposures, PyFloat.lt exposure.weight PyFloat.zero = false) ∧
      ∀ component ∈ request.exposureComponents, PyFloat.lt component.weight PyFloat.zero = false := by
  unfold requestFieldErrors at h
  simp only [List.append_eq_nil_iff, listErrors_eq_nil] at h
  obtain ⟨⟨⟨-, he⟩, -, hc⟩, -⟩ := h
  constructor
  · intro exposure hm
    obtain ⟨i, hi, rfl⟩ := List.mem_iff_getElem.1 hm
    exact PyFloat.lt_zero_of_zero_le _ (unitBoundErrors_eq_nil.1 (he (request.exposures[i], i)
      (List.mem_zipIdx_iff_getElem?.2 (List.getElem?_eq_getElem hi)))).2
  · intro component hm
    obtain ⟨i, hi, rfl⟩ := List.mem_iff_getElem.1 hm
    exact PyFloat.lt_zero_of_zero_le _ (unitBoundErrors_eq_nil.1 (hc
      (request.exposureComponents[i], i)
      (List.mem_zipIdx_iff_getElem?.2 (List.getElem?_eq_getElem hi)))).2

variable [PyText]

theorem RegimeScenarioPackJobRequest.weights_nonneg (request : RegimeScenarioPackJobRequest F) :
    ∀ component ∈ request.exposureComponents, PyFloat.lt component.weight PyFloat.zero = false :=
  (weights_of_requestFieldErrors (validateModel_eq_ok.1 request.accepted).1).2

theorem positionContribution_validated (scenario : ScenarioDefinition F)
    {component : ScenarioExposureComponent F}
    (h : PyFloat.lt component.weight PyFloat.zero = false) :
    (positionContribution scenario component).validated =
      .ok (positionContribution scenario component) := by
  have hl : PyFloat.lt (positionContribution scenario component).contributionLossPct
      PyFloat.zero = false := PyFloat.round6_max_zero _
  have hw : PyFloat.lt (positionContribution scenario component).weight PyFloat.zero = false := h
  unfold ScenarioPositionContribution.validated nonNegativeField
  rw [hl, hw]
  rfl

/-- The contribution rows of one scenario, in engine order. -/
def rankedContributions (scenario : ScenarioDefinition F)
    (components : List (ScenarioExposureComponent F)) : List (ScenarioPositionContribution F) :=
  (components.map (positionContribution scenario)).insertionSort
    (fun a b => contributionKeyLt b a = false)

theorem evaluatePositionContributions_ok (scenario : ScenarioDefinition F)
    {components : List (ScenarioExposureComponent F)}
    (h : ∀ component ∈ components, PyFloat.lt component.weight PyFloat.zero = false) :
    evaluatePositionContributions scenario components =
      .ok (rankedContributions scenario components) := by
  unfold evaluatePositionContributions
  rw [mapM_ok (g := positionContribution scenario)
    (fun component hm => positionContribution_validated scenario (h component hm))]
  rfl

theorem perm_rankedContributions (scenario : ScenarioDefinition F)
    (components : List (ScenarioExposureComponent F)) :
    (rankedContributions scenario components).Perm
      (components.map (positionContribution scenario)) :=
  List.perm_insertionSort _ _

theorem mem_rankedContributions {scenario : ScenarioDefinition F}
    {components : List (ScenarioExposureComponent F)} :
    row ∈ rankedContributions scenario components ↔
      ∃ component ∈ components, positionContribution scenario component = row := by
  rw [(perm_rankedContributions scenario components).mem_iff, List.mem_map]

def scenarioResult (request : ScenarioEvaluationRequest F) (scenario : ScenarioDefinition F) :
    ScenarioResult F where
  scenarioId := scenario.scenarioId
  displayName := scenario.displayName
  expectedLossPct := PyFloat.round6 (scenarioLoss scenario (exposureByBucket request.exposures))
  shockByBucket := scenario.shockByBucket
  positionContributions := rankedContributions scenario request.exposureComponents

theorem evaluateScenario_ok {request : ScenarioEvaluationRequest F}
    (h : ∀ component ∈ request.exposureComponents,
      PyFloat.lt component.weight PyFloat.zero = false) (scenario : ScenarioDefinition F) :
    evaluateScenario (exposureByBucket request.exposures) request.exposureComponents scenario =
      .ok (scenarioResult request scenario) := by
  unfold evaluateScenario
  rw [evaluatePositionContributions_ok scenario h]
  rfl

omit [PyFloat F] in
theorem scenarioPackContext_of_ungoverned {catalog : ScenarioCatalog F}
    {request : ScenarioEvaluationRequest F}
    (hp : catalog.packs.get? request.scenarioPackId = some pack)
    (hg : catalog.governance.get? request.scenarioPackId = none) :
    scenarioPackContext catalog request = .error (.keyError request.scenarioPackId) := by
  unfold scenarioPackContext evaluateGovernanceEvidence
  rw [hp, hg]
  rfl

omit [PyFloat F] in
theorem scenarioPackContext_of_governed {catalog : ScenarioCatalog F}
    {request : ScenarioEvaluationRequest F}
    (hp : catalog.packs.get? request.scenarioPackId = some pack)
    (hg : (catalog.governance.get? request.scenarioPackId).isSome) :
    ∃ context, scenarioPackContext catalog request = .ok context ∧ context.scenarioPack = pack ∧
      context.exposureByBucket = exposureByBucket request.exposures := by
  obtain ⟨evaluation, he⟩ := evaluateGovernanceEvidence_isOk.2 hg
  unfold scenarioPackContext
  rw [hp]
  dsimp only
  rw [he]
  exact ⟨_, rfl, rfl, rfl⟩

theorem responseFromEvaluation_of_ungoverned {catalog : ScenarioCatalog F}
    {request : ScenarioEvaluationRequest F}
    (hp : catalog.packs.get? request.scenarioPackId = some pack)
    (hg : catalog.governance.get? request.scenarioPackId = none) :
    responseFromEvaluation catalog request = .error (.keyError request.scenarioPackId) := by
  unfold responseFromEvaluation evaluateScenarioPackContext
  rw [scenarioPackContext_of_ungoverned hp hg]
  rfl

theorem responseFromEvaluation_of_governed {catalog : ScenarioCatalog F}
    {request : ScenarioEvaluationRequest F}
    (hp : catalog.packs.get? request.scenarioPackId = some pack)
    (hg : (catalog.governance.get? request.scenarioPackId).isSome)
    (hw : ∀ component ∈ request.exposureComponents,
      PyFloat.lt component.weight PyFloat.zero = false) :
    ∃ response, responseFromEvaluation catalog request = .ok response ∧
      response.scenarioResults = pack.map (scenarioResult request) ∧
      response.metadata.requestFingerprint = requestFingerprint request := by
  obtain ⟨context, hc, rfl, he⟩ := scenarioPackContext_of_governed hp hg
  unfold responseFromEvaluation evaluateScenarioPackContext
  rw [hc]
  simp only [bind, Except.bind]
  rw [he, mapM_ok (g := scenarioResult request) (fun scenario _ => evaluateScenario_ok hw scenario)]
  exact ⟨_, rfl, rfl, rfl⟩

/-- A response that was computed at all reports the scenarios of the pack. -/
theorem responseFromEvaluation_eq_ok {catalog : ScenarioCatalog F}
    {request : ScenarioEvaluationRequest F}
    (hp : catalog.packs.get? request.scenarioPackId = some pack)
    (hw : ∀ component ∈ request.exposureComponents,
      PyFloat.lt component.weight PyFloat.zero = false)
    (h : responseFromEvaluation catalog request = .ok response) :
    (catalog.governance.get? request.scenarioPackId).isSome ∧
    response.scenarioResults = pack.map (scenarioResult request) ∧
      response.metadata.requestFingerprint = requestFingerprint request := by
  cases hg : catalog.governance.get? request.scenarioPackId with
  | none =>
    rw [responseFromEvaluation_of_ungoverned hp hg] at h
    cases h
  | some governance =>
    obtain ⟨response', hr, hs⟩ := responseFromEvaluation_of_governed hp (by rw [hg]; rfl) hw
    cases hr.symm.trans h
    exact ⟨rfl, hs⟩

end LotusRisk
