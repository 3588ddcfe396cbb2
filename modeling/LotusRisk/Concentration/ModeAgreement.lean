import LotusRisk.Concentration.Projection
import LotusRisk.Concentration.SimulationSnapshot

/-! The stateful and the simulation mode read the same current state from one snapshot. -/

namespace LotusRisk
set_option autoImplicit true

open Relational

section Agreement

variable {F : Type} [ExposureFloat F] {texts : PyTexts ℚ}

/-- A portfolio without positions. -/
def emptyState : ConcentrationState F where
  hhi := PyFloat.zero
  topPositionWeight := PyFloat.zero
  topNCumulativeWeight := PyFloat.zero
  topPosition := ⟨none, none, PyFloat.zero⟩
  issuerHhi := PyFloat.zero
  topIssuerWeight := PyFloat.zero
  topIssuer := ⟨none, none, PyFloat.zero⟩
  coveredPositionCount := 0
  totalPositionCount := 0
  uncoveredPositionCount := 0
  coverageRatio := PyFloat.zero

/-- The positions that a snapshot projects. -/
def projectedPositions (snapshot : List (String × PyValue ℚ)) : PyValue ℚ :=
  getEntry (mappingOrEmpty (getEntry snapshot "sections")) "positions_projected"

def baselinePositions (snapshot : List (String × PyValue ℚ)) : PyValue ℚ :=
  getEntry (mappingOrEmpty (getEntry snapshot "sections")) "positions_baseline"

def SnapshotComputation.response (computation : SnapshotComputation F) : ConcentrationResponse F :=
  buildConcentrationResponse computation.input

theorem asInvalidSnapshot_ok {result : Except PyException α} :
    asInvalidSnapshot mode result = .ok a ↔ result = .ok a := by
  unfold asInvalidSnapshot
  split
  · exact ⟨fun h => by cases h; rfl, fun h => by cases h; rfl⟩
  all_goals exact iff_of_false (fun h => by cases h) (fun h => by cases h)

theorem snapshotSections_ok
    (h : snapshotSections mode snapshot = .ok sections) :
    getEntry snapshot "sections" = .dict sections := by
  unfold snapshotSections at h
  split at h
  · cases h
    assumption
  · cases h

/-- How a simulation that is computed has read its snapshot. -/
theorem simulationComputation_ok {computation : SnapshotComputation F}
    (h : simulationComputation texts policy simulation snapshot = .ok computation) :
    ∃ sections projected baseline after, getEntry snapshot "sections" = .dict sections ∧
      sections.lookup "positions_projected" = some (.list projected) ∧
      sectionValues texts (namedPositions sections "positions_baseline")
        (snapshotIssuerMap policy sections simulation.issuerMappings).1 = .ok baseline ∧
      sectionValues texts (namedPositions sections "positions_projected")
        (snapshotIssuerMap policy sections simulation.issuerMappings).1 = .ok after ∧
      computation = {
        input := {
          currentPositions := baseline.1
          proposedPositions := after.1
          topN := simulation.topN
          currentIssuers := baseline.2.issuers
          proposedIssuers := after.2.issuers
          coveredPositionCountCurrent := baseline.2.covered
          coveredPositionCountProposed := after.2.covered
          totalPositionCountCurrent := baseline.2.total
          totalPositionCountProposed := after.2.total
          useCurrentStateWhenProposedEmpty := false
          issuerNote := (snapshotIssuerMap policy sections simulation.issuerMappings).2 }
        valuationContext :=
          marketValueValuationContext (getEntry snapshot "valuation_context") } := by
  obtain ⟨sections, hsections, h⟩ := bind_eq_ok.1 h
  obtain ⟨rawProjected, hpositions, h⟩ := bind_eq_ok.1 h
  obtain ⟨baseline, hbaseline, h⟩ := bind_eq_ok.1 h
  obtain ⟨after, hafter, h⟩ := bind_eq_ok.1 h
  cases h
  unfold projectedSection at hpositions
  split at hpositions
  · cases hpositions
  · rename_i projected hprojected
    cases hpositions
    exact ⟨sections, projected, baseline, after, snapshotSections_ok hsections, hprojected,
      asInvalidSnapshot_ok.1 hbaseline, asInvalidSnapshot_ok.1 hafter, rfl⟩
  · cases hpositions

/-- A stateful computation of the snapshot that a simulation was computed from. -/
theorem statefulComputation_of_baseline {baseline : List (PositionEntry F) × IssuerTally F}
    (hsections : getEntry snapshot "sections" = .dict sections)
    (hbaseline : sectionValues texts (namedPositions sections "positions_baseline")
      (snapshotIssuerMap policy sections stateful.issuerMappings).1 = .ok baseline) :
    statefulComputation texts policy stateful snapshot = .ok {
      input := {
        currentPositions := baseline.1
        proposedPositions := baseline.1
        topN := stateful.topN
        currentIssuers := baseline.2.issuers
        proposedIssuers := baseline.2.issuers
        coveredPositionCountCurrent := baseline.2.covered
        coveredPositionCountProposed := baseline.2.covered
        totalPositionCountCurrent := baseline.2.total
        totalPositionCountProposed := baseline.2.total
        useCurrentStateWhenProposedEmpty := true
        issuerNote := (snapshotIssuerMap policy sections stateful.issuerMappings).2 }
      valuationContext :=
        marketValueValuationContext (getEntry snapshot "valuation_context") } := by
  simp only [statefulComputation, snapshotSections, hsections, asInvalidSnapshot_ok.2 hbaseline,
    bind, Except.bind]

theorem namedPositions_nil (h : sections.lookup sectionName = some (.list [])) :
    namedPositions sections sectionName = .list [] := by
  have hentry : getEntry sections sectionName = .list [] := by
    rw [getEntry, h]
    rfl
  rw [namedPositions, hentry]
  split <;> simp_all

/-- Without positions a payload proposes nothing, unless it falls back to its current state. -/
theorem proposed_of_empty {payload : ConcentrationComputationInput F}
    (hpositions : payload.proposedPositions = []) (hissuers : payload.proposedIssuers = [])
    (hcovered : payload.coveredPositionCountProposed = 0)
    (hcount : payload.totalPositionCountProposed = 0)
    (hfallback : payload.useCurrentStateWhenProposedEmpty = false) :
    (buildConcentrationResponse payload).proposed = emptyState := by
  have htotal : PyFloat.le (exposureTotal ([] : List F)) PyFloat.zero = true :=
    exposureTotal_nil_le
  simp [ConcentrationResponse.proposed, emptyState, buildConcentrationResponse,
    concentrationRiskProxy, singlePositionConcentration, issuerConcentration, positionMetrics,
    issuerMetrics, hpositions, hissuers, hcovered, hcount, hfallback, computeHhi,
    singlePositionMetrics, htotal, topPositionDriver, topIssuerDriver, topEntry, coverageRatio,
    ExposureFloat.round6_zero]

/-- The current state of a simulation is what the stateful mode reads from its snapshot. Where the
projected positions are the held ones, no finite metric changes; where there are none, the proposed
state is that of an empty portfolio and not the current one. -/
theorem simulation_agrees_with_stateful (texts : PyTexts ℚ) (policy : IssuerPolicy)
    (input : StatefulConcentrationInput) (snapshot : List (String × PyValue ℚ))
    (simulated : SnapshotComputation F)
    (h : simulationComputation texts policy input snapshot = .ok simulated) :
    ∃ held, statefulComputation texts policy input snapshot = .ok held ∧
      simulated.response.current = held.response.current ∧
      simulated.valuationContext = held.valuationContext ∧
      (projectedPositions snapshot = baselinePositions snapshot →
        simulated.response.proposed = held.response.proposed ∧ simulated.response.Unchanged) ∧
      (projectedPositions snapshot = .list [] → simulated.response.proposed = emptyState) := by
  obtain ⟨sections, projected, baseline, after, hsections, hprojected, hbaseline, hafter, rfl⟩ :=
    simulationComputation_ok h
  have hsections' : mappingOrEmpty (getEntry snapshot "sections") = sections := by
    rw [hsections]
    rfl
  refine ⟨_, statefulComputation_of_baseline hsections hbaseline, current_congr rfl rfl rfl rfl rfl,
    rfl, ?_, ?_⟩
  · intro hsame
    rw [projectedPositions, baselinePositions, hsections'] at hsame
    have hnamed : namedPositions sections "positions_projected" =
        namedPositions sections "positions_baseline" := by
      rw [namedPositions, namedPositions, hsame]
    rw [hnamed] at hafter
    cases hafter.symm.trans hbaseline
    refine ⟨Eq.trans (proposed_of_same ?_ ?_ ?_ ?_).1 (Eq.trans (current_congr ?_ ?_ ?_ ?_ ?_)
      (proposed_of_same ?_ ?_ ?_ ?_).1.symm), (proposed_of_same ?_ ?_ ?_ ?_).2⟩
    all_goals rfl
  · intro hempty
    rw [projectedPositions, hsections', getEntry, hprojected] at hempty
    cases hempty
    rw [namedPositions_nil hprojected] at hafter
    cases hafter
    exact proposed_of_empty rfl rfl rfl rfl rfl

/-- A holding that a simulation sells. -/
def soldSnapshot : List (String × PyValue ℚ) :=
  [("sections", .dict [
    ("positions_baseline", .list [.dict [("security_id", .str "A"),
      ("market_value_base", .int 100)]]),
    ("positions_projected", .list [])])]

def soldInput : StatefulConcentrationInput :=
  ⟨"P1", firstMonday, none, true, false, 10, [], ten_bounds⟩

theorem simulation_agrees_with_stateful_sold : ∃ simulated held : SnapshotComputation Float,
    simulationComputation plainTexts ⟨.legalIssuer, .coreOnly⟩ soldInput soldSnapshot =
      .ok simulated ∧
    statefulComputation plainTexts ⟨.legalIssuer, .coreOnly⟩ soldInput soldSnapshot = .ok held ∧
    simulated.response.current = held.response.current ∧
    simulated.response.proposed = emptyState := by
  have hsimulated : ∃ simulated : SnapshotComputation Float,
      simulationComputation plainTexts ⟨.legalIssuer, .coreOnly⟩ soldInput soldSnapshot =
        .ok simulated := ⟨_, rfl⟩
  obtain ⟨simulated, hsimulated⟩ := hsimulated
  obtain ⟨held, hheld, hcurrent, -, -, hempty⟩ := simulation_agrees_with_stateful plainTexts
    ⟨.legalIssuer, .coreOnly⟩ soldInput soldSnapshot simulated hsimulated
  exact ⟨simulated, held, hsimulated, hheld, hcurrent, hempty rfl⟩

end Agreement

end LotusRisk
