import LotusRisk.Scenario.Engine

/-! The catalog the code defines, with its literals as exact decimals. -/

namespace LotusRisk
open Relational
set_option autoImplicit true

def scenarioPacks : Dict String (List (ScenarioDefinition ℚ)) :=
  Dict.ofList [("CIO_REGIME_2026_Q2", [
    { scenarioId := "growth_slowdown"
      displayName := "Growth slowdown"
      shockByBucket := Dict.ofList [("EQUITY", -12 / 100), ("FIXED_INCOME", -3 / 100),
        ("ALTERNATIVES", -6 / 100), ("CASH", 0)] },
    { scenarioId := "rates_up_inflation"
      displayName := "Rates up and inflation persistence"
      shockByBucket := Dict.ofList [("EQUITY", -8 / 100), ("FIXED_INCOME", -7 / 100),
        ("ALTERNATIVES", -4 / 100), ("CASH", 0)] },
    { scenarioId := "risk_off_liquidity"
      displayName := "Risk-off liquidity shock"
      shockByBucket := Dict.ofList [("EQUITY", -18 / 100), ("FIXED_INCOME", -2 / 100),
        ("ALTERNATIVES", -10 / 100), ("CASH", 0)] }])]

def scenarioPackGovernance : Dict String ScenarioPackGovernanceDefinition :=
  Dict.ofList [("CIO_REGIME_2026_Q2", {
    cioApprovalStatus := .approved
    cioApprovalRef := "CIO-REGIME-2026-Q2-APPROVAL"
    approvedBy := "CIO Risk Committee"
    approvedAt := ⟨⟨2026, 4, 15, by decide⟩, 9, 0, 0, 0, by decide⟩
    effectiveFrom := ⟨2026, 4, 1, by decide⟩
    effectiveTo := ⟨2026, 6, 30, by decide⟩
    applicabilityScope := ["DISCRETIONARY_PRIVATE_BANKING_BALANCED"]
    applicablePortfolioIds := ["PB_SG_GLOBAL_BAL_001"]
    methodologyRef := "docs/methodologies/metrics/regime-scenario-pack-evaluation.md" })]

def codeCatalog : ScenarioCatalog ℚ := ⟨scenarioPacks, scenarioPackGovernance⟩

/-- Every shock of the catalog is a loss of at most the whole bucket. -/
theorem codeCatalog_shocks : ∀ pack ∈ codeCatalog.packs.items, ∀ scenario ∈ pack.2,
    ∀ m ∈ scenario.shockByBucket.items, -1 ≤ m.2 ∧ m.2 ≤ 0 := by
  decide +kernel

/-- Every pack has a governance entry, so its evaluation finds one. -/
theorem codeCatalog_governed : ∀ packId ∈ codeCatalog.packs.keys,
    packId ∈ codeCatalog.governance.keys := by
  decide

/-- Scenario identifiers are distinct within a pack. -/
theorem codeCatalog_distinct : ∀ pack ∈ codeCatalog.packs.items,
    (pack.2.map (·.scenarioId)).Nodup := by
  decide

open AsciiRuntime in
/-- A two-bucket request for the pack of the catalog. -/
def balancedRequest : RegimeScenarioPackRequest ℚ where
  scenarioPackId := "CIO_REGIME_2026_Q2"
  portfolioId := some "PB_SG_GLOBAL_BAL_001"
  asOfDate := ⟨2026, 4, 20, by decide⟩
  exposures := [⟨"equity", 6 / 10⟩, ⟨"FIXED_INCOME", 4 / 10⟩]
  exposureComponents := [⟨"SEC_1", none, "EQUITY", 6 / 10⟩,
    ⟨"SEC_2", some "Bond fund", "fixed_income", 4 / 10⟩]
  maximumAllowedLossPct := 1 / 10
  accepted := by decide +kernel

end LotusRisk
