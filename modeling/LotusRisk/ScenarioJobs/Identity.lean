import LotusRisk.Scenario.Engine

namespace LotusRisk
open Relational JsonText
set_option autoImplicit true

variable [PyFloat F] [PyText]

/-- The digest both the fingerprint and the pack revision are written as. -/
def sha256Digest (serialized : String) : String := "sha256:" ++ PyText.sha256 serialized

/-- `canonical_request_fingerprint`, the admission side of the request identity. -/
def canonicalRequestFingerprint (request : RegimeScenarioPackJobRequest F) : String :=
  sha256Digest (dumps request.modelDump)

def ScenarioDefinition.canonical (scenario : ScenarioDefinition F) : Json :=
  .obj [("scenario_id", .str scenario.scenarioId), ("display_name", .str scenario.displayName),
    ("shock_by_bucket", .obj ((scenario.shockByBucket.items.insertionSort
      (fun a b => a.1 ≤ b.1)).map (fun m => (m.1, floatJson m.2))))]

def packRevision (pack : List (ScenarioDefinition F)) : String :=
  sha256Digest (dumps (.arr (pack.map (·.canonical))))

/-- `SCENARIO_PACKS[scenario_pack_id]` raises once the pack has left the catalog. -/
def scenarioPackRevision (catalog : ScenarioCatalog F) (scenarioPackId : String) :
    Except PyException String :=
  match catalog.packs.get? scenarioPackId with
  | none => .error (.keyError scenarioPackId)
  | some pack => .ok (packRevision pack)

theorem scenarioPackRevision_eq_ok {catalog : ScenarioCatalog F} {revision : String} :
    scenarioPackRevision catalog scenarioPackId = .ok revision ↔
      ∃ pack, catalog.packs.get? scenarioPackId = some pack ∧ packRevision pack = revision := by
  unfold scenarioPackRevision
  cases catalog.packs.get? scenarioPackId with
  | none => simp
  | some pack => simp

end LotusRisk
