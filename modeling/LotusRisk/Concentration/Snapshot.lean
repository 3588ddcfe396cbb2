import LotusRisk.Concentration.Issuers
import LotusRisk.Lib.Raising

/-! The positions of a portfolio snapshot, and the issuers they are grouped by. -/

namespace LotusRisk
set_option autoImplicit true

open Relational

variable {F : Type} [ExposureFloat F] (texts : PyTexts ℚ)

/-- A market value that is not positive is no value. -/
def snapshotMarketValue (position : List (String × PyValue ℚ)) : Except PyException (Option ℚ) :=
  let rawMarketValue := getEntry position "market_value_base"
  if rawMarketValue.isNone then .error (.valueError "missing_market_value_base")
  else
    match texts.toDecimal rawMarketValue with
    | some (.finite marketValue) => .ok (if 0 < marketValue then some marketValue else none)
    | _ => .error (.valueError "invalid_market_value_base")

def snapshotPositionEntry (position : List (String × PyValue ℚ)) :
    Except PyException (Option (PositionEntry F)) := do
  let candidate ← snapshotMarketValue texts position
  .ok (candidate.map fun value =>
    ⟨asStr (getEntry position "security_id"), asStr (getEntry position "instrument_name"),
      toExposureValue value⟩)

/-- One row of the loop: its entry is kept, and added to its issuer. -/
def readSnapshotRow (issuerBySecurity : Dict String IssuerIdentity)
    (state : List (PositionEntry F) × IssuerTally F) (position : PyValue ℚ) :
    Except PyException (List (PositionEntry F) × IssuerTally F) :=
  match position with
  | .dict entries => do
    match ← snapshotPositionEntry texts entries with
    | none => .ok state
    | some positionEntry =>
      .ok (state.1 ++ [positionEntry], weighRow issuerBySecurity state.2 positionEntry)
  | _ => .error (.typeError "invalid_position_row")

/-- `_extract_values_with_issuer_from_snapshot`. -/
def extractValuesWithIssuerFromSnapshot (positions : Option (List (PyValue ℚ)))
    (issuerBySecurity : Dict String IssuerIdentity) :
    Except PyException (List (PositionEntry F) × IssuerTally F) :=
  (positions.getD []).foldlM (readSnapshotRow texts issuerBySecurity) ([], ⟨Table.empty, 0, 0⟩)

variable {texts}

/-- A snapshot weighs its entries as a payload does. -/
theorem snapshot_tally {issuerBySecurity : Dict String IssuerIdentity}
    {entries : List (PositionEntry F)}
    (h : extractValuesWithIssuerFromSnapshot texts positions issuerBySecurity =
      .ok (entries, tally)) : tally = toWeightedValues entries issuerBySecurity := by
  apply Raising.foldlM_invariant
    (fun state => state.2 = toWeightedValues state.1 issuerBySecurity) _ rfl h
  intro state row next hstate hrow
  cases row with
  | dict fields =>
    obtain ⟨entry, _, hnext⟩ := bind_eq_ok.1 hrow
    cases entry with
    | none =>
      cases hnext
      exact hstate
    | some entry =>
      cases hnext
      simp only [toWeightedValues, List.foldl_append, List.foldl_cons, List.foldl_nil] at hstate ⊢
      rw [hstate]
  | _ => cases hrow

end LotusRisk
