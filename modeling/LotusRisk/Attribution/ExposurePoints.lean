import LotusRisk.Lib.Tally
import LotusRisk.Attribution.BenchmarkExposure

/-! Position rows grouped into exposure weights, for each date and grouping dimension. -/

namespace LotusRisk
set_option autoImplicit true

open Relational

variable {K : Type}

section Numbers

/-- A sum is not finite where a term is not; that opposite infinities raise at once is left to the
weight, which raises as well. -/
def PyNumber.add [Add K] : PyNumber K → PyNumber K → PyNumber K
  | .finite x, .finite y => .finite (x + y)
  | _, _ => .nonFinite

instance [Add K] : Add (PyNumber K) := ⟨PyNumber.add⟩

instance [Zero K] : Zero (PyNumber K) := ⟨.finite 0⟩

theorem PyNumber.zero_eq [Zero K] : (0 : PyNumber K) = .finite 0 := rfl

instance [AddCommMonoid K] : AddCommMonoid (PyNumber K) where
  nsmul := nsmulRec
  add_assoc x y z := by
    cases x with
    | nonFinite => cases y <;> cases z <;> rfl
    | finite x =>
      cases y with
      | nonFinite => cases z <;> rfl
      | finite y =>
        cases z with
        | nonFinite => rfl
        | finite z => exact congrArg PyNumber.finite (add_assoc x y z)
  zero_add x := by
    cases x with
    | nonFinite => rfl
    | finite x => exact congrArg PyNumber.finite (zero_add x)
  add_zero x := by
    cases x with
    | nonFinite => rfl
    | finite x => exact congrArg PyNumber.finite (add_zero x)
  add_comm x y := by
    cases x with
    | nonFinite => cases y <;> rfl
    | finite x =>
      cases y with
      | nonFinite => rfl
      | finite y => exact congrArg PyNumber.finite (add_comm x y)

variable [AddCommMonoid K]

theorem PyNumber.add_eq_finite {x y : PyNumber K} : x + y = .finite s ↔
    ∃ a b, x = .finite a ∧ y = .finite b ∧ s = a + b := by
  constructor
  · intro h
    cases x with
    | nonFinite => cases y <;> cases h
    | finite a =>
      cases y with
      | nonFinite => cases h
      | finite b =>
        cases h
        exact ⟨a, b, rfl, rfl, rfl⟩
  · rintro ⟨a, b, rfl, rfl, rfl⟩
    rfl

/-- The number, where it is finite. -/
def PyNumber.toFinite : PyNumber K → K
  | .finite x => x
  | .nonFinite => 0

/-- A finite sum has finite terms, which add up to it. -/
theorem PyNumber.sum_eq_finite {xs : List (PyNumber K)} : xs.sum = .finite s ↔
    (∀ x ∈ xs, x = .finite x.toFinite) ∧ (xs.map PyNumber.toFinite).sum = s := by
  induction xs generalizing s with
  | nil =>
    rw [List.sum_nil, PyNumber.zero_eq, PyNumber.finite.injEq]
    exact ⟨fun h => ⟨nofun, h⟩, fun h => h.2⟩
  | cons x xs ih =>
    rw [List.sum_cons, PyNumber.add_eq_finite, List.forall_mem_cons, List.map_cons, List.sum_cons]
    constructor
    · rintro ⟨a, b, rfl, hb, rfl⟩
      obtain ⟨hxs, rfl⟩ := ih.1 hb
      exact ⟨⟨rfl, hxs⟩, rfl⟩
    · rintro ⟨⟨hx, hxs⟩, rfl⟩
      exact ⟨_, _, hx, ih.2 ⟨hxs, rfl⟩, rfl⟩

theorem PyNumber.nsmul_finite (n : ℕ) (x : K) :
    n • PyNumber.finite x = .finite (n • x) := by
  induction n with
  | zero => rw [zero_nsmul, zero_nsmul, PyNumber.zero_eq]
  | succ n ih =>
    rw [succ_nsmul, succ_nsmul, ih]
    rfl

end Numbers

section Grouping

variable [DecidableEq K] [Field K] (texts : PyTexts K)
  (issuerMap : Dict String (String × Option String))

/-- `str(value) if value else default`. -/
def strOr (value : PyValue K) (default : String) : String :=
  if value.truthy then texts.pyStr value else default

def groupKeyAndLabel (row : List (String × PyValue K)) (groupingDimension : GroupingDimension) :
    Except PyException (String × Option String) :=
  let securityId := strOr texts (getEntry row "security_id") "UNKNOWN_SECURITY"
  let dimensions := mappingOrEmpty (getEntry row "dimensions")
  match groupingDimension with
  | .position => .ok (securityId, some securityId)
  | .sector =>
    let label := strOr texts (getEntry dimensions "sector") "UNKNOWN"
    .ok (s!"SECTOR_{label}", some label)
  | .assetClass =>
    let label := strOr texts (getEntry dimensions "asset_class") "UNKNOWN"
    .ok (s!"ASSET_CLASS_{label}", some label)
  | .issuer => .ok (issuerMap.getD securityId (s!"ISSUER_{securityId}", none))
  | .custom => .error (.valueError "Unsupported stateful grouping_dimension=CUSTOM")

structure ExposureAggregation (K : Type) where
  groupedValues : Dict (Date × GroupingDimension × String) (PyNumber K)
  totalsByDate : Dict Date (PyNumber K)
  labels : Dict (GroupingDimension × String) (Option String)

def ExposureAggregation.empty : ExposureAggregation K := ⟨Table.empty, Table.empty, Table.empty⟩

def ExposureAggregation.addGroup (row : List (String × PyValue K)) (obsDate : Date)
    (marketValue : PyNumber K) (aggregation : ExposureAggregation K)
    (groupingDimension : GroupingDimension) : Except PyException (ExposureAggregation K) := do
  let (groupKey, groupLabel) ← groupKeyAndLabel texts issuerMap row groupingDimension
  .ok { aggregation with
    labels := aggregation.labels.set (groupingDimension, groupKey) groupLabel
    groupedValues :=
      aggregation.groupedValues.add ((obsDate, groupingDimension, groupKey), marketValue) }

def ExposureAggregation.addRow (groupingDimensions : List GroupingDimension)
    (aggregation : ExposureAggregation K) (row : List (String × PyValue K)) (obsDate : Date)
    (marketValue : PyNumber K) : Except PyException (ExposureAggregation K) :=
  groupingDimensions.foldlM (ExposureAggregation.addGroup texts issuerMap row obsDate marketValue)
    { aggregation with totalsByDate := aggregation.totalsByDate.add (obsDate, marketValue) }

/-- `as_decimal`. -/
def asDecimal (value : PyValue K) : Except PyException (PyNumber K) :=
  match texts.toDecimal value with
  | some number => .ok number
  | none => .error (.valueError
      s!"Invalid market value from lotus-core position-timeseries: {texts.pyStr value}")

def marketValueFromPositionRow (row : List (String × PyValue K)) :
    Except PyException (PyNumber K) :=
  let endingReporting := getEntry row "ending_market_value_reporting_currency"
  let endingPortfolio := getEntry row "ending_market_value_portfolio_currency"
  asDecimal texts (if endingReporting.isNone then endingPortfolio else endingReporting)

/-- One row of the loop; rows without a date text are left out. -/
def addPositionRow (groupingDimensions : List GroupingDimension)
    (aggregation : ExposureAggregation K) (row : List (String × PyValue K)) :
    Except PyException (ExposureAggregation K) :=
  match getEntry row "valuation_date" with
  | .str valuationDate =>
    match texts.fromisoformat valuationDate with
    | none => .error (.valueError s!"Invalid isoformat string: {texts.repr (.str valuationDate)}")
    | some obsDate => do
      let marketValue ← marketValueFromPositionRow texts row
      aggregation.addRow texts issuerMap groupingDimensions row obsDate marketValue
  | _ => .ok aggregation

/-- The point of a group, unless the total of its date is zero. -/
def exposurePoint (aggregation : ExposureAggregation K)
    (item : (Date × GroupingDimension × String) × PyNumber K) :
    Except PyException (Option (ExposurePoint K)) :=
  let nonFinite := PyException.validationError [⟨"weight", "Input should be a finite number"⟩]
  match aggregation.totalsByDate.getD item.1.1 0 with
  | .nonFinite => .error nonFinite
  | .finite denominator =>
    if denominator = 0 then .ok none
    else
      match item.2 with
      | .nonFinite => .error nonFinite
      | .finite numerator => .ok (some ⟨item.1.1, item.1.2.1, item.1.2.2,
          aggregation.labels.getD item.1.2 none, numerator / denominator⟩)

def exposurePointsFromAggregation (aggregation : ExposureAggregation K) :
    Except PyException (List (ExposurePoint K)) := do
  let points ← aggregation.groupedValues.items.mapM (exposurePoint aggregation)
  .ok (sortExposurePoints (points.filterMap id))

def buildExposurePoints (groupingDimensions : List GroupingDimension)
    (rows : List (List (String × PyValue K))) : Except PyException (List (ExposurePoint K)) := do
  let aggregation ←
    rows.foldlM (addPositionRow texts issuerMap groupingDimensions) ExposureAggregation.empty
  exposurePointsFromAggregation aggregation

end Grouping

end LotusRisk
