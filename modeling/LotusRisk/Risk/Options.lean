import LotusRisk.Upstream

namespace LotusRisk
set_option autoImplicit true

inductive Frequency where
  | daily
  | weekly
  | monthly
deriving DecidableEq, Repr

def Frequency.text : Frequency → String
  | .daily => "DAILY"
  | .weekly => "WEEKLY"
  | .monthly => "MONTHLY"

inductive RiskFreeMode where
  | zero
  | annualRate
deriving DecidableEq, Repr

inductive VaRMethod where
  | historical
  | gaussian
  | cornishFisher
deriving DecidableEq, Repr

def VaRMethod.text : VaRMethod → String
  | .historical => "HISTORICAL"
  | .gaussian => "GAUSSIAN"
  | .cornishFisher => "CORNISH_FISHER"

structure VaROptions (K : Type) [Zero K] [One K] [LT K] where
  method : VaRMethod
  confidence : K
  horizonDays : Nat
  includeExpectedShortfall : Bool
  confidence_bounds : 0 < confidence ∧ confidence < 1
  horizon_pos : 0 < horizonDays

/-- The sourced annual rate is set by `model_copy`, which does not check its bound. -/
structure RiskOptions (K : Type) [Zero K] [One K] [LT K] [LE K] where
  frequency : Frequency
  annualizationFactor : Option Nat
  useLogReturns : Bool
  riskFreeMode : RiskFreeMode
  riskFreeAnnualRate : Option K
  marAnnualRate : K
  var : VaROptions K
  annualization_pos : ∀ factor ∈ annualizationFactor, 0 < factor
  mar_nonneg : 0 ≤ marAnnualRate

variable {K : Type} [Zero K] [One K] [LT K] [LE K]

def Frequency.annualizationFactor : Frequency → Nat
  | .daily => 252
  | .weekly => 52
  | .monthly => 12

def annualizationFactorForOptions (options : RiskOptions K) : Nat :=
  options.annualizationFactor.getD options.frequency.annualizationFactor

def RiskOptions.withFrequency (options : RiskOptions K) (frequency : Frequency) : RiskOptions K :=
  { options with frequency := frequency }

theorem Frequency.annualizationFactor_injective {f g : Frequency}
    (h : f.annualizationFactor = g.annualizationFactor) : f = g := by
  cases f <;> cases g <;> first | rfl | exact absurd h (by decide)

theorem annualizationFactorForOptions_pos (options : RiskOptions K) :
    0 < annualizationFactorForOptions options := by
  unfold annualizationFactorForOptions
  cases hfactor : options.annualizationFactor with
  | some factor => exact options.annualization_pos factor hfactor
  | none => cases options.frequency <;> decide

section Defaults

variable {K : Type} [Field K] [LinearOrder K] [IsStrictOrderedRing K]

omit [LinearOrder K] [IsStrictOrderedRing K] in
def defaultConfidence : K := (99 : Nat) / (100 : Nat)

theorem defaultConfidence_bounds : 0 < (defaultConfidence : K) ∧ (defaultConfidence : K) < 1 := by
  unfold defaultConfidence
  constructor <;> norm_num

def defaultVarOptions : VaROptions K where
  method := .historical
  confidence := defaultConfidence
  horizonDays := 1
  includeExpectedShortfall := true
  confidence_bounds := defaultConfidence_bounds
  horizon_pos := Nat.one_pos

def defaultRiskOptions : RiskOptions K where
  frequency := .daily
  annualizationFactor := none
  useLogReturns := false
  riskFreeMode := .zero
  riskFreeAnnualRate := none
  marAnnualRate := 0
  var := defaultVarOptions
  annualization_pos := nofun
  mar_nonneg := le_rfl

end Defaults

end LotusRisk
