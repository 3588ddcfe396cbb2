import LotusRisk.Lib.TrailingWindows
import LotusRisk.Rolling.Contracts

/-! The rolling metrics of a period, each as a series with a value or NaN at every date. -/

namespace LotusRisk
set_option autoImplicit true

open TrailingWindows

variable {K : Type} [Field K] [LinearOrder K]

/-- A series of computed values; `none` is NaN. -/
abbrev RollingValues (K : Type) := Series Date (Option K)

structure RollingMetricCalculation (K : Type) where
  values : RollingValues K
  qualityFlags : List String
  alignedBenchmarkSeriesCount : Nat
  alignedRiskFreeSeriesCount : Nat

structure RollingMetricCalculationContext (K : Type) where
  portfolioDecimal : Series Date K
  benchmarkDecimal : Series Date K
  riskFreeDecimal : Series Date K
  windowLength : Int
  annualizationBasis : Nat
  minObs : Int

def minObservations (windowLength : Int) : MinObservationsPolicy → Int
  | .allowPartial => 2
  | .strict => windowLength

section Windows

/-- The checks of `Series.rolling(window, min_periods)`. -/
def validateRolling (context : RollingMetricCalculationContext K) : Except PyException Unit := do
  raiseIf (decide (context.minObs < 0)) (.valueError "min_periods must be >= 0")
  raiseIf (decide (context.windowLength < context.minObs))
    (.valueError s!"min_periods {context.minObs} must be <= window {context.windowLength}")
  raiseIf (decide (context.windowLength < 0))
    (.valueError "window must be an integer 0 or greater")

def rollingList (context : RollingMetricCalculationContext K) (f : List α → Option K)
    (values : List α) : List (Option K) :=
  rolling context.windowLength.toNat context.minObs.toNat f values

omit [Field K] [LinearOrder K] in
theorem length_rollingList (context : RollingMetricCalculationContext K) (f : List α → Option K)
    (values : List α) : (rollingList context f values).length = values.length :=
  length_rolling _ _ f values

/-- `series.rolling(window, min_periods).apply(f)`. -/
def rollingApply (context : RollingMetricCalculationContext K) (f : List α → Option K)
    (series : Series Date α) : RollingValues K :=
  series.withValues (rollingList context f series.values) (length_rollingList context f _)

omit [LinearOrder K] in
/-- `mean()`. -/
def windowMean (window : List K) : Option K := if window.isEmpty then none else some (mean window)

/-- `std(ddof=1)`. -/
def windowStd (math : PyMath K) (window : List K) : Option K :=
  if window.length < (2 : Nat) then none else some (sampleStd math window)

omit [LinearOrder K] in
/-- `var(ddof=1)` of the second series. -/
def windowVar (window : List (K × K)) : Option K :=
  if window.length < (2 : Nat) then none
  else some (sampleCovariance (window.map Prod.snd) (window.map Prod.snd))

omit [LinearOrder K] in
/-- `cov` of the two series, with the default `ddof=1`. -/
def windowCov (window : List (K × K)) : Option K :=
  if window.length < (2 : Nat) then none
  else some (sampleCovariance (window.map Prod.fst) (window.map Prod.snd))

/-- A quotient by zero is infinite or NaN, and either becomes NaN. -/
def quotient (numerator denominator : Option K) : Option K :=
  match numerator, denominator with
  | some numerator, some denominator =>
    if denominator = 0 then none else some (numerator / denominator)
  | _, _ => none

omit [LinearOrder K] in
theorem length_rollingQuotient [LinearOrder K] (context : RollingMetricCalculationContext K)
    (numerator denominator : List α → Option K) (values : List α) :
    (List.zipWith quotient (rollingList context numerator values)
      (rollingList context denominator values)).length = values.length := by
  rw [List.length_zipWith, length_rollingList, length_rollingList, Nat.min_self]

/-- The quotient of two rolling statistics of one series. -/
def rollingQuotient (context : RollingMetricCalculationContext K)
    (numerator denominator : List α → Option K) (series : Series Date α) : RollingValues K :=
  series.withValues
    (List.zipWith quotient (rollingList context numerator series.values)
      (rollingList context denominator series.values))
    (length_rollingQuotient context numerator denominator _)

end Windows

section Metrics

variable (math : PyMath K) (context : RollingMetricCalculationContext K)

def emptyRollingValues : RollingValues K := Series.empty

/-- A value times `sqrt(annualization_basis)`. -/
def annualized (value : Option K) : Option K :=
  value.map fun value => value * math.sqrt context.annualizationBasis

def rollingVolatility (series : Series Date K) : Except PyException (RollingValues K) := do
  validateRolling context
  .ok ((rollingApply context (windowStd math) series).map (annualized math context))

/-- A flag, where some window has the statistic zero. -/
def zeroWindowFlags (statistic : List α → Option K) (series : Series Date α) (flag : String) :
    List String :=
  if (rollingList context statistic series.values).any fun value => decide (value = some 0) then
    [flag]
  else []

/-- The annualized mean of active returns over their deviation. -/
def rollingActiveRatio (active : Series Date K) (flag : String) :
    Except PyException (RollingValues K × List String) := do
  validateRolling context
  .ok ((rollingQuotient context windowMean (windowStd math) active).map (annualized math context),
    zeroWindowFlags context (windowStd math) active flag)

def activeRollingReturns (aligned : Series Date (K × K)) : Series Date K :=
  aligned.map fun pair => pair.1 - pair.2

def rollingSharpe : Except PyException (RollingValues K × List String × Nat) :=
  let aligned := context.portfolioDecimal.innerJoin context.riskFreeDecimal
  if aligned.isEmpty then .ok (emptyRollingValues, ["metric:ROLLING_SHARPE:alignment_empty"], 0)
  else do
    let (sharpe, flags) ← rollingActiveRatio math context (activeRollingReturns aligned)
      "metric:ROLLING_SHARPE:zero_volatility_window"
    .ok (sharpe, flags, aligned.index.length)

def rollingTrackingError (aligned : Series Date (K × K)) :
    Except PyException (RollingValues K × List String) := do
  let result ← rollingVolatility math context (activeRollingReturns aligned)
  .ok (result, [])

def rollingInformationRatio (aligned : Series Date (K × K)) :
    Except PyException (RollingValues K × List String) :=
  rollingActiveRatio math context (activeRollingReturns aligned)
    "metric:ROLLING_INFORMATION_RATIO:zero_tracking_error_window"

def rollingBetaMetric (aligned : Series Date (K × K)) :
    Except PyException (RollingValues K × List String) := do
  validateRolling context
  .ok (rollingQuotient context windowCov windowVar aligned,
    zeroWindowFlags context windowVar aligned "metric:ROLLING_BETA:benchmark_variance_zero")

def calculateAlignedRollingBenchmarkMetric (aligned : Series Date (K × K)) :
    BenchmarkMetric → Except PyException (RollingValues K × List String)
  | .trackingError => rollingTrackingError math context aligned
  | .informationRatio => rollingInformationRatio math context aligned
  | .beta => rollingBetaMetric context aligned

def calculateRollingBenchmarkMetricValues (metric : BenchmarkMetric) :
    Except PyException (RollingValues K × List String × Nat) :=
  let aligned := context.portfolioDecimal.innerJoin context.benchmarkDecimal
  if aligned.isEmpty then
    .ok (emptyRollingValues,
      ["metric:" ++ (RollingMetric.benchmark metric).text ++ ":alignment_empty"], 0)
  else do
    let (result, flags) ← calculateAlignedRollingBenchmarkMetric math context aligned metric
    .ok (result, flags, aligned.index.length)

def rollingMaxDrawdownMetric : Except PyException (RollingValues K) := do
  validateRolling context
  .ok (rollingApply context rollingMaxDrawdown context.portfolioDecimal)

def withoutDependencyCounts (values : RollingValues K) : RollingMetricCalculation K :=
  ⟨values, [], 0, 0⟩

def withBenchmarkCount (result : RollingValues K × List String × Nat) :
    RollingMetricCalculation K := ⟨result.1, result.2.1, result.2.2, 0⟩

def withRiskFreeCount (result : RollingValues K × List String × Nat) :
    RollingMetricCalculation K := ⟨result.1, result.2.1, 0, result.2.2⟩

def calculateRollingMetricValues :
    RollingMetric → Except PyException (RollingMetricCalculation K)
  | .rollingVolatility =>
    (rollingVolatility math context context.portfolioDecimal).map withoutDependencyCounts
  | .rollingSharpe => (rollingSharpe math context).map withRiskFreeCount
  | .benchmark metric =>
    (calculateRollingBenchmarkMetricValues math context metric).map withBenchmarkCount
  | .rollingMaxDrawdown => (rollingMaxDrawdownMetric context).map withoutDependencyCounts

end Metrics

section Specification

variable {math : PyMath K} {context : RollingMetricCalculationContext K}

/-- Values at dates of the portfolio, none of them before the minimum of observations. -/
structure RollsOver (context : RollingMetricCalculationContext K) (values : RollingValues K) :
    Prop where
  dates : values.index.Sublist context.portfolioDecimal.index
  warmsUp : WarmsUp (context.minObs.toNat - 1) values.values

omit [Field K] [LinearOrder K] in
theorem rollsOver_empty : RollsOver context emptyRollingValues :=
  ⟨List.nil_sublist _, warmsUp_nil _⟩

omit [Field K] [LinearOrder K] in
theorem rollsOver_apply {series : Series Date α} {f : List α → Option K}
    (h : series.index.Sublist context.portfolioDecimal.index) :
    RollsOver context (rollingApply context f series) :=
  ⟨h, warmsUp_rolling _ _ f series.values⟩

theorem quotient_none (numerator : Option K) : quotient numerator none = none := by
  cases numerator <;> rfl

theorem rollsOver_quotient {series : Series Date α} {f g : List α → Option K}
    (h : series.index.Sublist context.portfolioDecimal.index) :
    RollsOver context (rollingQuotient context f g series) :=
  ⟨h, (warmsUp_rolling _ _ g series.values).zipWith_right quotient_none⟩

theorem RollsOver.annualized {values : RollingValues K} (h : RollsOver context values) :
    RollsOver context (values.map (annualized math context)) := ⟨h.dates, h.warmsUp.map rfl⟩

/-- The computation returns values that roll over the portfolio. -/
def ReturnsRolling (context : RollingMetricCalculationContext K)
    (result : Except PyException α) (values : α → RollingValues K) : Prop :=
  ∃ a, result = .ok a ∧ RollsOver context (values a)

omit [Field K] [LinearOrder K] in
theorem ReturnsRolling.map {result : Except PyException α} {values : α → RollingValues K}
    (h : ReturnsRolling context result values) {f : α → β} {values' : β → RollingValues K}
    (hf : ∀ a, values' (f a) = values a) : ReturnsRolling context (result.map f) values' := by
  obtain ⟨a, rfl, ha⟩ := h
  exact ⟨f a, rfl, hf a ▸ ha⟩

omit [Field K] [LinearOrder K] in
/-- A window of two or more observations is one that pandas accepts, whatever the policy. -/
theorem validateRolling_minObservations (hwindow : 1 < context.windowLength)
    (hminimum : context.minObs = minObservations context.windowLength policy) :
    validateRolling context = .ok () := by
  have hbounds : 0 ≤ context.minObs ∧ context.minObs ≤ context.windowLength := by
    rw [hminimum]
    cases policy with
    | strict => exact ⟨by rw [minObservations]; omega, le_rfl⟩
    | allowPartial => exact ⟨Int.natCast_nonneg 2, hwindow⟩
  rw [validateRolling, raiseIf_bind_eq_ok, raiseIf_bind_eq_ok, raiseIf_eq_ok]
  exact ⟨decide_eq_false (Int.not_lt.2 hbounds.1), decide_eq_false (Int.not_lt.2 hbounds.2),
    decide_eq_false (by omega)⟩

variable (hvalid : validateRolling context = .ok ())
include hvalid

theorem rollingVolatility_returns {series : Series Date K}
    (h : series.index.Sublist context.portfolioDecimal.index) :
    ReturnsRolling context (rollingVolatility math context series) id := by
  rw [rollingVolatility, hvalid]
  exact ⟨_, rfl, (rollsOver_apply h).annualized⟩

theorem rollingActiveRatio_returns {active : Series Date K}
    (h : active.index.Sublist context.portfolioDecimal.index) (flag : String) :
    ReturnsRolling context (rollingActiveRatio math context active flag) Prod.fst := by
  rw [rollingActiveRatio, hvalid]
  exact ⟨_, rfl, (rollsOver_quotient h).annualized⟩

theorem alignedBenchmarkMetric_returns {aligned : Series Date (K × K)}
    (h : aligned.index.Sublist context.portfolioDecimal.index) (metric : BenchmarkMetric) :
    ReturnsRolling context (calculateAlignedRollingBenchmarkMetric math context aligned metric)
      Prod.fst := by
  cases metric with
  | beta =>
    rw [calculateAlignedRollingBenchmarkMetric, rollingBetaMetric, hvalid]
    exact ⟨_, rfl, rollsOver_quotient h⟩
  | trackingError =>
    have hreturns : ReturnsRolling context
        (rollingVolatility math context (activeRollingReturns aligned)) id :=
      rollingVolatility_returns hvalid h
    obtain ⟨result, heq, hrolls⟩ := hreturns
    rw [calculateAlignedRollingBenchmarkMetric, rollingTrackingError, heq]
    exact ⟨_, rfl, hrolls⟩
  | informationRatio => exact rollingActiveRatio_returns hvalid h _

theorem rollingSharpe_returns : ReturnsRolling context (rollingSharpe math context) Prod.fst := by
  rw [rollingSharpe]
  split
  · exact ⟨_, rfl, rollsOver_empty⟩
  · have hactive : (activeRollingReturns (context.portfolioDecimal.innerJoin
        context.riskFreeDecimal)).index.Sublist context.portfolioDecimal.index :=
      Series.index_selected_sublist _ _
    obtain ⟨ratio, heq, hrolls⟩ := rollingActiveRatio_returns hvalid hactive
      "metric:ROLLING_SHARPE:zero_volatility_window"
    rw [heq]
    exact ⟨_, rfl, hrolls⟩

theorem rollingBenchmark_returns (metric : BenchmarkMetric) :
    ReturnsRolling context (calculateRollingBenchmarkMetricValues math context metric)
      Prod.fst := by
  rw [calculateRollingBenchmarkMetricValues]
  split
  · exact ⟨_, rfl, rollsOver_empty⟩
  · have haligned : (context.portfolioDecimal.innerJoin context.benchmarkDecimal).index.Sublist
        context.portfolioDecimal.index := Series.index_selected_sublist _ _
    obtain ⟨result, heq, hrolls⟩ := alignedBenchmarkMetric_returns hvalid haligned metric
    rw [heq]
    exact ⟨_, rfl, hrolls⟩

theorem rollingMaxDrawdown_returns :
    ReturnsRolling context (rollingMaxDrawdownMetric context) id := by
  rw [rollingMaxDrawdownMetric, hvalid]
  exact ⟨_, rfl, rollsOver_apply (List.Sublist.refl _)⟩

/-- Every metric returns, at dates of the portfolio and with its warm-up. -/
theorem calculateRollingMetricValues_returns (metric : RollingMetric) :
    ReturnsRolling context (calculateRollingMetricValues math context metric)
      RollingMetricCalculation.values := by
  cases metric with
  | rollingVolatility =>
    exact (rollingVolatility_returns hvalid (List.Sublist.refl _)).map fun _ => rfl
  | rollingSharpe => exact (rollingSharpe_returns hvalid).map fun _ => rfl
  | benchmark metric => exact (rollingBenchmark_returns hvalid metric).map fun _ => rfl
  | rollingMaxDrawdown => exact (rollingMaxDrawdown_returns hvalid).map fun _ => rfl

end Specification

end LotusRisk
