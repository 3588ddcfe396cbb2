import LotusRisk.Drawdown.Details
import LotusRisk.Risk.Resampling
import LotusRisk.Statistics

/-! The metrics of a return series, and those of a portfolio against its benchmark. -/

namespace LotusRisk
set_option autoImplicit true

open Relational

/-- The functions of `math`, `statistics` and pandas that the metrics call; `none` is NaN. -/
structure PyMath (K : Type) [Zero K] [One K] [LE K] where
  sqrt : K → K
  log1p : K → K
  /-- `NormalDist().inv_cdf`. -/
  invCdf : K → K
  pow : K → K → K
  /-- `Series.skew`. -/
  skew : List K → Option K
  /-- `Series.kurt`. -/
  kurt : List K → Option K
  sqrt_nonneg : ∀ x, 0 ≤ sqrt x
  sqrt_one : sqrt 1 = 1

variable {K : Type} [Field K] [LinearOrder K]

def logReturnUndefinedError : String :=
  "Log returns are undefined for returns less than or equal to -100%"

def insufficientData : PyException := .valueError "Insufficient data"

section Statistics

/-- `np.isclose(x, 0.0)`. -/
def isCloseToZero (x : K) : Bool := decide (|x| ≤ 1 / (100000000 : Nat))

/-- `_require_data`. -/
def requireData (values : List K) (minimum : Nat) : Except PyException Unit :=
  raiseIf (decide (values.length < minimum)) insufficientData

omit [LinearOrder K] in
/-- `np.cov(xs, ys, ddof=1)[0, 1]`. -/
def sampleCovariance (xs ys : List K) : K :=
  (List.zipWith (fun x y => (x - mean xs) * (y - mean ys)) xs ys).sum / ((xs.length : K) - 1)

/-- `values.std(ddof=1)`. -/
def sampleStd (math : PyMath K) (values : List K) : K := math.sqrt (sampleCovariance values values)

/-- `math.sqrt(n)`, which converts the integer to a float first. -/
def sqrtOfInt (math : PyMath K) (n : Nat) : Except PyException K :=
  if beyondFloat n then .error (.overflowError "int too large to convert to float")
  else .ok (math.sqrt n)

/-- `_to_log_returns`. -/
def toLogReturns (math : PyMath K) (returns : Series Date K) :
    Except PyException (Series Date K) :=
  if returns.values.any (fun r => decide (r ≤ -((100 : Nat) : K))) then
    .error (.valueError logReturnUndefinedError)
  else .ok (returns.map (fun r => inPercent (math.log1p (fromPercent r))))

end Statistics

section ValueAtRisk

variable [FloorRing K] (math : PyMath K)

/-- `np.percentile(values, p)`. -/
def percentile (values : List K) (p : K) : Except PyException K :=
  match quantile values (fromPercent p) with
  | some value => .ok value
  | none => .error (.valueError "Percentiles must be in the range [0, 100]")

def varHistorical (returns : List K) (confidence : K) : Except PyException K :=
  let alpha := 1 - confidence
  percentile returns (inPercent alpha)

omit [FloorRing K] in
def varGaussian (returns : List K) (confidence : K) : K :=
  let alpha := 1 - confidence
  mean returns + sampleStd math returns * math.invCdf alpha

def cornishFisherMinimumObservations : Nat := 4

omit [FloorRing K] [LinearOrder K] in
/-- The quantile of the Cornish-Fisher expansion. -/
def cornishFisherQuantile (z skew kurt : K) : K :=
  z + (z * z - 1) * skew / (6 : Nat) + (z * z * z - (3 : Nat) * z) * kurt / (24 : Nat) -
    ((2 : Nat) * (z * z * z) - (5 : Nat) * z) * (skew * skew) / (36 : Nat)

omit [FloorRing K] in
def varCornishFisher (returns : List K) (confidence : K) : Except PyException K := do
  requireData returns cornishFisherMinimumObservations
  let alpha := 1 - confidence
  let zScore := math.invCdf alpha
  match math.skew returns, math.kurt returns with
  | some skew, some kurt =>
    .ok (mean returns + sampleStd math returns * cornishFisherQuantile zScore skew kurt)
  | _, _ => .error (.valueError "Cornish-Fisher VaR is undefined for this sample")

def calculateVarByMethod (returns : List K) (method : VaRMethod) (confidence : K) :
    Except PyException K :=
  match method with
  | .historical => varHistorical returns confidence
  | .gaussian => .ok (varGaussian math returns confidence)
  | .cornishFisher => varCornishFisher math returns confidence

omit [FloorRing K] in
def varTail (returns : List K) (varValue : K) : List K := returns.filter (fun r => r ≤ varValue)

omit [FloorRing K] in
def expectedShortfall (returns : List K) (varValue : K) : K :=
  if (varTail returns varValue).isEmpty then varValue else mean (varTail returns varValue)

omit [FloorRing K] in
def varDetails (values : List K) (method : VaRMethod) (confidence : K) (horizonDays : Nat)
    (includeExpectedShortfall : Bool) (samplingFrequency : String) (baseVar : K) :
    Dict String (DetailValue K) :=
  let horizonScaleFactor := math.sqrt horizonDays
  let tailObservationCount := (varTail values baseVar).length
  let baseEs := expectedShortfall values baseVar
  Dict.ofList ([("method", .str method.text), ("confidence", .float confidence),
    ("tail_probability", .float (1 - confidence)), ("base_horizon_days", .int 1),
    ("horizon_days", .int horizonDays), ("sampling_frequency", .str samplingFrequency),
    ("horizon_scale_method", .str "SQRT_TIME"),
    ("horizon_scale_factor", .float horizonScaleFactor),
    ("include_expected_shortfall", .bool includeExpectedShortfall), ("base_var", .float baseVar),
    ("observation_count", .int values.length),
    ("tail_observation_count", .int tailObservationCount)] ++
    if includeExpectedShortfall then
      [("base_expected_shortfall", .float baseEs),
        ("expected_shortfall_observation_count", .int tailObservationCount),
        ("expected_shortfall", .float (baseEs * horizonScaleFactor))]
    else [])

def calculateVar (values : List K) (method : VaRMethod) (confidence : K) (horizonDays : Nat)
    (includeExpectedShortfall : Bool) (samplingFrequency : String) :
    Except PyException (RiskValue K) := do
  requireData values (2 : Nat)
  let baseVar ← calculateVarByMethod math values method confidence
  let horizonScaleFactor ← sqrtOfInt math horizonDays
  .ok {
    value := some (baseVar * horizonScaleFactor)
    details := some (varDetails math values method confidence horizonDays includeExpectedShortfall
      samplingFrequency baseVar) }

end ValueAtRisk

section ReturnMetrics

variable (math : PyMath K)

def calculateVolatility (values : List K) (annualFactor : Nat) :
    Except PyException (RiskValue K) := do
  requireData values (2 : Nat)
  let standardDeviation := fromPercent (sampleStd math values)
  let annualScale ← sqrtOfInt math annualFactor
  .ok {
    value := some (inPercent (standardDeviation * annualScale))
    details := some (Dict.ofList [("observation_count", .int values.length),
      ("standard_deviation", .float standardDeviation),
      ("annualization_factor", .int annualFactor)]) }

omit [Field K] [LinearOrder K] in
def textDetail : Option String → DetailValue K
  | some text => .str text
  | none => .none

omit [Field K] [LinearOrder K] in
def countDetail : Option Int → DetailValue K
  | some n => .int n
  | none => .none

omit [Field K] [LinearOrder K] in
def drawdownPayload (details : DrawdownDetails K) : Dict String (DetailValue K) :=
  Dict.ofList [("max_drawdown", .float details.maxDrawdown),
    ("peak_date", textDetail details.peakDate), ("trough_date", textDetail details.troughDate),
    ("max_drawdown_date", textDetail details.maxDrawdownDate),
    ("recovery_date", textDetail details.recoveryDate),
    ("is_recovered", .bool details.isRecovered),
    ("days_to_trough", countDetail details.daysToTrough),
    ("days_to_recovery", countDetail details.daysToRecovery),
    ("time_under_water_days", countDetail details.timeUnderWaterDays)]

/-- A label is always found, so that there is no `KeyError`. -/
def calculateDrawdown (drawdownSeries : Series Date K) : Except PyException (RiskValue K) :=
  match drawdownDetails drawdownSeries with
  | some details =>
    .ok { value := some details.maxDrawdown, details := some (drawdownPayload details) }
  | none => .error (.keyError "drawdown")

def calculateSharpe (values : List K) (periodicRf : K) (annualFactor : Nat) :
    Except PyException (RiskValue K) := do
  requireData values (2 : Nat)
  let denominator := sampleStd math values
  raiseIf (isCloseToZero denominator) (.valueError "Zero volatility")
  let meanReturn := fromPercent (mean values)
  let excessReturn := meanReturn - periodicRf
  let annualScale ← sqrtOfInt math annualFactor
  .ok {
    value := some (excessReturn / fromPercent denominator * annualScale)
    details := some (Dict.ofList [("observation_count", .int values.length),
      ("annualization_factor", .int annualFactor), ("mean_return", .float meanReturn),
      ("periodic_risk_free_rate", .float periodicRf), ("excess_return", .float excessReturn),
      ("annualized_excess_return", .float (excessReturn * annualFactor)),
      ("volatility", .float (fromPercent denominator))]) }

def calculateSortino (values : List K) (periodicMar : K) (annualFactor : Nat) (marAnnualRate : K) :
    Except PyException (RiskValue K) := do
  requireData values (2 : Nat)
  let downside := (values.map (fun r => fromPercent r - periodicMar)).filter (fun d => d < 0)
  raiseIf downside.isEmpty (.valueError "No downside observations")
  let downsideDeviation := math.sqrt (mean (downside.map (fun d => d * d)))
  let meanReturn := fromPercent (mean values)
  let excessReturn := meanReturn - periodicMar
  let annualScale ← sqrtOfInt math annualFactor
  .ok {
    value := some (excessReturn / downsideDeviation * annualScale)
    details := some (Dict.ofList [("observation_count", .int values.length),
      ("annualization_factor", .int annualFactor), ("mar_annual_rate", .float marAnnualRate),
      ("periodic_mar", .float periodicMar), ("mean_return", .float meanReturn),
      ("excess_return", .float excessReturn),
      ("annualized_excess_return", .float (excessReturn * annualFactor)),
      ("downside_observation_count", .int downside.length),
      ("downside_deviation", .float downsideDeviation)]) }

end ReturnMetrics

section BenchmarkMetrics

variable (math : PyMath K)

/-- The metrics that are taken against a benchmark. -/
inductive BenchmarkMetric where
  | beta
  | trackingError
  | informationRatio
deriving DecidableEq, Repr

def beta (portfolio benchmark : List K) : Except PyException (RiskValue K) := do
  let denominator := sampleCovariance benchmark benchmark
  raiseIf (isCloseToZero denominator) (.valueError "Benchmark variance is zero")
  let covariancePb := sampleCovariance portfolio benchmark
  .ok {
    value := some (covariancePb / denominator)
    details := some (Dict.ofList [("aligned_observation_count", .int portfolio.length),
      ("portfolio_mean_return", .float (fromPercent (mean portfolio))),
      ("benchmark_mean_return", .float (fromPercent (mean benchmark))),
      ("covariance", .float covariancePb), ("benchmark_variance", .float denominator)]) }

def trackingError (portfolio benchmark : List K) (annualFactor : Nat) :
    Except PyException (RiskValue K) := do
  let active := List.zipWith (fun p b => p - b) portfolio benchmark
  let activeStd := sampleStd math active
  let annualScale ← sqrtOfInt math annualFactor
  let annualizedTrackingError := activeStd * annualScale
  .ok {
    value := some annualizedTrackingError
    details := some (Dict.ofList [("aligned_observation_count", .int active.length),
      ("annualization_factor", .int annualFactor),
      ("portfolio_mean_return", .float (fromPercent (mean portfolio))),
      ("benchmark_mean_return", .float (fromPercent (mean benchmark))),
      ("active_mean_return", .float (fromPercent (mean active))),
      ("active_volatility", .float (fromPercent activeStd)),
      ("annualized_tracking_error", .float (fromPercent annualizedTrackingError))]) }

def informationRatio (portfolio benchmark : List K) (annualFactor : Nat) :
    Except PyException (RiskValue K) := do
  let active := List.zipWith (fun p b => p - b) portfolio benchmark
  let trackingErr := sampleStd math active
  raiseIf (isCloseToZero trackingErr) (.valueError "Tracking error is zero")
  let activeMean := fromPercent (mean active)
  let trackingErrorValue := fromPercent trackingErr
  let annualScale ← sqrtOfInt math annualFactor
  .ok {
    value := some (mean active / trackingErr * annualScale)
    details := some (Dict.ofList [("aligned_observation_count", .int active.length),
      ("annualization_factor", .int annualFactor),
      ("portfolio_mean_return", .float (fromPercent (mean portfolio))),
      ("benchmark_mean_return", .float (fromPercent (mean benchmark))),
      ("active_mean_return", .float activeMean), ("tracking_error", .float trackingErrorValue),
      ("annualized_active_return", .float (activeMean * annualFactor)),
      ("annualized_tracking_error", .float (trackingErrorValue * annualScale))]) }

def calculateBenchmarkMetric (portfolio benchmark : List K) (annualFactor : Nat) :
    BenchmarkMetric → Except PyException (RiskValue K)
  | .beta => beta portfolio benchmark
  | .trackingError => trackingError math portfolio benchmark annualFactor
  | .informationRatio => informationRatio math portfolio benchmark annualFactor

end BenchmarkMetrics

end LotusRisk
