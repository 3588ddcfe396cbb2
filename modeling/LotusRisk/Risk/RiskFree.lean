import LotusRisk.Risk.Options
import LotusRisk.Statistics

namespace LotusRisk
set_option autoImplicit true

variable {K : Type}

def periodicValueConventions : List String :=
  ["period_return", "periodic_return", "daily_return", "return_series"]

def annualizedValueConventions : List String := ["annualized_rate", "annual_rate"]

def riskFreeSeriesOperation : String := "/integration/reference/risk-free-series"

structure RiskFreeSeriesRequest where
  currency : String
  asOfDate : Date
  seriesMode : String
  startDate : Date
  endDate : Date
  frequency : String
deriving DecidableEq

/-- The series is requested daily, whatever the frequency of the calculation. -/
def buildRiskFreeSeriesRequest (currency : String) (asOfDate startDate endDate : Date) :
    RiskFreeSeriesRequest where
  currency := currency
  asOfDate := asOfDate
  seriesMode := "annualized_rate_series"
  startDate := startDate
  endDate := endDate
  frequency := "daily"

section CoreSeries

/-- `text.lower()`; no other character has one of the letters of a convention as its lower case. -/
def asciiLower (text : String) : String := String.ofList (text.toList.map Char.toLower)

variable [Field K] [LinearOrder K] (texts : PyTexts K) (pow : K → K → K)

/-- `_annual_to_periodic` of the core series. A negative base has a complex root, which
`Decimal` refuses, unless the exponent is one. -/
def coreAnnualToPeriodic (annualizationBasis : Nat) :
    PyNumber K → Except SourceException (PyNumber K)
  | .nonFinite => .ok .nonFinite
  | .finite rate =>
    if 1 + rate < 0 ∧ annualizationBasis ≠ 1 then
      .error (.python (.typeError "conversion from complex to Decimal is not supported"))
    else .ok (.finite (pow (1 + rate) (1 / annualizationBasis) - 1))

/-- `_to_decimal`. -/
def riskFreeDecimal (value : PyValue K) : Except SourceException (PyNumber K) :=
  match texts.toDecimal value with
  | some number => .ok number
  | none =>
    let text := texts.pyStr value
    .error (.upstream (invalidUpstreamPayload "lotus-core" riskFreeSeriesOperation
      s!"Invalid risk-free value from lotus-core: {text}" []))

def rowValueConvention (row : List (String × PyValue K)) : String :=
  let raw := getEntry row "value_convention"
  asciiLower (pyStrip (if raw.truthy then texts.pyStr raw else ""))

def parsePeriodicReturn (annualizationBasis : Nat) (row : List (String × PyValue K)) :
    Except SourceException (PyNumber K) := do
  let valueConvention := rowValueConvention texts row
  let rawValue ← riskFreeDecimal texts (getEntry row "value")
  let periodicDecimal ←
    if valueConvention ∈ periodicValueConventions then .ok rawValue
    else if valueConvention ∈ annualizedValueConventions then
      coreAnnualToPeriodic pow annualizationBasis rawValue
    else
      let text := texts.pyStr (getEntry row "value_convention")
      .error (.upstream (invalidUpstreamPayload "lotus-core" riskFreeSeriesOperation
        s!"Unsupported risk-free value_convention from lotus-core: {text}" []))
  match periodicDecimal with
  | .finite value => .ok (.finite (inPercent value))
  | .nonFinite => .ok .nonFinite

omit [Field K] [LinearOrder K] in
/-- A row is skipped unless it is a dict with a textual `series_date`. -/
def datedRow (row : PyValue K) : Option (String × List (String × PyValue K)) :=
  match row with
  | .dict entries =>
    match getEntry entries "series_date" with
    | .str rawDate => some (rawDate, entries)
    | _ => none
  | _ => none

def riskFreeReturnPoint (annualizationBasis : Nat)
    (row : String × List (String × PyValue K)) : Except SourceException (ReturnPoint K) :=
  match texts.fromisoformat row.1 with
  | none =>
    let text := texts.repr (.str row.1)
    .error (.python (.valueError s!"Invalid isoformat string: {text}"))
  | some date => do
    let value ← parsePeriodicReturn texts pow annualizationBasis row.2
    returnPoint date value

def toRiskFreeReturnPoints (payload : List (String × PyValue K)) (annualizationBasis : Nat) :
    Except SourceException (List (ReturnPoint K)) :=
  match getEntry payload "points" with
  | .list points =>
    (points.filterMap datedRow).mapM (riskFreeReturnPoint texts pow annualizationBasis)
  | _ => .error (.upstream (invalidUpstreamPayload "lotus-core" riskFreeSeriesOperation
      "lotus-core risk-free-series payload missing 'points' list" []))

end CoreSeries

section Sourcing

variable [Field K] [LinearOrder K]

def annualizedRateFromRiskFreeReturns (riskFreePoints : List (ReturnPoint K))
    (annualizationFactor : Nat) : Option K :=
  if riskFreePoints.isEmpty then none
  else
    let meanPeriodicRate := mean (riskFreePoints.map (fun point => fromPercent point.value))
    some ((1 + meanPeriodicRate) ^ annualizationFactor - 1)

def optionsWithSourcedRiskFree (options : RiskOptions K)
    (riskFreePoints : List (ReturnPoint K)) : RiskOptions K :=
  match annualizedRateFromRiskFreeReturns riskFreePoints
      (annualizationFactorForOptions options) with
  | none => options
  | some riskFreeAnnualRate =>
    { options with
      riskFreeMode := .annualRate
      riskFreeAnnualRate := some riskFreeAnnualRate }

/-- The risk-free part of `_fetch_stateful_risk_source`. -/
def fetchRiskFreePoints (texts : PyTexts K) (pow : K → K → K) (options : RiskOptions K)
    (riskFreeResponse : List (String × PyValue K)) :
    Except SourceException (List (ReturnPoint K)) := do
  let riskFreePoints ← toRiskFreeReturnPoints texts pow riskFreeResponse
    (annualizationFactorForOptions options)
  if riskFreePoints.isEmpty then
    .error (.upstream (missingUpstreamData "lotus-core" riskFreeSeriesOperation
      "lotus-core returned no usable risk-free returns for stateful Sharpe" []))
  else .ok riskFreePoints

/-- `_annual_to_periodic` of the risk helpers. -/
def annualToPeriodic (pow : K → K → K) (rate : K) (annualFactor : Nat) :
    Except SourceException K :=
  if 1 + rate < 0 ∧ annualFactor ≠ 1 then
    .error (.python
      (.typeError "float() argument must be a string or a real number, not 'complex'"))
  else .ok (pow (1 + rate) (1 / annualFactor) - 1)

/-- The periodic risk-free rate and the periodic minimum acceptable return. -/
def resolvePeriodicRates (pow : K → K → K) (options : RiskOptions K) (annualFactor : Nat) :
    Except SourceException (K × K) := do
  let periodicRf ←
    match options.riskFreeMode, options.riskFreeAnnualRate with
    | .annualRate, some rate => annualToPeriodic pow rate annualFactor
    | _, _ => .ok 0
  let periodicMar ← annualToPeriodic pow options.marAnnualRate annualFactor
  .ok (periodicRf, periodicMar)

end Sourcing

end LotusRisk
