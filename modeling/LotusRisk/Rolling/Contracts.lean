import LotusRisk.Risk.Engine

/-! The requests for rolling metrics, and what their contracts accept. -/

namespace LotusRisk
set_option autoImplicit true

def rollingMaxPeriods : Nat := 12
def rollingMaxStatelessObservations : Nat := 2500
def rollingMaxTimeSeriesPoints : Nat := 10000
def rollingMaxWindowCount : Nat := 8
def rollingMaxWindowLength : Nat := 756

inductive RollingMetric where
  | rollingVolatility
  | rollingSharpe
  /-- The members of `ROLLING_BENCHMARK_METRICS`. -/
  | benchmark (metric : BenchmarkMetric)
  | rollingMaxDrawdown
deriving DecidableEq, Repr

def RollingMetric.text : RollingMetric → String
  | .rollingVolatility => "ROLLING_VOLATILITY"
  | .rollingSharpe => "ROLLING_SHARPE"
  | .benchmark .beta => "ROLLING_BETA"
  | .benchmark .trackingError => "ROLLING_TRACKING_ERROR"
  | .benchmark .informationRatio => "ROLLING_INFORMATION_RATIO"
  | .rollingMaxDrawdown => "ROLLING_MAX_DRAWDOWN"

/-- `metric in ROLLING_BENCHMARK_METRICS`. -/
def RollingMetric.isBenchmark : RollingMetric → Bool
  | .benchmark _ => true
  | _ => false

inductive MinObservationsPolicy where
  | strict
  | allowPartial
deriving DecidableEq, Repr

section Validation

/-- `Field(max_length=maximum)`. -/
def maxLengthErrors (field : String) (maximum length : Nat) : List FieldError :=
  if maximum < length then [⟨field, "too_long"⟩] else []

/-- The validator of a model runs when every field is accepted. -/
def modelValidation (fieldErrors : List FieldError) (validator : Except PyException Unit) :
    Except PyException Unit :=
  match fieldErrors with
  | [] =>
    match validator with
    | .error (.valueError message) =>
      .error (.validationError [⟨"", "Value error, " ++ message⟩])
    | result => result
  | errors => .error (.validationError errors)

theorem modelValidation_eq_ok {validator : Except PyException Unit}
    (h : modelValidation fieldErrors validator = .ok ()) :
    fieldErrors = [] ∧ validator = .ok () := by
  cases fieldErrors with
  | cons e es => cases h
  | nil =>
    cases validator with
    | ok u => exact ⟨rfl, rfl⟩
    | error e => cases e <;> cases h

def duplicatePeriodNames (names : List String) : List String :=
  ((names.filter fun name => 1 < names.count name).dedup).insertionSort (· ≤ ·)

def validateUniquePeriodNames (periods : List RiskRequestPeriod) : Except PyException Unit :=
  let duplicates := duplicatePeriodNames (periods.map RiskRequestPeriod.resolvedName)
  raiseIf (!duplicates.isEmpty)
    (.valueError ("Duplicate period names resolved in request: " ++ ", ".intercalate duplicates ++
      ". Each period name (or type fallback) must be unique."))

theorem nodup_of_validateUniquePeriodNames (h : validateUniquePeriodNames periods = .ok ()) :
    (periods.map RiskRequestPeriod.resolvedName).Nodup := by
  have hnone := raiseIf_eq_ok.1 h
  rw [Bool.not_eq_false', List.isEmpty_iff] at hnone
  rw [List.nodup_iff_count_le_one]
  intro name
  by_cases hmem : name ∈ periods.map RiskRequestPeriod.resolvedName
  · apply Nat.le_of_not_lt
    intro hlt
    have hduplicate : name ∈ duplicatePeriodNames (periods.map RiskRequestPeriod.resolvedName) := by
      rw [duplicatePeriodNames, (List.perm_insertionSort _ _).mem_iff, List.mem_dedup,
        List.mem_filter]
      exact ⟨hmem, decide_eq_true hlt⟩
    rw [hnone] at hduplicate
    cases hduplicate
  · rw [List.count_eq_zero_of_not_mem hmem]
    exact Nat.zero_le 1

/-- The loop of `validate_unique_return_dates`. -/
def checkReturnDates (seriesName : String) (seen : List Date) :
    List (ReturnPoint K) → Except PyException Unit
  | [] => .ok ()
  | point :: points =>
    if point.date ∈ seen then
      .error (.valueError ("duplicate return observation date in " ++ seriesName ++ ": " ++
        point.date.isoformat))
    else checkReturnDates seriesName (point.date :: seen) points

def validateUniqueReturnDates (returns : List (ReturnPoint K)) (seriesName : String) :
    Except PyException Unit := checkReturnDates seriesName [] returns

theorem checkReturnDates_eq_ok {points : List (ReturnPoint K)}
    (h : checkReturnDates seriesName seen points = .ok ()) :
    (points.map ReturnPoint.date).Nodup ∧ ∀ d ∈ points.map ReturnPoint.date, d ∉ seen := by
  induction points generalizing seen with
  | nil => exact ⟨.nil, fun d hd => by cases hd⟩
  | cons point points ih =>
    rw [checkReturnDates] at h
    split at h
    · cases h
    · rename_i hnew
      obtain ⟨hnodup, hseen⟩ := ih h
      rw [List.map_cons]
      refine ⟨List.nodup_cons.2 ⟨fun hmem => hseen _ hmem List.mem_cons_self, hnodup⟩, ?_⟩
      intro d hd
      rcases List.mem_cons.1 hd with rfl | hd
      · exact hnew
      · exact fun hmem => hseen d hd (List.mem_cons_of_mem _ hmem)

def validateRollingTimeSeriesWorkload (periodCount windowCount observationCount : Nat)
    (includeTimeSeries : Bool) : Except PyException Unit :=
  if includeTimeSeries then
    let projectedPoints := periodCount * windowCount * observationCount
    raiseIf (decide (rollingMaxTimeSeriesPoints < projectedPoints))
      (.valueError
        s!"include_time_series workload exceeds supported maximum {rollingMaxTimeSeriesPoints} emitted points")
  else .ok ()

theorem workload_bound {periodCount windowCount observationCount : Nat}
    (h : validateRollingTimeSeriesWorkload periodCount windowCount observationCount true = .ok ()) :
    periodCount * windowCount * observationCount ≤ rollingMaxTimeSeriesPoints := by
  rw [validateRollingTimeSeriesWorkload, if_pos rfl] at h
  exact Nat.le_of_not_lt (of_decide_eq_false (raiseIf_eq_ok.1 h))

end Validation

section Options

/-- The declared fields; `alignment_policy` has one value, `INNER_JOIN`. -/
structure RollingOptionsFields where
  windowLengths : List Int
  metrics : List RollingMetric
  annualizationBasis : Nat
  minObservationsPolicy : MinObservationsPolicy
  includeTimeSeries : Bool

def defaultRollingMetrics : List RollingMetric :=
  [.rollingVolatility, .rollingSharpe, .benchmark .beta, .benchmark .trackingError,
    .benchmark .informationRatio, .rollingMaxDrawdown]

def RollingOptionsFields.default : RollingOptionsFields where
  windowLengths := [21, 63, 126, 252]
  metrics := defaultRollingMetrics
  annualizationBasis := 252
  minObservationsPolicy := .strict
  includeTimeSeries := false

def RollingOptionsFields.fieldErrors (options : RollingOptionsFields) : List FieldError :=
  maxLengthErrors "window_lengths" rollingMaxWindowCount options.windowLengths.length ++
    if options.annualizationBasis < 1 then [⟨"annualization_basis", "greater_than_equal"⟩] else []

def RollingOptionsFields.validateWindowLengths (options : RollingOptionsFields) :
    Except PyException Unit := do
  raiseIf options.windowLengths.isEmpty
    (.valueError "window_lengths must contain at least one window")
  raiseIf (options.windowLengths.any fun window => decide (window ≤ 1))
    (.valueError "window_lengths must be greater than 1")
  raiseIf (options.windowLengths.any fun window => decide ((rollingMaxWindowLength : Int) < window))
    (.valueError s!"window_lengths must be less than or equal to {rollingMaxWindowLength}")
  raiseIf (decide (options.windowLengths.dedup.length ≠ options.windowLengths.length))
    (.valueError "window_lengths must be unique")

def RollingOptionsFields.validate (options : RollingOptionsFields) : Except PyException Unit :=
  modelValidation options.fieldErrors options.validateWindowLengths

/-- Options the contract accepted. -/
structure RollingOptions extends RollingOptionsFields where
  accepted : toRollingOptionsFields.validate = .ok ()

theorem RollingOptionsFields.default_accepted : RollingOptionsFields.default.validate = .ok () := by
  decide

theorem RollingOptions.one_lt_window (options : RollingOptions)
    (h : window ∈ options.windowLengths) : 1 < window := by
  have hvalid := (modelValidation_eq_ok options.accepted).2
  rw [RollingOptionsFields.validateWindowLengths, raiseIf_bind_eq_ok, raiseIf_bind_eq_ok] at hvalid
  have hlow := List.any_eq_false.1 hvalid.2.1 window h
  rw [decide_eq_true_iff] at hlow
  exact Int.not_le.1 hlow

end Options

section Requests

variable {K : Type}

/-- The stateless payload; of the scope only the as-of date is read. -/
structure RollingStatelessFields (K : Type) where
  asOfDate : Date
  periods : List RiskRequestPeriod
  returns : List (ReturnPoint K)
  benchmarkReturns : List (ReturnPoint K)
  riskFreeReturns : List (ReturnPoint K)
  rollingOptions : RollingOptions

def RollingStatelessFields.fieldErrors (request : RollingStatelessFields K) : List FieldError :=
  maxLengthErrors "periods" rollingMaxPeriods request.periods.length ++
  maxLengthErrors "returns" rollingMaxStatelessObservations request.returns.length ++
  maxLengthErrors "benchmark_returns" rollingMaxStatelessObservations
    request.benchmarkReturns.length ++
  maxLengthErrors "risk_free_returns" rollingMaxStatelessObservations
    request.riskFreeReturns.length

def validateRollingStatelessDependencies (requestedMetrics : List RollingMetric)
    (benchmarkReturns riskFreeReturns : List (ReturnPoint K)) : Except PyException Unit := do
  raiseIf (requestedMetrics.any RollingMetric.isBenchmark && benchmarkReturns.isEmpty)
    (.valueError
      "benchmark_returns are required when requesting rolling benchmark-dependent metrics")
  raiseIf (requestedMetrics.contains .rollingSharpe && riskFreeReturns.isEmpty)
    (.valueError "risk_free_returns are required when requesting ROLLING_SHARPE")

def RollingStatelessFields.validateSemantics (request : RollingStatelessFields K) :
    Except PyException Unit := do
  validateUniquePeriodNames request.periods
  validateUniqueReturnDates request.returns "returns"
  validateUniqueReturnDates request.benchmarkReturns "benchmark_returns"
  validateUniqueReturnDates request.riskFreeReturns "risk_free_returns"
  validateRollingTimeSeriesWorkload request.periods.length
    request.rollingOptions.windowLengths.length request.returns.length
    request.rollingOptions.includeTimeSeries
  validateRollingStatelessDependencies request.rollingOptions.metrics request.benchmarkReturns
    request.riskFreeReturns

def RollingStatelessFields.validate (request : RollingStatelessFields K) :
    Except PyException Unit :=
  modelValidation request.fieldErrors request.validateSemantics

/-- A payload the stateless contract accepted. -/
structure RollingStatelessInput (K : Type) extends RollingStatelessFields K where
  accepted : toRollingStatelessFields.validate = .ok ()

/-- The constructor of the model. -/
def RollingStatelessInput.ofFields (request : RollingStatelessFields K) :
    Except PyException (RollingStatelessInput K) :=
  match h : request.validate with
  | .ok () => .ok ⟨request, h⟩
  | .error e => .error e

theorem RollingStatelessInput.ofFields_eq_ok {fields : RollingStatelessFields K}
    (h : RollingStatelessInput.ofFields fields = .ok request) :
    request.toRollingStatelessFields = fields := by
  rw [ofFields] at h
  split at h
  · cases h
    rfl
  · cases h

/-- What the validators leave of a payload. -/
structure Admitted (request : RollingStatelessFields K) : Prop where
  names_unique : (request.periods.map RiskRequestPeriod.resolvedName).Nodup
  returns_unique : (request.returns.map ReturnPoint.date).Nodup
  benchmark_unique : (request.benchmarkReturns.map ReturnPoint.date).Nodup
  risk_free_unique : (request.riskFreeReturns.map ReturnPoint.date).Nodup
  workload : request.rollingOptions.includeTimeSeries = true →
    request.periods.length * request.rollingOptions.windowLengths.length * request.returns.length ≤
      rollingMaxTimeSeriesPoints

theorem RollingStatelessInput.admitted (request : RollingStatelessInput K) :
    Admitted request.toRollingStatelessFields := by
  have hvalid := (modelValidation_eq_ok request.accepted).2
  rw [RollingStatelessFields.validateSemantics] at hvalid
  obtain ⟨_, hnames, hvalid⟩ := bind_eq_ok.1 hvalid
  obtain ⟨_, hreturns, hvalid⟩ := bind_eq_ok.1 hvalid
  obtain ⟨_, hbenchmark, hvalid⟩ := bind_eq_ok.1 hvalid
  obtain ⟨_, hriskFree, hvalid⟩ := bind_eq_ok.1 hvalid
  obtain ⟨_, hworkload, _⟩ := bind_eq_ok.1 hvalid
  refine ⟨nodup_of_validateUniquePeriodNames hnames, (checkReturnDates_eq_ok hreturns).1,
    (checkReturnDates_eq_ok hbenchmark).1, (checkReturnDates_eq_ok hriskFree).1, ?_⟩
  intro hinclude
  rw [hinclude] at hworkload
  exact workload_bound hworkload

/-- The stateful payload; what only the source requests read is left out. -/
structure RollingStatefulFields where
  asOfDate : Date
  periods : List RiskRequestPeriod
  rollingOptions : RollingOptions

def RollingStatefulFields.validate (request : RollingStatefulFields) : Except PyException Unit :=
  modelValidation (maxLengthErrors "periods" rollingMaxPeriods request.periods.length)
    (validateUniquePeriodNames request.periods)

/-- A payload the stateful contract accepted. -/
structure RollingStatefulInput extends RollingStatefulFields where
  accepted : toRollingStatefulFields.validate = .ok ()

end Requests

end LotusRisk
