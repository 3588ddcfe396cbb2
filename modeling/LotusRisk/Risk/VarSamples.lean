import LotusRisk.Lib.SampleRecovery
import LotusRisk.Risk.MetricAgreement
import LotusRisk.Risk.ValueAtRisk

/-! Samples of returns that have the same value at risk and expected shortfall whatever the
options: the same up to order, or degenerate in the same way. -/

namespace LotusRisk
set_option autoImplicit true

open OrderStatistics
open Relational

variable {K : Type} [Field K] [LinearOrder K]

section Orders

omit [LinearOrder K] in
theorem mean_perm {x y : List K} (h : x.Perm y) : mean x = mean y := by
  rw [mean, mean, h.sum_eq, h.length_eq]

omit [LinearOrder K] in
theorem sampleCovariance_self (x : List K) : sampleCovariance x x =
    (x.map (fun r => (r - mean x) * (r - mean x))).sum / ((x.length : K) - 1) := by
  rw [sampleCovariance, List.zipWith_self]

theorem sampleStd_perm (math : PyMath K) {x y : List K} (h : x.Perm y) :
    sampleStd math x = sampleStd math y := by
  rw [sampleStd, sampleStd, sampleCovariance_self, sampleCovariance_self, mean_perm h,
    (h.map _).sum_eq, h.length_eq]

theorem expectedShortfall_perm {x y : List K} (h : x.Perm y) (varValue : K) :
    expectedShortfall x varValue = expectedShortfall y varValue := by
  have htail : (varTail x varValue).Perm (varTail y varValue) := h.filter _
  rw [expectedShortfall, expectedShortfall, mean_perm htail, htail.isEmpty_eq]

omit [Field K] in
theorem sortedReturns_perm {x y : List K} (h : x.Perm y) : sortedReturns x = sortedReturns y := by
  have hx := List.perm_insertionSort (· ≤ ·) x
  have hy := List.perm_insertionSort (· ≤ ·) y
  exact ((hx.trans h).trans hy.symm).eq_of_pairwise (fun _ _ _ _ => le_antisymm)
    (List.pairwise_insertionSort _ x) (List.pairwise_insertionSort _ y)

omit [Field K] in
theorem perm_of_sortedReturns {x y : List K} (h : sortedReturns x = sortedReturns y) :
    x.Perm y := by
  have hx := List.perm_insertionSort (· ≤ ·) x
  have hy := List.perm_insertionSort (· ≤ ·) y
  rw [← sortedReturns] at hx hy
  rw [h] at hx
  exact hx.symm.trans hy

end Orders

section Numbers

variable [FloorRing K] {math : PyMath K}

/-- The value and the expected shortfall of a result. -/
def varNumbers (v : RiskValue K) : Option K × Option (DetailValue K) :=
  (v.value, v.details.bind fun details => details.get? "expected_shortfall")

/-- What is reported of daily values. -/
def reportedNumbers (math : PyMath K) (var : VaROptions K) (values : List K) :
    Option K × Option (DetailValue K) :=
  match calculateVar math values var.method var.confidence var.horizonDays
      var.includeExpectedShortfall "DAILY" with
  | .ok v => varNumbers v
  | .error _ => (none, none)

omit [FloorRing K] in
theorem shortfall_varDetails (math : PyMath K) (values : List K) (method : VaRMethod)
    (confidence : K) (horizonDays : Nat) (shortfall : Bool) (samplingFrequency : String)
    (baseVar : K) :
    (varDetails math values method confidence horizonDays shortfall samplingFrequency
      baseVar).get? "expected_shortfall" =
        if shortfall then some (.float (expectedShortfall values baseVar * math.sqrt horizonDays))
        else none := by
  cases shortfall with
  | true => exact varDetails_shortfall values method confidence horizonDays samplingFrequency baseVar
  | false =>
    rw [if_neg Bool.false_ne_true, ← Option.not_isSome_iff_eq_none, Dict.get?_isSome, varDetails,
      Dict.mem_keys_ofList]
    change "expected_shortfall" ∉ ["method", "confidence", "tail_probability",
      "base_horizon_days", "horizon_days", "sampling_frequency", "horizon_scale_method",
      "horizon_scale_factor", "include_expected_shortfall", "base_var", "observation_count",
      "tail_observation_count"]
    decide

/-- The numbers of a base value. -/
def scaledNumbers (math : PyMath K) (var : VaROptions K) (values : List K) (baseVar : K) :
    Option K × Option (DetailValue K) :=
  (some (baseVar * math.sqrt var.horizonDays),
    if var.includeExpectedShortfall then
      some (.float (expectedShortfall values baseVar * math.sqrt var.horizonDays))
    else none)

theorem reportedNumbers_short {values : List K} (h : values.length < 2) :
    reportedNumbers math var values = (none, none) := by
  rw [reportedNumbers, calculateVar, requireData_error h]
  rfl

theorem reportedNumbers_error {values : List K}
    (h : calculateVarByMethod math values var.method var.confidence = .error e) :
    reportedNumbers math var values = (none, none) := by
  rw [reportedNumbers, calculateVar, h]
  cases requireData values 2 with
  | error _ => rfl
  | ok _ => rfl

/-- The horizon has a square root. -/
def VaROptions.Scales (var : VaROptions K) : Prop := beyondFloat var.horizonDays = false

theorem reportedNumbers_beyond (values : List K) (h : ¬var.Scales) :
    reportedNumbers math var values = (none, none) := by
  have hbeyond : beyondFloat var.horizonDays = true := Bool.eq_true_of_not_eq_false h
  rw [reportedNumbers, calculateVar, sqrtOfInt, if_pos hbeyond]
  cases requireData values 2 with
  | error _ => rfl
  | ok _ =>
    cases calculateVarByMethod math values var.method var.confidence with
    | error _ => rfl
    | ok _ => rfl

theorem reportedNumbers_ok {values : List K} (hlength : 2 ≤ values.length) (hscales : var.Scales)
    (h : calculateVarByMethod math values var.method var.confidence = .ok baseVar) :
    reportedNumbers math var values = scaledNumbers math var values baseVar := by
  rw [reportedNumbers, calculateVar_ok hlength h hscales, scaledNumbers]
  simp only [varNumbers, Option.bind_some, shortfall_varDetails]

/-- Samples of which the same is calculated. -/
theorem reportedNumbers_congr {x y : List K} (hlength : x.length < 2 ↔ y.length < 2)
    (hbase : calculateVarByMethod math x var.method var.confidence =
      calculateVarByMethod math y var.method var.confidence)
    (hshortfall : ∀ baseVar, expectedShortfall x baseVar = expectedShortfall y baseVar) :
    reportedNumbers math var x = reportedNumbers math var y := by
  by_cases hshort : x.length < 2
  · rw [reportedNumbers_short hshort, reportedNumbers_short (hlength.1 hshort)]
  · have hx : 2 ≤ x.length := not_lt.1 hshort
    have hy : 2 ≤ y.length := not_lt.1 (mt hlength.2 hshort)
    cases hy' : calculateVarByMethod math y var.method var.confidence with
    | error e => rw [reportedNumbers_error (hbase.trans hy'), reportedNumbers_error hy']
    | ok baseVar =>
      by_cases hscales : var.Scales
      · rw [reportedNumbers_ok hx hscales (hbase.trans hy'), reportedNumbers_ok hy hscales hy',
          scaledNumbers, scaledNumbers, hshortfall]
      · rw [reportedNumbers_beyond x hscales, reportedNumbers_beyond y hscales]

end Numbers

section Moments

variable [FloorRing K] {math : PyMath K}

/-- The skewness and the kurtosis do not depend on the order, and are zero of a constant sample
that is long enough. -/
structure SampleMoments (math : PyMath K) : Prop where
  skew_perm : ∀ x y : List K, x.Perm y → math.skew x = math.skew y
  kurt_perm : ∀ x y : List K, x.Perm y → math.kurt x = math.kurt y
  skew_constant : ∀ n c, cornishFisherMinimumObservations ≤ n →
    math.skew (List.replicate n c) = some 0
  kurt_constant : ∀ n c, cornishFisherMinimumObservations ≤ n →
    math.kurt (List.replicate n c) = some 0

theorem calculateVarByMethod_perm (hmoments : SampleMoments math) {x y : List K} (h : x.Perm y)
    (method : VaRMethod) (confidence : K) :
    calculateVarByMethod math x method confidence =
      calculateVarByMethod math y method confidence := by
  cases method with
  | historical =>
    have hsorted : x.insertionSort (· ≤ ·) = y.insertionSort (· ≤ ·) := sortedReturns_perm h
    rw [calculateVarByMethod, calculateVarByMethod, varHistorical, varHistorical, percentile,
      percentile, quantile, quantile, hsorted, h.length_eq]
  | gaussian =>
    rw [calculateVarByMethod, calculateVarByMethod, varGaussian, varGaussian, mean_perm h,
      sampleStd_perm math h]
  | cornishFisher =>
    rw [calculateVarByMethod, calculateVarByMethod, varCornishFisher, varCornishFisher,
      requireData, requireData, h.length_eq, hmoments.skew_perm x y h, hmoments.kurt_perm x y h,
      mean_perm h, sampleStd_perm math h]

/-- The order of a sample does not matter. -/
theorem reportedNumbers_perm (hmoments : SampleMoments math) (h : x.Perm y)
    (var : VaROptions K) : reportedNumbers math var x = reportedNumbers math var y :=
  reportedNumbers_congr (by rw [h.length_eq])
    (calculateVarByMethod_perm hmoments h var.method var.confidence)
    (expectedShortfall_perm h)

end Moments

section Constants

/-- All elements of the sample are the same. -/
def ConstantSample (x : List K) (c : K) : Prop := ∀ r ∈ x, r = c

omit [Field K] [LinearOrder K] in
theorem ConstantSample.eq_replicate {x : List K} (h : ConstantSample x c) :
    x = List.replicate x.length c := List.eq_replicate_of_mem h

variable [IsStrictOrderedRing K] {math : PyMath K} {x y : List K}

theorem sampleStd_constant (math : PyMath K) (h : ConstantSample x c) (hne : x ≠ []) :
    sampleStd math x = math.sqrt 0 := by
  have hzero : ∀ s ∈ x.map (fun r => (r - mean x) * (r - mean x)), s = 0 := by
    intro s hs
    obtain ⟨r, hr, rfl⟩ := List.mem_map.1 hs
    rw [mean_of_constant hne h, h r hr, sub_self, zero_mul]
  rw [sampleStd, sampleCovariance_self, List.sum_eq_zero hzero, zero_div]

theorem expectedShortfall_constant (h : ConstantSample x c) (hne : x ≠ []) (baseVar : K) :
    expectedShortfall x baseVar = if c ≤ baseVar then c else baseVar := by
  by_cases hle : c ≤ baseVar
  · have hall : varTail x baseVar = x := by
      apply List.filter_eq_self.2
      intro r hr
      rw [h r hr]
      exact decide_eq_true hle
    rw [expectedShortfall, hall, List.isEmpty_eq_false_iff.2 hne, if_pos hle,
      if_neg Bool.false_ne_true, mean_of_constant hne h]
  · have hnone : varTail x baseVar = [] := by
      apply List.filter_eq_nil_iff.2
      intro r hr
      rw [h r hr]
      simpa using hle
    rw [expectedShortfall, hnone, if_neg hle]
    rfl

variable [FloorRing K]

theorem quantile_constant (h : ConstantSample x c) (hne : x ≠ []) (h₀ : 0 ≤ q) (h₁ : q ≤ 1) :
    quantile x q = some c := by
  obtain ⟨v, hv⟩ := exists_quantile x h₀ h₁
  obtain ⟨⟨z, hz, hzv⟩, w, hw, hvw⟩ := quantile_between hne h₀ h₁ hv
  rw [h z hz] at hzv
  rw [h w hw] at hvw
  rw [hv, le_antisymm hvw hzv]

/-- Of a constant sample only the constant matters, and whether it has moments. -/
theorem calculateVarByMethod_constant (hmoments : SampleMoments math) (hx : ConstantSample x c)
    (hy : ConstantSample y c) (hxne : x ≠ []) (hyne : y ≠ [])
    (hlength : x.length < cornishFisherMinimumObservations ↔
      y.length < cornishFisherMinimumObservations) (var : VaROptions K) :
    calculateVarByMethod math x var.method var.confidence =
      calculateVarByMethod math y var.method var.confidence := by
  have hmean := (mean_of_constant hxne hx).trans (mean_of_constant hyne hy).symm
  have hstd := (sampleStd_constant math hx hxne).trans (sampleStd_constant math hy hyne).symm
  cases var.method with
  | historical =>
    have h₀ : 0 ≤ 1 - var.confidence := sub_nonneg.2 var.confidence_bounds.2.le
    have h₁ : 1 - var.confidence ≤ 1 := sub_le_self 1 var.confidence_bounds.1.le
    rw [calculateVarByMethod, calculateVarByMethod, varHistorical, varHistorical, percentile,
      percentile, fromPercent_inPercent, quantile_constant hx hxne h₀ h₁,
      quantile_constant hy hyne h₀ h₁]
  | gaussian =>
    rw [calculateVarByMethod, calculateVarByMethod, varGaussian, varGaussian, hmean, hstd]
  | cornishFisher =>
    rw [calculateVarByMethod, calculateVarByMethod, varCornishFisher, varCornishFisher]
    by_cases hshort : x.length < cornishFisherMinimumObservations
    · rw [requireData_error hshort, requireData_error (hlength.1 hshort)]
      rfl
    · have hxlong := not_lt.1 hshort
      have hylong := not_lt.1 (mt hlength.2 hshort)
      have hskew : math.skew x = math.skew y := by
        rw [hx.eq_replicate, hy.eq_replicate, hmoments.skew_constant _ c hxlong,
          hmoments.skew_constant _ c hylong]
      have hkurt : math.kurt x = math.kurt y := by
        rw [hx.eq_replicate, hy.eq_replicate, hmoments.kurt_constant _ c hxlong,
          hmoments.kurt_constant _ c hylong]
      rw [requireData_ok hxlong, requireData_ok hylong, hskew, hkurt, hmean, hstd]

end Constants

section Samples

variable [IsStrictOrderedRing K] [FloorRing K] {math : PyMath K} {x y : List K}

/-- The samples are the same up to order, too short, or constant, and then long enough to have
moments or not. -/
def SameSample (x y : List K) : Prop :=
  x.Perm y ∨ x.length < 2 ∧ y.length < 2 ∨
    2 ≤ x.length ∧ 2 ≤ y.length ∧
      (x.length < cornishFisherMinimumObservations ↔
        y.length < cornishFisherMinimumObservations) ∧
      ∃ c, ConstantSample x c ∧ ConstantSample y c

theorem reportedNumbers_of_sameSample (hmoments : SampleMoments math) (h : SameSample x y)
    (var : VaROptions K) : reportedNumbers math var x = reportedNumbers math var y := by
  rcases h with hperm | ⟨hx, hy⟩ | ⟨hx, hy, hlength, c, hxc, hyc⟩
  · exact reportedNumbers_perm hmoments hperm var
  · rw [reportedNumbers_short hx, reportedNumbers_short hy]
  · have hxne : x ≠ [] := List.ne_nil_of_length_pos (by omega)
    have hyne : y ≠ [] := List.ne_nil_of_length_pos (by omega)
    apply reportedNumbers_congr (iff_of_false (not_lt.2 hx) (not_lt.2 hy))
      (calculateVarByMethod_constant hmoments hxc hyc hxne hyne hlength var)
    intro baseVar
    rw [expectedShortfall_constant hxc hxne, expectedShortfall_constant hyc hyne]

/-- The options of a one-day historical measure at a level of the tail. -/
def historicalAt (q : K) (h₀ : 0 < q) (h₁ : q < 1) : VaROptions K where
  method := .historical
  confidence := 1 - q
  horizonDays := 1
  includeExpectedShortfall := true
  confidence_bounds := ⟨sub_pos.2 h₁, sub_lt_self 1 h₀⟩
  horizon_pos := Nat.one_pos

omit [FloorRing K] in
theorem scales_historicalAt {q : K} (h₀ : 0 < q) (h₁ : q < 1) : (historicalAt q h₀ h₁).Scales :=
  day_scales

theorem reportedNumbers_historicalAt (math : PyMath K) (hx : 2 ≤ x.length) (h₀ : 0 < q)
    (h₁ : q < 1) : reportedNumbers math (historicalAt q h₀ h₁) x =
      (some (atLevel (sortedReturns x) q),
        some (.float (average (tail (sortedReturns x) (atLevel (sortedReturns x) q))))) := by
  have hne : x ≠ [] := List.ne_nil_of_length_pos (by omega)
  have hlow : 0 < 1 - q := sub_pos.2 h₁
  have hhigh : 1 - q < 1 := sub_lt_self 1 h₀
  have hposition : tailPosition x (1 - q) = ((sortedReturns x).length - 1) * q := by
    rw [tailPosition, sub_sub_cancel]
  have hvalue := varHistorical_eq x hlow hhigh
  rw [hposition, ← atLevel] at hvalue
  have hbase : calculateVarByMethod math x (historicalAt q h₀ h₁).method
      (historicalAt q h₀ h₁).confidence = .ok (atLevel (sortedReturns x) q) := hvalue
  have htail := (varHistorical_between hne hlow hhigh).1
  rw [hposition, ← atLevel] at htail
  have hperm : (sortedReturns x).Perm x := List.perm_insertionSort (· ≤ ·) x
  have hsorted : tail (sortedReturns x) (atLevel (sortedReturns x) q) ≠ [] := by
    intro hnil
    obtain ⟨r, hr⟩ := List.exists_mem_of_ne_nil _ htail
    obtain ⟨hmem, hle⟩ := mem_tail.1 hr
    have hin := mem_tail.2 ⟨hperm.mem_iff.2 hmem, hle⟩
    rw [hnil] at hin
    cases hin
  have hone : math.sqrt ((1 : Nat) : K) = 1 := by
    rw [Nat.cast_one, math.sqrt_one]
  rw [reportedNumbers_ok hx (scales_historicalAt h₀ h₁) hbase, scaledNumbers,
    expectedShortfall_perm hperm.symm, expectedShortfall_eq_average hsorted]
  simp only [historicalAt, hone, mul_one, if_true]

theorem sameMeasures_of_numbers (hx : 2 ≤ x.length) (hy : 2 ≤ y.length)
    (h : ∀ var, var.Scales → reportedNumbers math var x = reportedNumbers math var y) :
    SameMeasures (sortedReturns x) (sortedReturns y) := by
  have hboth : ∀ (q : K) (h₀ : 0 < q) (h₁ : q < 1), _ := fun q h₀ h₁ =>
    (reportedNumbers_historicalAt math hx h₀ h₁).symm.trans
      ((h _ (scales_historicalAt h₀ h₁)).trans (reportedNumbers_historicalAt math hy h₀ h₁))
  constructor
  · intro q h₀ h₁
    exact Option.some.inj (Prod.mk.inj (hboth q h₀ h₁)).1
  · intro q h₀ h₁
    exact DetailValue.float.inj (Option.some.inj (Prod.mk.inj (hboth q h₀ h₁)).2)

/-- The options of a one-day Cornish-Fisher measure at a level. -/
def cornishFisherAt (q : K) (h₀ : 0 < q) (h₁ : q < 1) : VaROptions K where
  method := .cornishFisher
  confidence := 1 - q
  horizonDays := 1
  includeExpectedShortfall := true
  confidence_bounds := ⟨sub_pos.2 h₁, sub_lt_self 1 h₀⟩
  horizon_pos := Nat.one_pos

omit [FloorRing K] in
theorem scales_cornishFisherAt {q : K} (h₀ : 0 < q) (h₁ : q < 1) :
    (cornishFisherAt q h₀ h₁).Scales := day_scales

/-- A constant sample has a Cornish-Fisher measure when it has moments. -/
theorem cornishFisher_constant (hmoments : SampleMoments math) (h : ConstantSample x c)
    (hx : 2 ≤ x.length) (h₀ : 0 < q) (h₁ : q < 1) :
    (reportedNumbers math (cornishFisherAt q h₀ h₁) x).1 = none ↔
      x.length < cornishFisherMinimumObservations := by
  by_cases hshort : x.length < cornishFisherMinimumObservations
  · have hbase : calculateVarByMethod math x (cornishFisherAt q h₀ h₁).method
        (cornishFisherAt q h₀ h₁).confidence = .error insufficientData := by
      change varCornishFisher math x _ = _
      rw [varCornishFisher, requireData_error hshort]
      rfl
    rw [reportedNumbers_error hbase]
    exact iff_of_true rfl hshort
  · have hlong := not_lt.1 hshort
    obtain ⟨baseVar, hbase⟩ : ∃ baseVar, calculateVarByMethod math x
        (cornishFisherAt q h₀ h₁).method (cornishFisherAt q h₀ h₁).confidence =
          .ok baseVar := by
      change ∃ baseVar, varCornishFisher math x _ = .ok baseVar
      have hskew : math.skew x = some 0 := by
        rw [h.eq_replicate]
        exact hmoments.skew_constant _ c hlong
      have hkurt : math.kurt x = some 0 := by
        rw [h.eq_replicate]
        exact hmoments.kurt_constant _ c hlong
      rw [varCornishFisher, requireData_ok hlong, hskew, hkurt]
      exact ⟨_, rfl⟩
    rw [reportedNumbers_ok hx (scales_cornishFisherAt h₀ h₁) hbase]
    exact iff_of_false nofun hshort

/-- One-day measures at every level tell samples apart, unless they are too short or constant. -/
theorem sameSample_of_numbers (hmoments : SampleMoments math)
    (h : ∀ var, var.Scales → reportedNumbers math var x = reportedNumbers math var y) :
    SameSample x y := by
  have hhalf₀ : 0 < (1 / 2 : K) := one_half_pos
  have hhalf₁ : (1 / 2 : K) < 1 := one_half_lt_one
  have hmedian := h _ (scales_historicalAt hhalf₀ hhalf₁)
  by_cases hx : 2 ≤ x.length
  · by_cases hy : 2 ≤ y.length
    · have hsame := (sameMeasures_of_numbers hx hy h).recovered
        (List.pairwise_insertionSort _ x) (List.pairwise_insertionSort _ y)
        (by rw [sortedReturns, List.length_insertionSort]; exact hx)
        (by rw [sortedReturns, List.length_insertionSort]; exact hy)
      rcases hsame with heq | ⟨c, hxc, hyc⟩
      · exact .inl (perm_of_sortedReturns heq)
      · have hconstant : ∀ z : List K, sortedReturns z =
            List.replicate (sortedReturns z).length c → ConstantSample z c := by
          intro z hz r hr
          have hmem := (List.perm_insertionSort (· ≤ ·) z).mem_iff.2 hr
          rw [← sortedReturns, hz] at hmem
          exact List.eq_of_mem_replicate hmem
        have hxc := hconstant x hxc
        have hyc := hconstant y hyc
        refine .inr (.inr ⟨hx, hy, ?_, c, hxc, hyc⟩)
        rw [← cornishFisher_constant hmoments hxc hx hhalf₀ hhalf₁,
          ← cornishFisher_constant hmoments hyc hy hhalf₀ hhalf₁,
          h _ (scales_cornishFisherAt hhalf₀ hhalf₁)]
    · rw [reportedNumbers_historicalAt math hx, reportedNumbers_short (not_le.1 hy)] at hmedian
      cases hmedian
  · by_cases hy : 2 ≤ y.length
    · rw [reportedNumbers_historicalAt math hy, reportedNumbers_short (not_le.1 hx)] at hmedian
      cases hmedian
    · exact .inr (.inl ⟨not_le.1 hx, not_le.1 hy⟩)

/-- What is reported of a sample of returns, of which the logarithms may be taken. -/
def sampledNumbers (math : PyMath K) (useLogReturns : Bool) (var : VaROptions K)
    (sample : List K) : Option K × Option (DetailValue K) :=
  if useLogReturns && sample.any (fun r => decide (r ≤ -((100 : Nat) : K))) then (none, none)
  else reportedNumbers math var (sample.map (metricValue math useLogReturns))

omit [Field K] [LinearOrder K] [IsStrictOrderedRing K] [FloorRing K] in
theorem SameSample.map (h : SameSample x y) (f : K → K) : SameSample (x.map f) (y.map f) := by
  rw [SameSample, List.length_map, List.length_map]
  rcases h with hperm | hshort | ⟨hx, hy, hlength, c, hxc, hyc⟩
  · exact .inl (hperm.map f)
  · exact .inr (.inl hshort)
  · refine .inr (.inr ⟨hx, hy, hlength, f c, ?_, ?_⟩)
    · intro s hs
      obtain ⟨r, hr, rfl⟩ := List.mem_map.1 hs
      rw [hxc r hr]
    · intro s hs
      obtain ⟨r, hr, rfl⟩ := List.mem_map.1 hs
      rw [hyc r hr]

omit [Field K] [LinearOrder K] [IsStrictOrderedRing K] [FloorRing K] in
theorem ConstantSample.any_eq (h : ConstantSample x c) (hne : x ≠ []) (p : K → Bool) :
    x.any p = p c := by
  rw [h.eq_replicate, List.any_replicate, if_neg (mt List.length_eq_zero_iff.1 hne)]

/-- Samples have the same reported numbers under all options that scale exactly when they are the
same sample. -/
theorem sampledNumbers_eq_iff (hmoments : SampleMoments math) :
    (∀ useLogReturns var, var.Scales → sampledNumbers math useLogReturns var x =
      sampledNumbers math useLogReturns var y) ↔ SameSample x y := by
  have hplain : ∀ z : List K, ∀ var, sampledNumbers math false var z =
      reportedNumbers math var z := by
    intro z var
    have hmap : z.map (metricValue math false) = z := List.map_id z
    rw [sampledNumbers, Bool.false_and, if_neg Bool.false_ne_true, hmap]
  constructor
  · intro h
    apply sameSample_of_numbers hmoments
    intro var hscales
    rw [← hplain x var, ← hplain y var]
    exact h false var hscales
  · intro h useLogReturns var _
    have hmapped := reportedNumbers_of_sameSample hmoments
      (h.map (metricValue math useLogReturns)) var
    rcases h with hperm | ⟨hx, hy⟩ | ⟨hx, hy, _, c, hxc, hyc⟩
    · rw [sampledNumbers, sampledNumbers, hmapped, hperm.any_eq]
    · have hshort : ∀ z : List K, z.length < 2 →
          sampledNumbers math useLogReturns var z = (none, none) := by
        intro z hz
        rw [sampledNumbers, reportedNumbers_short (by rwa [List.length_map]), ite_self]
      rw [hshort x hx, hshort y hy]
    · have hxne : x ≠ [] := List.ne_nil_of_length_pos (by omega)
      have hyne : y ≠ [] := List.ne_nil_of_length_pos (by omega)
      rw [sampledNumbers, sampledNumbers, hmapped, hxc.any_eq hxne, hyc.any_eq hyne]

end Samples

end LotusRisk
