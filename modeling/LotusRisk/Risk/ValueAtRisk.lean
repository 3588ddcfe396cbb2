import LotusRisk.Quantile
import LotusRisk.Risk.Metrics

/-! Value at risk and expected shortfall are ordered, between themselves and over confidences. -/

namespace LotusRisk
set_option autoImplicit true

open OrderStatistics
open Relational

variable {K : Type} [Field K] [LinearOrder K] [IsStrictOrderedRing K]

section Tail

theorem expectedShortfall_le (returns : List K) (varValue : K) :
    expectedShortfall returns varValue ≤ varValue := by
  rw [expectedShortfall]
  split
  · exact le_rfl
  · rename_i hne
    apply average_le (by simpa using hne)
    intro x hx
    exact (mem_tail.1 hx).2

omit [IsStrictOrderedRing K] in
theorem expectedShortfall_eq_average {returns : List K} (h : tail returns varValue ≠ []) :
    expectedShortfall returns varValue = average (tail returns varValue) := by
  have hne : ¬(varTail returns varValue).isEmpty = true := by
    rw [List.isEmpty_iff]
    exact h
  rw [expectedShortfall, if_neg hne]
  rfl

end Tail

section Historical

variable [FloorRing K]

/-- The sorted returns of which the historical value at risk is an interpolation. -/
def sortedReturns (returns : List K) : List K := returns.insertionSort (· ≤ ·)

/-- The position of a confidence among the sorted returns. -/
def tailPosition (returns : List K) (confidence : K) : K :=
  ((sortedReturns returns).length - 1) * (1 - confidence)

theorem varHistorical_eq (returns : List K) (h₀ : 0 < confidence) (h₁ : confidence < 1) :
    varHistorical returns confidence =
      .ok (interpolate (sortedReturns returns) (tailPosition returns confidence)) := by
  rw [varHistorical, percentile, fromPercent_inPercent,
    quantile_eq_interpolate returns (sub_nonneg.2 h₁.le) (sub_le_self 1 h₀.le)]
  rfl

/-- A higher confidence reads the sorted returns at a lower position. -/
theorem varHistorical_anti {returns : List K} (hne : returns ≠ []) (h₀ : 0 < c₁) (hc : c₁ ≤ c₂)
    (h₁ : c₂ < 1) : interpolate (sortedReturns returns) (tailPosition returns c₂) ≤
      interpolate (sortedReturns returns) (tailPosition returns c₁) := by
  have hlow : 0 ≤ 1 - c₂ := sub_nonneg.2 h₁.le
  have hle : 1 - c₂ ≤ 1 - c₁ := sub_le_sub_left hc 1
  have hhigh : 1 - c₁ ≤ 1 := sub_le_self 1 h₀.le
  exact quantile_mono hne hlow hle hhigh (quantile_eq_interpolate returns hlow (hle.trans hhigh))
    (quantile_eq_interpolate returns (hlow.trans hle) hhigh)

/-- The historical tail has an observation, and the value at risk lies among the returns. -/
theorem varHistorical_between {returns : List K} (hne : returns ≠ []) (h₀ : 0 < confidence)
    (h₁ : confidence < 1) :
    tail returns (interpolate (sortedReturns returns) (tailPosition returns confidence)) ≠ [] ∧
      ∃ y ∈ returns,
        interpolate (sortedReturns returns) (tailPosition returns confidence) ≤ y := by
  have hlow : 0 ≤ 1 - confidence := sub_nonneg.2 h₁.le
  have hhigh : 1 - confidence ≤ 1 := sub_le_self 1 h₀.le
  obtain ⟨⟨x, hx, hle⟩, hhighest⟩ :=
    quantile_between hne hlow hhigh (quantile_eq_interpolate returns hlow hhigh)
  exact ⟨List.ne_nil_of_mem (mem_tail.2 ⟨hx, hle⟩), hhighest⟩

end Historical

section Reported

variable [FloorRing K] (math : PyMath K)

/-- The value at risk and the expected shortfall that a result reports. -/
def Reports (result : Except PyException (RiskValue K)) (var es : K) : Prop :=
  ∃ details, result = .ok ⟨some var, some details⟩ ∧
    details.get? "expected_shortfall" = some (.float es)

variable {math}

omit [Field K] [LinearOrder K] [IsStrictOrderedRing K] [FloorRing K] in
theorem requireData_ok {values : List K} (h : minimum ≤ values.length) :
    requireData values minimum = .ok () := by
  rw [requireData, decide_eq_false (not_lt.2 h)]
  rfl

omit [Field K] [LinearOrder K] [IsStrictOrderedRing K] [FloorRing K] in
theorem requireData_error {values : List K} (h : values.length < minimum) :
    requireData values minimum = .error insufficientData := by
  rw [requireData, decide_eq_true h]
  rfl

omit [IsStrictOrderedRing K] [FloorRing K] in
theorem sqrtOfInt_eq_ok {n : Nat} :
    sqrtOfInt math n = .ok x ↔ beyondFloat n = false ∧ math.sqrt n = x := by
  unfold sqrtOfInt
  cases beyondFloat n with
  | true => simp
  | false => simp

theorem day_scales : beyondFloat ((1 : Nat) : Int) = false := by decide +kernel

theorem year_scales : beyondFloat ((252 : Nat) : Int) = false := by decide +kernel

omit [IsStrictOrderedRing K] in
theorem calculateVar_ok {values : List K} {horizonDays : Nat} (h : 2 ≤ values.length)
    (hbase : calculateVarByMethod math values method confidence = .ok baseVar)
    (hhorizon : beyondFloat horizonDays = false) (shortfall : Bool) (samplingFrequency : String) :
    calculateVar math values method confidence horizonDays shortfall samplingFrequency =
      .ok ⟨some (baseVar * math.sqrt horizonDays), some (varDetails math values method confidence
        horizonDays shortfall samplingFrequency baseVar)⟩ := by
  rw [calculateVar]
  refine bind_eq_ok.2 ⟨(), requireData_ok h, bind_eq_ok.2 ⟨baseVar, hbase, ?_⟩⟩
  exact bind_eq_ok.2 ⟨_, sqrtOfInt_eq_ok.2 ⟨hhorizon, rfl⟩, rfl⟩

omit [IsStrictOrderedRing K] [FloorRing K] in
theorem varDetails_shortfall (values : List K) (method : VaRMethod) (confidence : K)
    (horizonDays : Nat) (samplingFrequency : String) (baseVar : K) :
    (varDetails math values method confidence horizonDays true samplingFrequency baseVar).get?
      "expected_shortfall" =
        some (.float (expectedShortfall values baseVar * math.sqrt horizonDays)) := by
  rw [varDetails, Dict.get?_eq_some, Dict.items_ofList]
  · apply List.mem_append_right
    rw [if_pos rfl]
    exact List.mem_cons_of_mem _ (List.mem_cons_of_mem _ List.mem_cons_self)
  · change ["method", "confidence", "tail_probability", "base_horizon_days", "horizon_days",
      "sampling_frequency", "horizon_scale_method", "horizon_scale_factor",
      "include_expected_shortfall", "base_var", "observation_count", "tail_observation_count",
      "base_expected_shortfall", "expected_shortfall_observation_count",
      "expected_shortfall"].Nodup
    decide

omit [IsStrictOrderedRing K] in
/-- What is reported is the base values, scaled to the horizon. -/
theorem reports_calculateVar {values : List K} {horizonDays : Nat} (h : 2 ≤ values.length)
    (hbase : calculateVarByMethod math values method confidence = .ok baseVar)
    (hhorizon : beyondFloat horizonDays = false) (samplingFrequency : String) :
    Reports (calculateVar math values method confidence horizonDays true samplingFrequency)
      (baseVar * math.sqrt horizonDays)
      (expectedShortfall values baseVar * math.sqrt horizonDays) :=
  ⟨_, calculateVar_ok h hbase hhorizon true samplingFrequency,
    varDetails_shortfall values method confidence horizonDays samplingFrequency baseVar⟩

omit [IsStrictOrderedRing K] in
/-- A result that reports has a base value. -/
theorem exists_base_of_reports {values : List K}
    (h : Reports (calculateVar math values method confidence horizonDays true samplingFrequency)
      var es) :
    2 ≤ values.length ∧ beyondFloat horizonDays = false ∧ ∃ baseVar,
      calculateVarByMethod math values method confidence = .ok baseVar := by
  obtain ⟨details, hresult, _⟩ := h
  rw [calculateVar] at hresult
  obtain ⟨_, hdata, hrest⟩ := bind_eq_ok.1 hresult
  obtain ⟨baseVar, hbase, hrest⟩ := bind_eq_ok.1 hrest
  obtain ⟨_, hscale, _⟩ := bind_eq_ok.1 hrest
  refine ⟨?_, (sqrtOfInt_eq_ok.1 hscale).1, baseVar, hbase⟩
  by_contra hshort
  rw [requireData_error (not_le.1 hshort)] at hdata
  cases hdata

omit [Field K] [LinearOrder K] [IsStrictOrderedRing K] [FloorRing K] in
theorem Reports.unique {result : Except PyException (RiskValue K)} (h : Reports result var es)
    (h' : Reports result var' es') : var = var' ∧ es = es' := by
  obtain ⟨details, hresult, hes⟩ := h
  obtain ⟨details', hresult', hes'⟩ := h'
  rw [hresult] at hresult'
  cases hresult'
  rw [hes] at hes'
  exact ⟨rfl, DetailValue.float.inj (Option.some.inj hes')⟩

/-- Whatever the method and the horizon, the reported shortfall is at most the reported value. -/
theorem reported_shortfall_le {values : List K}
    (h : Reports (calculateVar math values method confidence horizonDays true samplingFrequency)
      var es) : es ≤ var := by
  obtain ⟨hlength, hhorizon, baseVar, hbase⟩ := exists_base_of_reports h
  obtain ⟨rfl, rfl⟩ := h.unique (reports_calculateVar hlength hbase hhorizon samplingFrequency)
  exact mul_le_mul_of_nonneg_right (expectedShortfall_le values baseVar)
    (math.sqrt_nonneg horizonDays)

/-- One-day historical measures at one confidence. -/
structure HistoricalMeasures (math : PyMath K) (returns : List K) (confidence var es : K) :
    Prop where
  reports : Reports (calculateVar math returns .historical confidence 1 true "DAILY") var es
  lowest_le : ∃ low, returns.min? = some low ∧ low ≤ es
  shortfall_le : es ≤ var
  le_highest : ∃ high, returns.max? = some high ∧ var ≤ high
  tail_ne_nil : varTail returns var ≠ []

theorem exists_historicalMeasures {returns : List K} (h : 2 ≤ returns.length)
    (h₀ : 0 < confidence) (h₁ : confidence < 1) :
    HistoricalMeasures math returns confidence
      (interpolate (sortedReturns returns) (tailPosition returns confidence))
      (average (tail returns
        (interpolate (sortedReturns returns) (tailPosition returns confidence)))) := by
  have hne : returns ≠ [] := List.ne_nil_of_length_pos (by omega)
  obtain ⟨htail, y, hy, hle⟩ := varHistorical_between hne h₀ h₁
  have hone : math.sqrt ((1 : Nat) : K) = 1 := by
    rw [Nat.cast_one, math.sqrt_one]
  have hbase : calculateVarByMethod math returns .historical confidence = .ok _ :=
    varHistorical_eq returns h₀ h₁
  have hreports := reports_calculateVar h hbase day_scales "DAILY"
  rw [hone, mul_one, mul_one, expectedShortfall_eq_average htail] at hreports
  obtain ⟨low, hlow⟩ : ∃ low, returns.min? = some low := by
    rw [← Option.isSome_iff_exists, List.isSome_min?_iff]
    exact hne
  obtain ⟨high, hhigh⟩ : ∃ high, returns.max? = some high := by
    rw [← Option.isSome_iff_exists, List.isSome_max?_iff]
    exact hne
  refine ⟨hreports, ⟨low, hlow, ?_⟩, ?_, ⟨high, hhigh, ?_⟩, htail⟩
  · apply le_average htail
    intro x hx
    exact (List.min?_eq_some_iff.1 hlow).2 x (mem_tail.1 hx).1
  · apply average_le htail
    intro x hx
    exact (mem_tail.1 hx).2
  · exact hle.trans ((List.max?_eq_some_iff.1 hhigh).2 y hy)

/-- Value at risk and expected shortfall are coherent. -/
theorem var_coherent (math : PyMath K) (returns : List K) (c₁ c₂ : K) (h : 2 ≤ returns.length)
    (h₀ : 0 < c₁) (hc : c₁ ≤ c₂) (h₁ : c₂ < 1) :
    (∃ var₁ es₁ var₂ es₂, HistoricalMeasures math returns c₁ var₁ es₁ ∧
      HistoricalMeasures math returns c₂ var₂ es₂ ∧ var₂ ≤ var₁ ∧ es₂ ≤ es₁) ∧
    ∀ method confidence horizonDays var es, 0 < confidence → confidence < 1 → 0 < horizonDays →
      Reports (calculateVar math returns method confidence horizonDays true "DAILY") var es →
      es ≤ var := by
  have hne : returns ≠ [] := List.ne_nil_of_length_pos (by omega)
  constructor
  · have hvar := varHistorical_anti hne h₀ hc h₁
    refine ⟨_, _, _, _, exists_historicalMeasures h h₀ (hc.trans_lt h₁),
      exists_historicalMeasures h (h₀.trans_le hc) h₁, hvar, ?_⟩
    exact average_tail_mono hvar (varHistorical_between hne (h₀.trans_le hc) h₁).1
  · intro method confidence horizonDays var es _ _ _ hreports
    exact reported_shortfall_le hreports

/-- The functions where they are rational: roots of squares, powers of one or with integer
exponents, the logarithm and the quantile at the mean. -/
def rationalMath : PyMath ℚ where
  sqrt x := (Nat.sqrt x.num.toNat : ℚ) / (Nat.sqrt x.den : ℚ)
  log1p x := x
  invCdf _ := 0
  pow x y := if y.den = 1 then x ^ y.num.toNat else 1
  skew _ := none
  kurt _ := none
  sqrt_nonneg x := by positivity
  sqrt_one := by decide +kernel

theorem var_coherent_two : ∃ var₁ es₁ var₂ es₂,
    HistoricalMeasures rationalMath [2, -1] (9 / 10) var₁ es₁ ∧
    HistoricalMeasures rationalMath [2, -1] (19 / 20) var₂ es₂ ∧ var₂ ≤ var₁ ∧ es₂ ≤ es₁ :=
  (var_coherent rationalMath [2, -1] (9 / 10) (19 / 20) (by decide) (by norm_num) (by norm_num)
    (by norm_num)).1

end Reported

end LotusRisk
