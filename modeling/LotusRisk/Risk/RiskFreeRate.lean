import LotusRisk.Lib.Compounding
import LotusRisk.Risk.RiskFree

namespace LotusRisk
set_option autoImplicit true

open Compounding

section Constant

variable {K : Type} [Field K] [LinearOrder K]

/-- Every dated point of the response gives the same value under the same convention. -/
structure ConstantRiskFree (texts : PyTexts K) (payload : List (String × PyValue K))
    (convention : String) (value : K) : Prop where
  constant : ∃ points, getEntry payload "points" = .list points ∧
    points.filterMap datedRow ≠ [] ∧
    ∀ row ∈ points.filterMap datedRow, (∃ date, texts.fromisoformat row.1 = some date) ∧
      rowValueConvention texts row.2 = convention ∧
      texts.toDecimal (getEntry row.2 "value") = some (.finite value)

/-- A constant response, converted to `rate` per period, is applied as the rate of a year of
such periods. -/
theorem sourced_rate_of_constant [CharZero K] {texts : PyTexts K} {pow : K → K → K}
    (options : RiskOptions K) (h : ConstantRiskFree texts payload convention value)
    (hrate : ∀ row, rowValueConvention texts row = convention →
      texts.toDecimal (getEntry row "value") = some (.finite value) →
      parsePeriodicReturn texts pow (annualizationFactorForOptions options) row =
        .ok (.finite (inPercent rate))) :
    ∃ points, fetchRiskFreePoints texts pow options payload = .ok points ∧
      optionsWithSourcedRiskFree options points =
        { options with
          riskFreeMode := .annualRate
          riskFreeAnnualRate := some ((1 + rate) ^ annualizationFactorForOptions options - 1) } := by
  obtain ⟨rows, hrows, hne, hall⟩ := h.constant
  obtain ⟨points, hok, hlen, hpoints⟩ := exists_mapM_ok
    (riskFreeReturnPoint texts pow (annualizationFactorForOptions options))
    (fun point => point.value = inPercent rate) (rows.filterMap datedRow) (by
      intro row hrow
      obtain ⟨⟨date, hdate⟩, hconv, hvalue⟩ := hall row hrow
      refine ⟨⟨date, inPercent rate⟩, ?_, rfl⟩
      unfold riskFreeReturnPoint
      rw [hdate]
      simp only [hrate row.2 hconv hvalue]
      rfl)
  have hpne : points ≠ [] := by
    intro he
    rw [he] at hlen
    exact hne (List.length_eq_zero_iff.1 hlen.symm)
  have hempty : points.isEmpty = false := List.isEmpty_eq_false_iff.2 hpne
  refine ⟨points, ?_, ?_⟩
  · unfold fetchRiskFreePoints toRiskFreeReturnPoints
    rw [hrows]
    simp only [hok]
    change (if points.isEmpty = true then _ else _) = _
    rw [hempty]
    rfl
  · unfold optionsWithSourcedRiskFree annualizedRateFromRiskFreeReturns
    have hmean : mean (points.map (fun point => fromPercent point.value)) = rate := by
      apply mean_of_constant (by simpa using hpne)
      intro x hx
      obtain ⟨point, hp, rfl⟩ := List.mem_map.1 hx
      rw [hpoints point hp, fromPercent_inPercent]
    rw [hempty]
    simp only [hmean]
    rfl

end Constant

section Real

/-- `x ** y` in exact arithmetic. -/
noncomputable def realPow (x y : ℝ) : ℝ := x ^ y

variable {texts : PyTexts ℝ} {payload : List (String × PyValue ℝ)} {row : List (String × PyValue ℝ)}

theorem parsePeriodicReturn_periodic (hconv : rowValueConvention texts row = convention)
    (hvalue : texts.toDecimal (getEntry row "value") = some (.finite value))
    (hmem : convention ∈ periodicValueConventions) (basis : Nat) :
    parsePeriodicReturn texts realPow basis row = .ok (.finite (inPercent value)) := by
  unfold parsePeriodicReturn riskFreeDecimal
  simp only [hconv, hvalue, if_pos hmem]
  rfl

theorem not_periodic_of_annualized (h : convention ∈ annualizedValueConventions) :
    convention ∉ periodicValueConventions := by
  unfold annualizedValueConventions at h
  rcases List.mem_cons.1 h with rfl | h
  · decide
  · rw [List.mem_singleton.1 h]
    decide

theorem parsePeriodicReturn_annualized (hconv : rowValueConvention texts row = convention)
    (hvalue : texts.toDecimal (getEntry row "value") = some (.finite value))
    (hmem : convention ∈ annualizedValueConventions) (hv : -1 < value) (basis : Nat) :
    parsePeriodicReturn texts realPow basis row =
      .ok (.finite (inPercent (periodicOf value basis))) := by
  have hbase : ¬(1 + value < 0 ∧ basis ≠ 1) := by
    rintro ⟨hneg, _⟩
    linarith
  unfold parsePeriodicReturn riskFreeDecimal
  simp only [hconv, hvalue, if_neg (not_periodic_of_annualized hmem), if_pos hmem]
  have hcore : coreAnnualToPeriodic realPow basis (.finite value) =
      .ok (.finite (periodicOf value basis)) := by
    unfold coreAnnualToPeriodic
    exact if_neg hbase
  exact bind_eq_ok.2 ⟨_, rfl, bind_eq_ok.2 ⟨_, hcore, rfl⟩⟩

theorem annualToPeriodic_ok (h : -1 ≤ rate) (annualFactor : Nat) :
    annualToPeriodic realPow rate annualFactor = .ok (periodicOf rate annualFactor) := by
  have hbase : ¬(1 + rate < 0 ∧ annualFactor ≠ 1) := by
    rintro ⟨hneg, _⟩
    linarith
  unfold annualToPeriodic
  rw [if_neg hbase]
  rfl

/-- The annual and the periodic risk-free rate that a sourced calculation applies. -/
def AppliedRates (texts : PyTexts ℝ) (options : RiskOptions ℝ)
    (payload : List (String × PyValue ℝ)) (annual periodic : ℝ) : Prop :=
  ∃ points periodicMar, fetchRiskFreePoints texts realPow options payload = .ok points ∧
    (optionsWithSourcedRiskFree options points).riskFreeAnnualRate = some annual ∧
    resolvePeriodicRates realPow (optionsWithSourcedRiskFree options points)
      (annualizationFactorForOptions options) = .ok (periodic, periodicMar)

theorem appliedRates_of_constant (options : RiskOptions ℝ)
    (h : ConstantRiskFree texts payload convention value) (hr : -1 < rate)
    (hrate : ∀ row, rowValueConvention texts row = convention →
      texts.toDecimal (getEntry row "value") = some (.finite value) →
      parsePeriodicReturn texts realPow (annualizationFactorForOptions options) row =
        .ok (.finite (inPercent rate))) :
    AppliedRates texts options payload
      (annualOf rate (annualizationFactorForOptions options))
      (periodicOf (annualOf rate (annualizationFactorForOptions options))
        (annualizationFactorForOptions options)) := by
  obtain ⟨points, hfetch, hoptions⟩ := sourced_rate_of_constant options h hrate
  have hannual := neg_one_lt_annualOf hr (annualizationFactorForOptions options)
  have hmar : -1 ≤ options.marAnnualRate := by linarith [options.mar_nonneg]
  refine ⟨points, periodicOf options.marAnnualRate (annualizationFactorForOptions options),
    hfetch, ?_, ?_⟩
  · rw [hoptions]
    rfl
  · rw [hoptions]
    unfold resolvePeriodicRates
    change (do
      let periodicRf ← annualToPeriodic realPow
        (annualOf rate (annualizationFactorForOptions options))
        (annualizationFactorForOptions options)
      let periodicMar ← annualToPeriodic realPow options.marAnnualRate
        (annualizationFactorForOptions options)
      .ok (periodicRf, periodicMar)) = _
    rw [annualToPeriodic_ok hannual.le, annualToPeriodic_ok hmar]
    rfl

/-- A constant response gives both frequencies one annual rate, and the periodic rates of it,
exactly when it states annualized rates, or zero rates, or the frequencies are the same. -/
theorem applied_rate_frequency_iff (texts : PyTexts ℝ) (options : RiskOptions ℝ)
    (frequency frequency' : Frequency) (payload : List (String × PyValue ℝ))
    (convention : String) (value : ℝ) (hoverride : options.annualizationFactor = none)
    (hconst : ConstantRiskFree texts payload convention value) (hv : -1 < value)
    (haccepted : convention ∈ periodicValueConventions ∨ convention ∈ annualizedValueConventions) :
    ∃ annual periodic annual' periodic',
      AppliedRates texts { options with frequency := frequency } payload annual periodic ∧
      AppliedRates texts { options with frequency := frequency' } payload annual' periodic' ∧
      ((annual = annual' ∧
          periodic = (1 + annual) ^ (1 / (frequency.annualizationFactor : ℝ)) - 1 ∧
          periodic' = (1 + annual') ^ (1 / (frequency'.annualizationFactor : ℝ)) - 1) ↔
        convention ∈ annualizedValueConventions ∨ value = 0 ∨ frequency = frequency') := by
  have hfactor : ∀ f : Frequency, annualizationFactorForOptions { options with frequency := f } =
      f.annualizationFactor := by
    intro f
    unfold annualizationFactorForOptions
    simp only [hoverride]
    rfl
  have hnonzero : ∀ f : Frequency, f.annualizationFactor ≠ 0 := by
    intro f
    cases f <;> decide
  rcases haccepted with hperiodic | hannualized
  · have hrates : ∀ f : Frequency, AppliedRates texts { options with frequency := f } payload
        (annualOf value f.annualizationFactor)
        (periodicOf (annualOf value f.annualizationFactor) f.annualizationFactor) := by
      intro f
      have h := appliedRates_of_constant { options with frequency := f } hconst hv
        (fun row hc hd => parsePeriodicReturn_periodic hc hd hperiodic _)
      rw [hfactor f] at h
      exact h
    refine ⟨_, _, _, _, hrates frequency, hrates frequency', ?_⟩
    constructor
    · rintro ⟨heq, _, _⟩
      rcases (annualOf_eq_annualOf hv).1 heq with hzero | hsame
      · exact .inr (.inl hzero)
      · exact .inr (.inr (Frequency.annualizationFactor_injective hsame))
    · intro hcond
      refine ⟨(annualOf_eq_annualOf hv).2 ?_, rfl, rfl⟩
      rcases hcond with hannualized | hzero | rfl
      · exact absurd hperiodic (not_periodic_of_annualized hannualized)
      · exact .inl hzero
      · exact .inr rfl
  · have hrates : ∀ f : Frequency, AppliedRates texts { options with frequency := f } payload
        value (periodicOf value f.annualizationFactor) := by
      intro f
      have h := appliedRates_of_constant { options with frequency := f } hconst
        (neg_one_lt_periodicOf hv f.annualizationFactor)
        (fun row hc hd => by
          rw [hfactor f]
          exact parsePeriodicReturn_annualized hc hd hannualized hv _)
      rw [hfactor f, annualOf_periodicOf hv.le (hnonzero f)] at h
      exact h
    refine ⟨_, _, _, _, hrates frequency, hrates frequency', ?_⟩
    exact ⟨fun _ => .inl hannualized, fun _ => ⟨rfl, rfl, rfl⟩⟩

/-- One point of a hundredth of a percent a day. -/
def dailyReturnPayload : List (String × PyValue ℝ) :=
  [("points", .list [.dict [("series_date", .str "2026-01-05"), ("value", .str "0.0001"),
    ("value_convention", .str "daily_return")]])]

theorem dailyReturnPayload_constant :
    ConstantRiskFree plainTexts dailyReturnPayload "daily_return" (1 / 10000) := by
  refine ⟨_, rfl, List.cons_ne_nil _ _, ?_⟩
  intro row hrow
  rw [List.mem_singleton.1 hrow]
  refine ⟨⟨_, rfl⟩, ?_, ?_⟩
  · have htruthy : (PyValue.str "daily_return" : PyValue ℝ).truthy = true := rfl
    have hstrip : asciiLower (pyStrip "daily_return") = "daily_return" := by decide
    change asciiLower (pyStrip (if (PyValue.str "daily_return" : PyValue ℝ).truthy = true then
      "daily_return" else "")) = "daily_return"
    rw [htruthy, if_pos rfl, hstrip]
  · have hnumber : (plainNumber "0.0001" : Option (PyNumber ℝ)) =
        some (.finite (((1 : Nat) : ℝ) / ((10 ^ 4 : Nat) : ℝ))) := rfl
    have hvalue : ((1 : Nat) : ℝ) / ((10 ^ 4 : Nat) : ℝ) = 1 / 10000 := by norm_num
    rw [hvalue] at hnumber
    exact hnumber

/-- Sampled weekly instead of daily, the same response gives another annual rate. -/
theorem daily_return_rate_depends_on_frequency :
    ∃ annual periodic annual' periodic',
      AppliedRates plainTexts { defaultRiskOptions with frequency := .daily } dailyReturnPayload
        annual periodic ∧
      AppliedRates plainTexts { defaultRiskOptions with frequency := .weekly } dailyReturnPayload
        annual' periodic' ∧
      annual ≠ annual' := by
  have hv : (-1 : ℝ) < 1 / 10000 := by norm_num
  have hrates : ∀ f : Frequency,
      AppliedRates plainTexts { defaultRiskOptions with frequency := f } dailyReturnPayload
        (annualOf (1 / 10000) f.annualizationFactor)
        (periodicOf (annualOf (1 / 10000) f.annualizationFactor) f.annualizationFactor) := by
    intro f
    exact appliedRates_of_constant { defaultRiskOptions with frequency := f }
      dailyReturnPayload_constant hv
      (fun row hc hd => parsePeriodicReturn_periodic hc hd (by decide) _)
  refine ⟨_, _, _, _, hrates .daily, hrates .weekly, ?_⟩
  intro heq
  rcases (annualOf_eq_annualOf hv).1 heq with hzero | hsame
  · norm_num at hzero
  · exact absurd hsame (by decide)

theorem applied_rate_frequency_iff_daily_return :
    ConstantRiskFree plainTexts dailyReturnPayload "daily_return" (1 / 10000) ∧
    ∃ annual periodic annual' periodic',
      AppliedRates plainTexts { defaultRiskOptions with frequency := .daily } dailyReturnPayload
        annual periodic ∧
      AppliedRates plainTexts { defaultRiskOptions with frequency := .weekly } dailyReturnPayload
        annual' periodic' ∧
      ((annual = annual' ∧
          periodic = (1 + annual) ^ (1 / (Frequency.daily.annualizationFactor : ℝ)) - 1 ∧
          periodic' = (1 + annual') ^ (1 / (Frequency.weekly.annualizationFactor : ℝ)) - 1) ↔
        "daily_return" ∈ annualizedValueConventions ∨ (1 / 10000 : ℝ) = 0 ∨
          Frequency.daily = Frequency.weekly) :=
  ⟨dailyReturnPayload_constant,
    applied_rate_frequency_iff plainTexts defaultRiskOptions .daily .weekly dailyReturnPayload
      "daily_return" (1 / 10000) rfl dailyReturnPayload_constant (by norm_num) (.inl (by decide))⟩

end Real

end LotusRisk
