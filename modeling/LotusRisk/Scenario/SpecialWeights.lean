import LotusRisk.PythonFloats
import LotusRisk.Scenario.Losses

/-! The scenario validators on the doubles a caller can send, with their special values: what is
accepted is finite and normalized. -/

namespace LotusRisk
open Relational Doubles
set_option autoImplicit true

section Checks

/-- The bounds of a weight hold of it. -/
def UnitWeight (w : Float) : Prop := le w 1 = true ∧ le 0 w = true

theorem UnitWeight.isFinite (h : UnitWeight w) : w.isFinite = true :=
  isFinite_of_le (show (0 : Float).isFinite = true from rfl)
    (show (1 : Float).isFinite = true from rfl) h.2 h.1

/-- A total is within the tolerance of its target. -/
def WithinTolerance (total target : Float) : Prop := le (total - target).abs 0.000001 = true

/-- The weights are finite, and sum to one within the tolerance. -/
structure FullAllocation (weights : List Float) : Prop where
  finite : ∀ w ∈ weights, w.isFinite = true
  normalized : WithinTolerance (sum weights) 1

/-- A check that refuses what is beyond the tolerance lets only a NaN through besides. -/
theorem withinTolerance_iff (htotal : total.isNaN = false) (htarget : target.isFinite = true) :
    WithinTolerance total target ↔ Float.lt 0.000001 (total - target).abs = false := by
  constructor
  · intro h
    exact lt_eq_false_of_le h
  · intro h
    exact le_of_lt_eq_false rfl (isNaN_abs (isNaN_sub htotal htarget)) h

theorem validateFullAllocation_iff {weights : List Float} {field : String}
    (h : ∀ w ∈ weights, UnitWeight w) :
    validateFullAllocation weights field = .ok () ↔ FullAllocation weights := by
  have hnan : (sum weights).isNaN = false := isNaN_sum (fun w hw => (h w hw).2)
  rw [validateFullAllocation]
  have hone : (1 : Float).isFinite = true := rfl
  refine raiseIf_eq_ok.trans ((withinTolerance_iff hnan hone).symm.trans ?_)
  constructor
  · intro hsum
    exact ⟨fun w hw => (h w hw).isFinite, hsum⟩
  · intro hfull
    exact hfull.normalized

theorem unitBoundErrors_iff {value : Float} : unitBoundErrors loc value = [] ↔ UnitWeight value :=
  unitBoundErrors_eq_nil

end Checks

section Requests

variable [PyText]

/-- The bucket and component weights of a request. -/
def requestWeights (request : ScenarioEvaluationRequest Float) : List Float :=
  request.exposures.map (·.weight) ++ request.exposureComponents.map (·.weight)

/-- The weights are finite and normalized. -/
structure NormalizedWeights (request : ScenarioEvaluationRequest Float) : Prop where
  exposures : FullAllocation (request.exposures.map (·.weight))
  components : request.exposureComponents ≠ [] →
    FullAllocation (request.exposureComponents.map (·.weight))

/-- What the components of a bucket add up to, from the left. -/
def bucketTotal (components : List (ScenarioExposureComponent Float)) (bucket : String) : Float :=
  (bucketWeights components bucket).foldl (· + ·) 0

/-- The rules of a contract. -/
structure ContractRules (maxComponents : Nat) (request : ScenarioEvaluationRequest Float) :
    Prop where
  exposures_length : request.exposures.length ≤ scenarioMaxExposureBuckets
  components_length : request.exposureComponents.length ≤ maxComponents
  weights : ∀ w ∈ requestWeights request, UnitWeight w
  loss : UnitWeight request.maximumAllowedLossPct
  nonempty : request.exposures ≠ []
  unique : (normalizedBuckets request.exposures).Nodup
  allocated : FullAllocation (request.exposures.map (·.weight))
  known : ∀ c ∈ request.exposureComponents,
    PyText.upper c.bucket ∈ normalizedBuckets request.exposures
  reconciled : ∀ exposure ∈ request.exposures,
    bucketWeights request.exposureComponents (PyText.upper exposure.bucket) ≠ [] →
      WithinTolerance (bucketTotal request.exposureComponents (PyText.upper exposure.bucket))
        exposure.weight
  components_allocated : request.exposureComponents ≠ [] →
    FullAllocation (request.exposureComponents.map (·.weight))

omit [PyText] in
theorem requestFieldErrors_iff {request : ScenarioEvaluationRequest Float} :
    requestFieldErrors maxComponents request = [] ↔
      request.exposures.length ≤ scenarioMaxExposureBuckets ∧
      request.exposureComponents.length ≤ maxComponents ∧
      (∀ w ∈ requestWeights request, UnitWeight w) ∧
      UnitWeight request.maximumAllowedLossPct := by
  have hitems {α : Type} (f : α → Float) (field : String) (items : List α) :
      (∀ m ∈ items.zipIdx, unitBoundErrors (field ++ "." ++ toString m.2 ++ ".weight") (f m.1) =
        []) ↔ ∀ w ∈ items.map f, UnitWeight w := by
    simp only [unitBoundErrors_iff, List.forall_mem_map]
    constructor
    · intro h item hitem
      obtain ⟨i, hi⟩ := List.mem_iff_getElem?.1 hitem
      exact h (item, i) (List.mem_zipIdx_iff_getElem?.2 hi)
    · intro h m hm
      exact h m.1 (List.fst_mem_of_mem_zipIdx hm)
  rw [requestFieldErrors, List.append_eq_nil_iff, List.append_eq_nil_iff, listErrors_eq_nil,
    listErrors_eq_nil, unitBoundErrors_iff, requestWeights]
  simp only [exposureErrors, componentErrors, hitems ScenarioExposure.weight,
    hitems ScenarioExposureComponent.weight, List.forall_mem_append]
  tauto

omit [PyText] in
/-- The total and the weight of a bucket are compared where both exist. -/
theorem mismatchedBuckets_eq_nil {totals exposures : Dict String Float} :
    mismatchedBuckets totals exposures = [] ↔ ∀ b t w, (b, t) ∈ totals.items →
      (b, w) ∈ exposures.items → Float.lt 0.000001 (t - w).abs = false := by
  rw [mismatchedBuckets, List.map_eq_nil_iff, List.filter_eq_nil_iff]
  constructor
  · intro h b t w ht hw
    have hm := h (b, t) ((mem_insertionSort _).2 ht)
    dsimp only at hm
    rw [Dict.get?_eq_some.2 hw] at hm
    exact Bool.eq_false_iff.2 hm
  · rintro h ⟨b, t⟩ ht
    dsimp only
    cases hw : exposures.get? b with
    | none => exact Bool.false_ne_true
    | some w =>
      exact Bool.eq_false_iff.1 (h b t w ((mem_insertionSort _).1 ht) (Dict.get?_eq_some.1 hw))

theorem bucketWeights_ne_nil {components : List (ScenarioExposureComponent Float)} :
    bucketWeights components b ≠ [] ↔ b ∈ (componentTotals components).keys := by
  rw [mem_keys_componentTotals, bucketWeights, ne_eq, List.map_eq_nil_iff, List.filter_eq_nil_iff]
  simp

theorem mem_items_componentTotals {components : List (ScenarioExposureComponent Float)}
    (h : (b, t) ∈ (componentTotals components).items) : t = bucketTotal components b := by
  rw [← Dict.getD_of_mem h PyFloat.zero, getD_componentTotals]
  rfl

theorem total_mem_items_componentTotals {components : List (ScenarioExposureComponent Float)}
    (h : bucketWeights components b ≠ []) :
    (b, bucketTotal components b) ∈ (componentTotals components).items := by
  obtain ⟨t, ht⟩ := Option.isSome_iff_exists.1 (Dict.get?_isSome.2 (bucketWeights_ne_nil.1 h))
  have hitem := Dict.get?_eq_some.1 ht
  rwa [← mem_items_componentTotals hitem]

theorem mem_items_exposureByBucket {exposures : List (ScenarioExposure Float)}
    (h : (normalizedBuckets exposures).Nodup) :
    (b, w) ∈ (exposureByBucket exposures).items ↔
      ∃ exposure ∈ exposures, PyText.upper exposure.bucket = b ∧ exposure.weight = w := by
  rw [items_exposureByBucket h, List.mem_map]
  simp only [Prod.mk.injEq]

/-- The comparison of the buckets passes exactly where each named bucket reconciles. -/
theorem mismatchedBuckets_iff {request : ScenarioEvaluationRequest Float}
    (hunique : (normalizedBuckets request.exposures).Nodup)
    (hweights : ∀ w ∈ requestWeights request, UnitWeight w) :
    mismatchedBuckets (componentTotals request.exposureComponents)
        (exposureByBucket request.exposures) = [] ↔
      ∀ exposure ∈ request.exposures,
        bucketWeights request.exposureComponents (PyText.upper exposure.bucket) ≠ [] →
          WithinTolerance (bucketTotal request.exposureComponents (PyText.upper exposure.bucket))
            exposure.weight := by
  have htarget : ∀ exposure ∈ request.exposures, exposure.weight.isFinite = true := fun exposure he =>
    (hweights _ (List.mem_append_left _ (List.mem_map_of_mem he))).isFinite
  have htotal : ∀ b, (bucketTotal request.exposureComponents b).isNaN = false := by
    intro b
    apply isNaN_foldl_add
    intro w hw
    obtain ⟨c, hc, rfl⟩ := List.mem_map.1 hw
    exact (hweights _ (List.mem_append_right _ (List.mem_map_of_mem (List.mem_of_mem_filter hc)))).2
  rw [mismatchedBuckets_eq_nil]
  constructor
  · intro h exposure he hne
    rw [withinTolerance_iff (htotal _) (htarget exposure he)]
    exact h _ _ _ (total_mem_items_componentTotals hne)
      ((mem_items_exposureByBucket hunique).2 ⟨exposure, he, rfl, rfl⟩)
  · intro h b t w ht hw
    obtain ⟨exposure, he, rfl, rfl⟩ := (mem_items_exposureByBucket hunique).1 hw
    have hkey : PyText.upper exposure.bucket ∈
        (componentTotals request.exposureComponents).keys := List.mem_map_of_mem ht
    rw [mem_items_componentTotals ht, ← withinTolerance_iff (htotal _) (htarget exposure he)]
    exact h exposure he (bucketWeights_ne_nil.2 hkey)

omit [PyText] in
theorem duplicateBuckets_eq_nil {normalized : List String} :
    duplicateBuckets normalized = [] ↔ normalized.Nodup := by
  constructor
  · exact nodup_of_duplicateBuckets
  · intro h
    rw [duplicateBuckets, sortedSet_eq_nil, List.filter_eq_nil_iff]
    intro bucket _
    simpa using List.nodup_iff_count_le_one.1 h bucket

theorem unknownBuckets_eq_nil {request : ScenarioEvaluationRequest Float} :
    unknownBuckets (componentTotals request.exposureComponents)
        (exposureByBucket request.exposures) = [] ↔
      ∀ c ∈ request.exposureComponents,
        PyText.upper c.bucket ∈ normalizedBuckets request.exposures := by
  have hkeys : ∀ b, b ∈ (exposureByBucket request.exposures).keys ↔
      b ∈ normalizedBuckets request.exposures := by
    intro b
    rw [exposureByBucket, Dict.mem_keys_ofList, List.map_map]
    rfl
  rw [unknownBuckets, sortedSet_eq_nil, List.filter_eq_nil_iff]
  simp only [decide_eq_true_eq, not_not, hkeys, mem_keys_componentTotals, forall_exists_index,
    and_imp, forall_apply_eq_imp_iff₂]

/-- The contracts accept exactly what their rules allow. -/
theorem validateModel_iff (maxComponents : Nat) (request : ScenarioEvaluationRequest Float) :
    validateModel maxComponents RegimeScenarioPackRequest.validateExposures request = .ok () ↔
      ContractRules maxComponents request := by
  rw [validateModel_eq_ok, requestFieldErrors_iff, validateExposures_eq_ok,
    duplicateBuckets_eq_nil]
  constructor
  · rintro ⟨⟨hexposures, hcomponents, hweights, hloss⟩, hne, hunique, hallocated, hrest⟩
    have hsplit := List.forall_mem_append.1 hweights
    refine ⟨hexposures, hcomponents, hweights, hloss, hne, hunique,
      (validateFullAllocation_iff hsplit.1).1 hallocated, ?_, ?_, ?_⟩
    · intro c hc
      exact unknownBuckets_eq_nil.1 (hrest (List.ne_nil_of_mem hc)).1 c hc
    · intro exposure he hbucket
      obtain ⟨c, hc, _⟩ := mem_keys_componentTotals.1 (bucketWeights_ne_nil.1 hbucket)
      exact (mismatchedBuckets_iff hunique hweights).1 (hrest (List.ne_nil_of_mem hc)).2.1
        exposure he hbucket
    · intro hc
      exact (validateFullAllocation_iff hsplit.2).1 (hrest hc).2.2
  · intro h
    have hsplit := List.forall_mem_append.1 h.weights
    refine ⟨⟨h.exposures_length, h.components_length, h.weights, h.loss⟩, h.nonempty, h.unique,
      (validateFullAllocation_iff hsplit.1).2 h.allocated, ?_⟩
    intro hc
    exact ⟨unknownBuckets_eq_nil.2 h.known,
      (mismatchedBuckets_iff h.unique h.weights).2 h.reconciled,
      (validateFullAllocation_iff hsplit.2).2 (h.components_allocated hc)⟩

theorem ContractRules.normalized {request : ScenarioEvaluationRequest Float}
    (h : ContractRules maxComponents request) : NormalizedWeights request :=
  ⟨h.allocated, h.components_allocated⟩

theorem job_validate_eq (request : ScenarioEvaluationRequest Float) :
    RegimeScenarioPackJobRequest.validate request =
      validateModel scenarioJobMaxExposureComponents
        RegimeScenarioPackRequest.validateExposures request := by
  rw [RegimeScenarioPackJobRequest.validate, validateModel, validateModel, validateExposures_agree]

/-- Each contract accepts what its rules allow, which is finite and normalized, and rejects every
request whose weights are not. -/
theorem scenario_weights_normalized (request : ScenarioEvaluationRequest Float) :
    (RegimeScenarioPackRequest.validate request = .ok () ↔
      ContractRules scenarioMaxExposureComponents request) ∧
    (RegimeScenarioPackJobRequest.validate request = .ok () ↔
      ContractRules scenarioJobMaxExposureComponents request) ∧
    (∀ maxComponents, ContractRules maxComponents request → NormalizedWeights request) ∧
    (¬NormalizedWeights request →
      (∃ e, RegimeScenarioPackRequest.validate request = .error e) ∧
        ∃ e, RegimeScenarioPackJobRequest.validate request = .error e) := by
  have hpack : RegimeScenarioPackRequest.validate request = .ok () ↔
      ContractRules scenarioMaxExposureComponents request := validateModel_iff _ request
  have hjob : RegimeScenarioPackJobRequest.validate request = .ok () ↔
      ContractRules scenarioJobMaxExposureComponents request := by
    rw [job_validate_eq]
    exact validateModel_iff _ request
  refine ⟨hpack, hjob, fun _ h => h.normalized, ?_⟩
  intro hnot
  constructor
  · cases hvalidate : RegimeScenarioPackRequest.validate request with
    | ok _ => exact absurd (hpack.1 hvalidate).normalized hnot
    | error e => exact ⟨e, rfl⟩
  · cases hvalidate : RegimeScenarioPackJobRequest.validate request with
    | ok _ => exact absurd (hjob.1 hvalidate).normalized hnot
    | error e => exact ⟨e, rfl⟩

end Requests

section Examples

open scoped AsciiRuntime

/-- Buckets of the given weights, with no components. -/
def bucketsRequest (weights : List Float) : ScenarioEvaluationRequest Float where
  scenarioPackId := "CIO_REGIME_2026_Q2"
  portfolioId := none
  asOfDate := ⟨2026, 5, 3, by decide⟩
  exposures := weights.zipIdx.map fun m => ⟨s!"B{m.2}", m.1⟩
  exposureComponents := []
  maximumAllowedLossPct := 0.12

-- a NaN is refused by its own bounds, and ten tenths add up
example : (RegimeScenarioPackRequest.validate (bucketsRequest [0 / 0, 0.2])).toOption = none ∧
    RegimeScenarioPackRequest.validate (bucketsRequest (List.replicate 10 0.1)) = .ok () := by
  decide +kernel

end Examples

end LotusRisk
