import LotusRisk.Lib.Reconcile
import LotusRisk.Scenario.Catalog
import LotusRisk.Scenario.Evaluation

/-! In exact arithmetic the reported position contributions explain the reported loss, up to the
tolerances of the validators and the rounding. -/

namespace LotusRisk
open Relational Reconcile
set_option autoImplicit true

section Shocks

/-- The tolerance of the three allocation checks. -/
def allocationTolerance : ℚ := 1 / 1000000

/-- The shocks of the scenario are losses of at most the whole bucket. -/
def LossShocks (scenario : ScenarioDefinition ℚ) : Prop :=
  ∀ m ∈ scenario.shockByBucket.items, -1 ≤ m.2 ∧ m.2 ≤ 0

/-- The largest absolute shock of the scenario. -/
def maxShock (scenario : ScenarioDefinition ℚ) : ℚ :=
  (scenario.shockByBucket.items.map (fun m => |m.2|)).foldr max 0

/-- The part of the weight of a bucket that the scenario loses. -/
def lossFactor (scenario : ScenarioDefinition ℚ) (bucket : String) : ℚ :=
  -scenario.shockByBucket.getD bucket 0

theorem le_foldr_max {l : List ℚ} (h : x ∈ l) : x ≤ l.foldr max 0 := by
  induction l with
  | nil => cases h
  | cons y l ih =>
    rw [List.foldr_cons]
    rcases List.mem_cons.1 h with rfl | h
    · exact le_max_left _ _
    · exact (ih h).trans (le_max_right _ _)

theorem foldr_max_nonneg (l : List ℚ) : 0 ≤ l.foldr max 0 := by
  induction l with
  | nil => exact le_refl 0
  | cons y l ih => exact ih.trans (le_max_right _ _)

theorem maxShock_nonneg (scenario : ScenarioDefinition ℚ) : 0 ≤ maxShock scenario :=
  foldr_max_nonneg _

theorem lossFactor_bounds {scenario : ScenarioDefinition ℚ} (hs : LossShocks scenario)
    (bucket : String) :
    0 ≤ lossFactor scenario bucket ∧ lossFactor scenario bucket ≤ maxShock scenario := by
  unfold lossFactor Dict.getD
  cases hg : scenario.shockByBucket.get? bucket with
  | none =>
    rw [Option.getD_none, neg_zero]
    exact ⟨le_refl 0, maxShock_nonneg scenario⟩
  | some shock =>
    rw [Option.getD_some]
    have hm := Dict.get?_eq_some.1 hg
    have h0 := (hs _ hm).2
    refine ⟨neg_nonneg.2 h0, ?_⟩
    rw [← abs_of_nonpos h0]
    exact le_foldr_max (List.mem_map.2 ⟨(bucket, shock), hm, rfl⟩)

/-- The loss of a bucket of the given weight, before rounding. -/
theorem bucketLoss_eq {scenario : ScenarioDefinition ℚ} (hs : LossShocks scenario) (hw : 0 ≤ w)
    (bucket : String) :
    PyFloat.max (PyFloat.neg (PyFloat.mul w (scenario.shockByBucket.getD bucket PyFloat.zero)))
      PyFloat.zero = w * lossFactor scenario bucket := by
  have hn := mul_nonneg hw (lossFactor_bounds hs bucket).1
  rw [rat_max, rat_neg, rat_mul, rat_zero, ← mul_neg]
  exact max_eq_left hn

theorem scenarioLoss_eq {scenario : ScenarioDefinition ℚ} (hs : LossShocks scenario)
    {exposures : Dict String ℚ} (hw : ∀ m ∈ exposures.items, 0 ≤ m.2) :
    scenarioLoss scenario exposures =
      ∑ b ∈ exposures.keys.toFinset, exposures.getD b 0 * lossFactor scenario b := by
  rw [Dict.sum_keys exposures (fun b w => w * lossFactor scenario b) 0]
  unfold scenarioLoss
  generalize exposures.items = items at hw
  induction items using List.reverseRecOn with
  | nil => rfl
  | append_singleton items m ih =>
    rw [List.foldl_append, List.foldl_cons, List.foldl_nil, List.map_append, List.sum_append]
    rw [ih (fun m' hm => hw m' (List.mem_append_left _ hm))]
    dsimp only
    rw [bucketLoss_eq hs (hw m (List.mem_append_right _ (List.mem_singleton.2 rfl))), rat_add,
      List.map_cons, List.map_nil, List.sum_singleton]

end Shocks

section Validated

theorem sortedSet_eq_nil {texts : List String} : sortedSet texts = [] ↔ texts = [] := by
  constructor
  · intro h
    apply List.eq_nil_iff_forall_not_mem.2
    intro text ht
    have hm : text ∈ sortedSet texts := (mem_insertionSort _).2 (List.mem_dedup.2 ht)
    rw [h] at hm
    cases hm
  · rintro rfl
    rfl

theorem nodup_of_duplicateBuckets {normalized : List String} (h : duplicateBuckets normalized = []) :
    normalized.Nodup := by
  rw [duplicateBuckets, sortedSet_eq_nil, List.filter_eq_nil_iff] at h
  rw [List.nodup_iff_count_le_one]
  intro bucket
  by_cases hm : bucket ∈ normalized
  · have := h bucket hm
    simpa using this
  · rw [List.count_eq_zero_of_not_mem hm]
    exact Nat.zero_le 1

theorem validateFullAllocation_eq_ok {weights : List ℚ} {field : String} :
    validateFullAllocation weights field = .ok () ↔ |weights.sum - 1| ≤ allocationTolerance := by
  unfold validateFullAllocation allocationTolerance
  rw [raiseIf_eq_ok]
  simp

variable [PyText]

/-- Component totals by bucket weigh like the components themselves. -/
theorem sum_componentTotals (components : List (ScenarioExposureComponent ℚ)) (f : String → ℚ) :
    ∑ b ∈ (componentTotals components).keys.toFinset, (componentTotals components).getD b 0 * f b =
      (components.map (fun c => c.weight * f (PyText.upper c.bucket))).sum := by
  unfold componentTotals
  induction components using List.reverseRecOn with
  | nil => rfl
  | append_singleton components c ih =>
    rw [List.foldl_append, List.map_append, List.sum_append, ← ih]
    simp only [List.foldl_cons, List.foldl_nil, rat_zero, rat_add, List.map_cons, List.map_nil,
      List.sum_cons, List.sum_nil, add_zero]
    exact Dict.sum_keys_set _ f _ _

/-- The bucket weights and the component totals of an accepted request are two allocations of the
whole portfolio. -/
theorem allocation_of_validate {request : ScenarioEvaluationRequest ℚ}
    (h : RegimeScenarioPackRequest.validate request = .ok ())
    (hc : request.exposureComponents ≠ []) :
    Allocation (exposureByBucket request.exposures).keys.toFinset
      (componentTotals request.exposureComponents).keys.toFinset
      (fun b => (exposureByBucket request.exposures).getD b 0)
      (fun b => (componentTotals request.exposureComponents).getD b 0) allocationTolerance := by
  obtain ⟨hf, hv⟩ := validateModel_eq_ok.1 h
  obtain ⟨-, hd, ht, hr⟩ := validateExposures_ok hv
  obtain ⟨hu, hm, hp⟩ := hr hc
  have hitems := items_exposureByBucket (nodup_of_duplicateBuckets hd)
  have hknown : ∀ b ∈ (componentTotals request.exposureComponents).keys,
      b ∈ (exposureByBucket request.exposures).keys := by
    rw [unknownBuckets, sortedSet_eq_nil, List.filter_eq_nil_iff] at hu
    intro b hb
    simpa using hu b hb
  constructor
  · intro b hb
    exact List.mem_toFinset.2 (hknown b (List.mem_toFinset.1 hb))
  · intro b hb
    obtain ⟨m, hm', rfl⟩ := List.mem_map.1 (List.mem_toFinset.1 hb)
    change m ∈ Dict.items _ at hm'
    rw [Dict.getD_of_mem (v := m.2) hm']
    rw [hitems] at hm'
    obtain ⟨exposure, he, rfl⟩ := List.mem_map.1 hm'
    have := (weights_of_requestFieldErrors hf).1 exposure he
    simpa using this
  · have hs := Dict.sum_keys (exposureByBucket request.exposures) (fun _ w => w) 0
    rw [hs, hitems, List.map_map]
    exact validateFullAllocation_eq_ok.1 ht
  · have hs := sum_componentTotals request.exposureComponents (fun _ => 1)
    simp only [mul_one] at hs
    rw [hs]
    exact validateFullAllocation_eq_ok.1 hp
  · intro b hb
    obtain ⟨⟨b', t⟩, hm', rfl⟩ := List.mem_map.1 (List.mem_toFinset.1 hb)
    obtain ⟨w, hw⟩ := Option.isSome_iff_exists.1
      (Dict.get?_isSome.2 (hknown _ (List.mem_toFinset.1 hb)))
    change (b', t) ∈ Dict.items _ at hm'
    rw [mismatchedBuckets, List.map_eq_nil_iff, List.filter_eq_nil_iff] at hm
    have hclose := hm (b', t) ((mem_insertionSort _).2 hm')
    dsimp only at hw hclose ⊢
    rw [hw] at hclose
    rw [Dict.getD_of_mem hm', Dict.getD_of_mem (Dict.get?_eq_some.1 hw)]
    unfold allocationTolerance
    simpa using hclose

/-- A bucket that a component names is one of the buckets with a total. -/
theorem card_componentTotals_le {request : ScenarioEvaluationRequest ℚ}
    (h : RegimeScenarioPackRequest.validate request = .ok ())
    (hc : request.exposureComponents ≠ []) :
    (componentTotals request.exposureComponents).keys.toFinset.card ≤
      request.exposures.length := by
  have hd := (validateExposures_ok (validateModel_eq_ok.1 h).2).2.1
  have hk : (exposureByBucket request.exposures).keys.length = request.exposures.length := by
    change ((exposureByBucket request.exposures).items.map Prod.fst).length = _
    rw [items_exposureByBucket (nodup_of_duplicateBuckets hd), List.length_map, List.length_map]
  calc _ ≤ (exposureByBucket request.exposures).keys.toFinset.card :=
        Finset.card_le_card (allocation_of_validate h hc).subset
    _ ≤ _ := List.toFinset_card_le _
    _ = _ := hk

/-- The reported contribution losses of one scenario. -/
def contributionLosses (result : ScenarioResult ℚ) : List ℚ :=
  result.positionContributions.map (·.contributionLossPct)

theorem sum_contributionLosses {scenario : ScenarioDefinition ℚ} (hs : LossShocks scenario)
    {request : ScenarioEvaluationRequest ℚ}
    (hw : ∀ component ∈ request.exposureComponents, 0 ≤ component.weight) :
    (contributionLosses (scenarioResult request scenario)).sum =
      ((request.exposureComponents.map (fun c =>
        c.weight * lossFactor scenario (PyText.upper c.bucket))).map roundSix).sum := by
  unfold contributionLosses scenarioResult
  dsimp only
  rw [((perm_rankedContributions scenario request.exposureComponents).map _).sum_eq, List.map_map,
    List.map_map]
  apply congrArg
  apply List.map_congr_left
  intro component hm
  exact congrArg roundSix (bucketLoss_eq hs (hw component hm) _)

/-- The sum of the contribution losses against the reported loss: one rounding for each row and one
for the loss, and the tolerances of the allocation checks scaled by the largest shock. -/
def LossExplained (request : ScenarioEvaluationRequest ℚ) (scenario : ScenarioDefinition ℚ)
    (result : ScenarioResult ℚ) : Prop :=
  |(contributionLosses result).sum - result.expectedLossPct| ≤
    (request.exposureComponents.length + 1) * (5 / 10000000) +
      (2 * request.exposures.length + 2) * (1 / 1000000) * maxShock scenario

/-- The weight of the buckets that no component names. -/
def unexplainedWeight (request : ScenarioEvaluationRequest ℚ) : ℚ :=
  ((request.exposures.filter (fun exposure => ∀ component ∈ request.exposureComponents,
    PyText.upper component.bucket ≠ PyText.upper exposure.bucket)).map (·.weight)).sum

theorem unexplainedWeight_eq {request : ScenarioEvaluationRequest ℚ}
    (h : RegimeScenarioPackRequest.validate request = .ok ()) :
    unexplainedWeight request =
      ∑ b ∈ (exposureByBucket request.exposures).keys.toFinset \
        (componentTotals request.exposureComponents).keys.toFinset,
        (exposureByBucket request.exposures).getD b 0 := by
  have hd := (validateExposures_ok (validateModel_eq_ok.1 h).2).2.1
  have hs := Dict.sum_keys (exposureByBucket request.exposures) (fun b w =>
    if b ∉ (componentTotals request.exposureComponents).keys.toFinset then w else 0) 0
  rw [Finset.sdiff_eq_filter, Finset.sum_filter, hs,
    items_exposureByBucket (nodup_of_duplicateBuckets hd), List.map_map]
  have hm := List.sum_map_ite (fun exposure : ScenarioExposure ℚ =>
    PyText.upper exposure.bucket ∉ (componentTotals request.exposureComponents).keys.toFinset)
    (·.weight) (fun _ => 0) request.exposures
  rw [List.map_const', List.sum_replicate, nsmul_zero, add_zero] at hm
  refine Eq.trans ?_ hm.symm
  unfold unexplainedWeight
  congr 2
  apply List.filter_congr
  intro exposure _
  simp [mem_keys_componentTotals]

theorem lossExplained_of_validate {request : ScenarioEvaluationRequest ℚ}
    (h : RegimeScenarioPackRequest.validate request = .ok ())
    (hc : request.exposureComponents ≠ []) {scenario : ScenarioDefinition ℚ}
    (hs : LossShocks scenario) :
    LossExplained request scenario (scenarioResult request scenario) := by
  have ha := allocation_of_validate h hc
  have hw : ∀ component ∈ request.exposureComponents, 0 ≤ component.weight := by
    intro component hm
    simpa using (weights_of_requestFieldErrors (validateModel_eq_ok.1 h).1).2 component hm
  have hloss : ∀ m ∈ (exposureByBucket request.exposures).items, 0 ≤ m.2 := by
    intro m hm
    have hk := ha.nonneg m.1 (List.mem_toFinset.2 (List.mem_map.2 ⟨m, hm, rfl⟩))
    rwa [Dict.getD_of_mem (v := m.2) hm] at hk
  have hrows := abs_sum_map_sub_le abs_roundSix_sub_le (request.exposureComponents.map (fun c =>
    c.weight * lossFactor scenario (PyText.upper c.bucket)))
  have hround := abs_roundSix_sub_le (scenarioLoss scenario (exposureByBucket request.exposures))
  have hmix := ha.abs_sub_le (fun b _ => (lossFactor_bounds hs b).1)
    (fun b _ => (lossFactor_bounds hs b).2) (maxShock_nonneg scenario)
  have hcard : ((componentTotals request.exposureComponents).keys.toFinset.card : ℚ) ≤
      request.exposures.length := by
    exact_mod_cast card_componentTotals_le h hc
  have hbound : (2 * ((componentTotals request.exposureComponents).keys.toFinset.card : ℚ) + 2) *
      allocationTolerance * maxShock scenario ≤
      (2 * request.exposures.length + 2) * (1 / 1000000) * maxShock scenario := by
    apply mul_le_mul_of_nonneg_right _ (maxShock_nonneg scenario)
    unfold allocationTolerance
    linarith
  rw [sum_componentTotals, ← scenarioLoss_eq hs hloss] at hmix
  rw [List.length_map] at hrows
  unfold LossExplained
  rw [sum_contributionLosses hs hw]
  change |_ - roundSix (scenarioLoss scenario (exposureByBucket request.exposures))| ≤ _
  rw [abs_le] at hrows hround hmix ⊢
  constructor
  · linarith [hrows.1, hround.2, hmix.1]
  · linarith [hrows.2, hround.1, hmix.2]

/-- The position contributions explain the loss of every scenario, in the results the engine
computes and in the response, and no material bucket is left without a component. -/
theorem position_contributions_explain_loss (request : RegimeScenarioPackRequest ℚ)
    (hc : request.exposureComponents ≠ []) :
    (∀ scenario, LossShocks scenario → ∃ result,
      evaluateScenario (exposureByBucket request.exposures) request.exposureComponents scenario =
        .ok result ∧
      LossExplained request.toScenarioEvaluationRequest scenario result) ∧
    (∀ catalog pack response, catalog.packs.get? request.scenarioPackId = some pack →
      (∀ scenario ∈ pack, LossShocks scenario) →
      evaluateRegimeScenarioPack catalog request = .ok response →
      List.Forall₂ (LossExplained request.toScenarioEvaluationRequest) pack
        response.scenarioResults) ∧
    unexplainedWeight request.toScenarioEvaluationRequest ≤
      (request.exposures.length + 2) * (1 / 1000000) := by
  have hw := request.toJobRequest.weights_nonneg
  refine ⟨?_, ?_, ?_⟩
  · intro scenario hs
    exact ⟨_, evaluateScenario_ok hw scenario, lossExplained_of_validate request.accepted hc hs⟩
  · intro catalog pack response hp hs he
    unfold evaluateRegimeScenarioPack at he
    rw [hp] at he
    obtain ⟨_, -, he⟩ := bind_eq_ok.1 he
    rw [(responseFromEvaluation_eq_ok hp hw he).2.1, List.forall₂_map_right_iff,
      List.forall₂_same]
    intro scenario hm
    exact lossExplained_of_validate request.accepted hc (hs scenario hm)
  · have hu := (allocation_of_validate request.accepted hc).uncovered_le
    rw [← unexplainedWeight_eq request.accepted] at hu
    have hcard : ((componentTotals request.exposureComponents).keys.toFinset.card : ℚ) ≤
        request.exposures.length := by
      exact_mod_cast card_componentTotals_le request.accepted hc
    unfold allocationTolerance at hu
    linarith

end Validated

section Example

open AsciiRuntime

theorem position_contributions_explain_loss_balanced :
    balancedRequest.exposureComponents ≠ [] ∧
    unexplainedWeight balancedRequest.toScenarioEvaluationRequest ≤ (2 + 2) * (1 / 1000000) ∧
    ∀ scenario ∈ (scenarioPacks.get? "CIO_REGIME_2026_Q2").getD [], ∃ result,
      evaluateScenario (exposureByBucket balancedRequest.exposures)
        balancedRequest.exposureComponents scenario = .ok result ∧
      LossExplained balancedRequest.toScenarioEvaluationRequest scenario result := by
  have hc : balancedRequest.exposureComponents ≠ [] := List.cons_ne_nil _ _
  obtain ⟨he, -, hu⟩ := position_contributions_explain_loss balancedRequest hc
  refine ⟨hc, hu, fun scenario hm => he scenario ?_⟩
  cases hp : scenarioPacks.get? "CIO_REGIME_2026_Q2" with
  | none =>
    rw [hp] at hm
    cases hm
  | some pack =>
    rw [hp] at hm
    exact codeCatalog_shocks _ (Dict.get?_eq_some.1 hp) scenario hm

end Example

end LotusRisk
