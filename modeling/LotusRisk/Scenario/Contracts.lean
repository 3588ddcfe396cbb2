import LotusRisk.Lib.Dict
import LotusRisk.Python

namespace LotusRisk
open Relational
set_option autoImplicit true

def scenarioMaxExposureBuckets : Nat := 16
def scenarioMaxExposureComponents : Nat := 250
def scenarioMaxPositionContributionRows : Nat := scenarioMaxExposureComponents
def scenarioJobMaxExposureComponents : Nat := 1000

structure ScenarioExposure (F : Type) where
  bucket : String
  weight : F

structure ScenarioExposureComponent (F : Type) where
  securityId : String
  displayName : Option String
  bucket : String
  weight : F

/-- The fields that `RegimeScenarioPackRequest` and `RegimeScenarioPackJobRequest` both declare. -/
structure ScenarioEvaluationRequest (F : Type) where
  scenarioPackId : String
  portfolioId : Option String
  asOfDate : Date
  exposures : List (ScenarioExposure F)
  exposureComponents : List (ScenarioExposureComponent F)
  maximumAllowedLossPct : F

variable [PyFloat F] [PyText]

section FieldBounds

/-- `Field(ge=0.0, le=1.0)`. A bound refuses what is not ordered with it. -/
def unitBoundErrors (loc : String) (value : F) : List FieldError :=
  if !PyFloat.le value PyFloat.one then [⟨loc, "less_than_equal"⟩]
  else if !PyFloat.le PyFloat.zero value then [⟨loc, "greater_than_equal"⟩]
  else []

/-- `Field(max_length=maximum)` on a list, and the errors of its items at their indices. -/
def listErrors (field : String) (maximum : Nat) (itemErrors : String → α → List FieldError)
    (items : List α) : List FieldError :=
  if maximum < items.length then [⟨field, "too_long"⟩]
  else (items.zipIdx.map (fun m => itemErrors (field ++ "." ++ toString m.2) m.1)).flatten

def exposureErrors (loc : String) (exposure : ScenarioExposure F) : List FieldError :=
  unitBoundErrors (loc ++ ".weight") exposure.weight

def componentErrors (loc : String) (component : ScenarioExposureComponent F) : List FieldError :=
  unitBoundErrors (loc ++ ".weight") component.weight

/-- The declared field constraints; the two request classes differ in `maxComponents` only. -/
def requestFieldErrors (maxComponents : Nat) (request : ScenarioEvaluationRequest F) :
    List FieldError :=
  listErrors "exposures" scenarioMaxExposureBuckets exposureErrors request.exposures ++
  listErrors "exposure_components" maxComponents componentErrors request.exposureComponents ++
  unitBoundErrors "maximum_allowed_loss_pct" request.maximumAllowedLossPct

end FieldBounds

section Validators

def normalizedBuckets (exposures : List (ScenarioExposure F)) : List String :=
  exposures.map (fun exposure => PyText.upper exposure.bucket)

/-- `sorted(set(texts))`. -/
def sortedSet (texts : List String) : List String := texts.dedup.insertionSort (· ≤ ·)

def duplicateBuckets (normalized : List String) : List String :=
  sortedSet (normalized.filter (fun bucket => 1 < normalized.count bucket))

def validateFullAllocation (weights : List F) (fieldName : String) : Except PyException Unit :=
  let total := PyFloat.sum weights
  raiseIf (PyFloat.lt PyFloat.tolerance (PyFloat.abs (PyFloat.sub total PyFloat.one)))
    (.valueError (fieldName ++ " weights must sum to 1.0 within 1e-06; received " ++
      PyFloat.fixed6 total))

def exposureByBucket (exposures : List (ScenarioExposure F)) : Dict String F :=
  Dict.ofList (exposures.map (fun exposure => (PyText.upper exposure.bucket, exposure.weight)))

def componentTotals (components : List (ScenarioExposureComponent F)) : Dict String F :=
  components.foldl (fun totals component =>
    let bucket := PyText.upper component.bucket
    totals.set bucket (PyFloat.add (totals.getD bucket PyFloat.zero) component.weight))
    Table.empty

def unknownBuckets (totals exposures : Dict String F) : List String :=
  sortedSet (totals.keys.filter (fun bucket => bucket ∉ exposures.keys))

/-- Every bucket of the totals is known here, so the look-up in `exposures` never fails. -/
def mismatchedBuckets (totals exposures : Dict String F) : List String :=
  ((totals.items.insertionSort (fun a b => a.1 ≤ b.1)).filter (fun m =>
    match exposures.get? m.1 with
    | some weight => PyFloat.lt PyFloat.tolerance (PyFloat.abs (PyFloat.sub m.2 weight))
    | none => false)).map Prod.fst

/-- `RegimeScenarioPackRequest.validate_exposures`. -/
def RegimeScenarioPackRequest.validateExposures (request : ScenarioEvaluationRequest F) :
    Except PyException Unit := do
  raiseIf request.exposures.isEmpty
    (.valueError "exposures must contain at least one scenario exposure bucket")
  let duplicates := duplicateBuckets (normalizedBuckets request.exposures)
  raiseIf (!duplicates.isEmpty)
    (.valueError ("exposures must contain unique scenario buckets: " ++
      ", ".intercalate duplicates))
  validateFullAllocation (request.exposures.map (·.weight)) "exposures"
  if !request.exposureComponents.isEmpty then
    let exposures := exposureByBucket request.exposures
    let totals := componentTotals request.exposureComponents
    let unknown := unknownBuckets totals exposures
    raiseIf (!unknown.isEmpty)
      (.valueError ("exposure_components contain buckets absent from exposures: " ++
        ", ".intercalate unknown))
    let mismatched := mismatchedBuckets totals exposures
    raiseIf (!mismatched.isEmpty)
      (.valueError ("exposure_components must reconcile to exposures for buckets: " ++
        ", ".intercalate mismatched))
    validateFullAllocation (request.exposureComponents.map (·.weight)) "exposure_components"

/-- `_validate_exposure_buckets` of the scenario-job contract. -/
def validateExposureBuckets (exposures : List (ScenarioExposure F)) : Except PyException Unit := do
  raiseIf exposures.isEmpty
    (.valueError "exposures must contain at least one scenario exposure bucket")
  let duplicates := duplicateBuckets (normalizedBuckets exposures)
  raiseIf (!duplicates.isEmpty)
    (.valueError ("exposures must contain unique scenario buckets: " ++
      ", ".intercalate duplicates))
  validateFullAllocation (exposures.map (·.weight)) "exposures"

/-- `_validate_exposure_components` of the scenario-job contract. -/
def validateExposureComponents (exposures : List (ScenarioExposure F))
    (components : List (ScenarioExposureComponent F)) : Except PyException Unit := do
  let exposures := exposureByBucket exposures
  let totals := componentTotals components
  let unknown := unknownBuckets totals exposures
  raiseIf (!unknown.isEmpty)
    (.valueError ("exposure_components contain buckets absent from exposures: " ++
      ", ".intercalate unknown))
  let mismatched := mismatchedBuckets totals exposures
  raiseIf (!mismatched.isEmpty)
    (.valueError ("exposure_components must reconcile to exposures for buckets: " ++
      ", ".intercalate mismatched))
  validateFullAllocation (components.map (·.weight)) "exposure_components"

/-- `RegimeScenarioPackJobRequest.validate_exposures`. -/
def RegimeScenarioPackJobRequest.validateExposures (request : ScenarioEvaluationRequest F) :
    Except PyException Unit := do
  validateExposureBuckets request.exposures
  if !request.exposureComponents.isEmpty then
    validateExposureComponents request.exposures request.exposureComponents

/-- The two validators were written separately and decide alike. -/
theorem validateExposures_agree (request : ScenarioEvaluationRequest F) :
    RegimeScenarioPackJobRequest.validateExposures request =
      RegimeScenarioPackRequest.validateExposures request := by
  simp only [RegimeScenarioPackJobRequest.validateExposures,
    RegimeScenarioPackRequest.validateExposures, validateExposureBuckets,
    validateExposureComponents, bind_assoc]

/-- Field errors come first; the model validator runs on a request without them, and its
`ValueError` is reported as a validation error of the whole model. -/
def validateModel (maxComponents : Nat)
    (validator : ScenarioEvaluationRequest F → Except PyException Unit)
    (request : ScenarioEvaluationRequest F) : Except PyException Unit :=
  match requestFieldErrors maxComponents request with
  | [] =>
    match validator request with
    | .ok () => .ok ()
    | .error (.valueError message) =>
      .error (.validationError [⟨"", "Value error, " ++ message⟩])
    | .error e => .error e
  | errors => .error (.validationError errors)

def RegimeScenarioPackRequest.validate (request : ScenarioEvaluationRequest F) :
    Except PyException Unit :=
  validateModel scenarioMaxExposureComponents RegimeScenarioPackRequest.validateExposures request

def RegimeScenarioPackJobRequest.validate (request : ScenarioEvaluationRequest F) :
    Except PyException Unit :=
  validateModel scenarioJobMaxExposureComponents RegimeScenarioPackJobRequest.validateExposures
    request

end Validators

/-- A request the synchronous contract accepted. -/
structure RegimeScenarioPackRequest (F : Type) [PyFloat F] [PyText] extends
    ScenarioEvaluationRequest F where
  accepted : RegimeScenarioPackRequest.validate toScenarioEvaluationRequest = .ok ()

/-- A request the scenario-job contract accepted. -/
structure RegimeScenarioPackJobRequest (F : Type) [PyFloat F] [PyText] extends
    ScenarioEvaluationRequest F where
  accepted : RegimeScenarioPackJobRequest.validate toScenarioEvaluationRequest = .ok ()

section Acceptance

omit [PyText] in
theorem validateModel_eq_ok {maxComponents : Nat}
    {validator : ScenarioEvaluationRequest F → Except PyException Unit}
    {request : ScenarioEvaluationRequest F} :
    validateModel maxComponents validator request = .ok () ↔
      requestFieldErrors maxComponents request = [] ∧ validator request = .ok () := by
  unfold validateModel
  cases hf : requestFieldErrors maxComponents request with
  | nil =>
    simp only [true_and]
    cases hv : validator request with
    | ok u => simp
    | error e => cases e <;> simp
  | cons e es => simp

omit [PyFloat F] [PyText] in
theorem listErrors_eq_nil {field : String} {itemErrors : String → α → List FieldError}
    {items : List α} :
    listErrors field maximum itemErrors items = [] ↔
      items.length ≤ maximum ∧
        ∀ m ∈ items.zipIdx, itemErrors (field ++ "." ++ toString m.2) m.1 = [] := by
  unfold listErrors
  split
  · rename_i h
    simp only [reduceCtorEq, false_iff, not_and]
    intro hl
    omega
  · rename_i h
    simp only [List.flatten_eq_nil_iff, List.mem_map, forall_exists_index, and_imp,
      forall_apply_eq_imp_iff₂]
    exact ⟨fun hm => ⟨Nat.le_of_not_lt h, hm⟩, And.right⟩

omit [PyText] in
theorem unitBoundErrors_eq_nil {value : F} :
    unitBoundErrors loc value = [] ↔
      PyFloat.le value PyFloat.one = true ∧ PyFloat.le PyFloat.zero value = true := by
  rw [unitBoundErrors]
  cases PyFloat.le value PyFloat.one with
  | false => simp
  | true => cases PyFloat.le PyFloat.zero value <;> simp

omit [PyText] in
/-- A longer component list is the only thing the job contract additionally accepts. -/
theorem requestFieldErrors_mono {request : ScenarioEvaluationRequest F} (h : m ≤ n)
    (he : requestFieldErrors m request = []) : requestFieldErrors n request = [] := by
  unfold requestFieldErrors at he ⊢
  simp only [List.append_eq_nil_iff, listErrors_eq_nil] at he ⊢
  obtain ⟨⟨hx, hl, hc⟩, hm⟩ := he
  exact ⟨⟨hx, Nat.le_trans hl h, hc⟩, hm⟩

theorem job_validate_of_validate {request : ScenarioEvaluationRequest F}
    (h : RegimeScenarioPackRequest.validate request = .ok ()) :
    RegimeScenarioPackJobRequest.validate request = .ok () := by
  obtain ⟨hf, hv⟩ := validateModel_eq_ok.1 h
  apply validateModel_eq_ok.2
  refine ⟨requestFieldErrors_mono (by decide) hf, ?_⟩
  rw [validateExposures_agree]
  exact hv

/-- The request of the synchronous endpoint, as a scenario-job request. -/
def RegimeScenarioPackRequest.toJobRequest (request : RegimeScenarioPackRequest F) :
    RegimeScenarioPackJobRequest F :=
  { request.toScenarioEvaluationRequest with accepted := job_validate_of_validate request.accepted }

/-- What either model validator checks. -/
theorem validateExposures_eq_ok {request : ScenarioEvaluationRequest F} :
    RegimeScenarioPackRequest.validateExposures request = .ok () ↔
    request.exposures ≠ [] ∧
    duplicateBuckets (normalizedBuckets request.exposures) = [] ∧
    validateFullAllocation (request.exposures.map (·.weight)) "exposures" = .ok () ∧
    (request.exposureComponents ≠ [] →
      unknownBuckets (componentTotals request.exposureComponents)
        (exposureByBucket request.exposures) = [] ∧
      mismatchedBuckets (componentTotals request.exposureComponents)
        (exposureByBucket request.exposures) = [] ∧
      validateFullAllocation (request.exposureComponents.map (·.weight))
        "exposure_components" = .ok ()) := by
  have hisEmpty {α : Type} (l : List α) : l.isEmpty = false ↔ l ≠ [] := List.isEmpty_eq_false_iff
  have hnotEmpty {α : Type} (l : List α) : (!l.isEmpty) = false ↔ l = [] := by
    rw [Bool.not_eq_false', List.isEmpty_iff]
  rw [RegimeScenarioPackRequest.validateExposures, raiseIf_bind_eq_ok, hisEmpty,
    raiseIf_bind_eq_ok, hnotEmpty, bind_eq_ok, Unique.exists_iff]
  by_cases hc : request.exposureComponents = []
  · rw [if_neg (by simpa using hc)]
    simp [hc, pure, Except.pure]
  · rw [if_pos (by simpa using hc), raiseIf_bind_eq_ok, hnotEmpty, raiseIf_bind_eq_ok, hnotEmpty,
      forall_prop_of_true hc]

theorem validateExposures_ok {request : ScenarioEvaluationRequest F}
    (h : RegimeScenarioPackRequest.validateExposures request = .ok ()) :
    request.exposures ≠ [] ∧
    duplicateBuckets (normalizedBuckets request.exposures) = [] ∧
    validateFullAllocation (request.exposures.map (·.weight)) "exposures" = .ok () ∧
    (request.exposureComponents ≠ [] →
      unknownBuckets (componentTotals request.exposureComponents)
        (exposureByBucket request.exposures) = [] ∧
      mismatchedBuckets (componentTotals request.exposureComponents)
        (exposureByBucket request.exposures) = [] ∧
      validateFullAllocation (request.exposureComponents.map (·.weight))
        "exposure_components" = .ok ()) :=
  validateExposures_eq_ok.1 h

end Acceptance

section Buckets

omit [PyFloat F] in
theorem items_exposureByBucket {exposures : List (ScenarioExposure F)}
    (h : (normalizedBuckets exposures).Nodup) :
    (exposureByBucket exposures).items =
      exposures.map (fun exposure => (PyText.upper exposure.bucket, exposure.weight)) := by
  apply Dict.items_ofList
  rw [List.map_map]
  exact h

theorem mem_keys_componentTotals {components : List (ScenarioExposureComponent F)} :
    b ∈ (componentTotals components).keys ↔ ∃ c ∈ components, PyText.upper c.bucket = b := by
  unfold componentTotals
  induction components using List.reverseRecOn with
  | nil => simp [Dict.keys, Table.empty]
  | append_singleton components c ih =>
    rw [List.foldl_append, List.foldl_cons, List.foldl_nil, Dict.mem_keys_set, ih]
    constructor
    · rintro (he | ⟨c', hc, he⟩)
      · exact ⟨c, List.mem_append_right _ (List.mem_singleton.2 rfl), he⟩
      · exact ⟨c', List.mem_append_left _ hc, he⟩
    · rintro ⟨c', hc, he⟩
      rcases List.mem_append.1 hc with hc | hc
      · exact .inr ⟨c', hc, he⟩
      · rw [List.mem_singleton.1 hc] at he
        exact .inl he

/-- The weights that the components give to a bucket. -/
def bucketWeights (components : List (ScenarioExposureComponent F)) (bucket : String) : List F :=
  (components.filter (fun c => PyText.upper c.bucket = bucket)).map (·.weight)

/-- The total of a bucket adds the weights of its components in their order. -/
theorem getD_componentTotals (components : List (ScenarioExposureComponent F)) (b : String) :
    (componentTotals components).getD b PyFloat.zero =
      (bucketWeights components b).foldl PyFloat.add PyFloat.zero := by
  rw [componentTotals, bucketWeights]
  induction components using List.reverseRecOn with
  | nil => rfl
  | append_singleton components c ih =>
    rw [List.foldl_append, List.foldl_cons, List.foldl_nil, List.filter_append, List.map_append,
      List.foldl_append, ← ih, Dict.getD, Dict.get?_set]
    by_cases hb : PyText.upper c.bucket = b
    · rw [if_pos hb, Option.getD_some, hb, List.filter_cons, if_pos (decide_eq_true hb)]
      rfl
    · rw [if_neg hb, List.filter_cons, if_neg (by simpa using hb)]
      rfl

end Buckets

end LotusRisk
