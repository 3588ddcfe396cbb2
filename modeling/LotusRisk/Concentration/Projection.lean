import LotusRisk.Concentration.Metrics
import LotusRisk.Lib.Latest
import LotusRisk.PythonFloats

/-! What a projection cannot change: the current state of the portfolio, and nothing at all when it
is left out. -/

namespace LotusRisk
set_option autoImplicit true

open Relational
open Latest

section Enrichment

variable {F : Type}

def aboutSecurity (securityId : String) : PyValue ℚ → Bool
  | .dict entries => decide (asStr (getEntry entries "security_id") = some securityId)
  | _ => false

/-- What a response says of a security, unless it lists no records. -/
def answerTo (securityId : String) (payload : Option (List (String × PyValue ℚ))) :
    Option (List (PyValue ℚ)) :=
  (enrichmentRecords payload).map fun records => records.filter (aboutSecurity securityId)

/-- The answer to a security does not depend on the others requested. -/
def AnswersIndependently (getInstrumentEnrichment : EnrichmentClient) : Prop :=
  ∀ securityId ids ids', ids.Nodup → ids'.Nodup → securityId ∈ ids → securityId ∈ ids' →
    answerTo securityId (getInstrumentEnrichment ids) =
      answerTo securityId (getInstrumentEnrichment ids')

theorem about_of_coreRecordIssuer (h : coreRecordIssuer groupingLevel record = some m) :
    aboutSecurity securityId record = true ↔ m.1 = securityId := by
  cases record with
  | dict entries =>
    rw [coreRecordIssuer] at h
    cases hid : asStr (getEntry entries "security_id") with
    | none =>
      rw [hid] at h
      cases h
    | some text =>
      rw [hid] at h
      by_cases hempty : text = ""
      · simp only [if_pos hempty] at h
        cases h
      · simp only [if_neg hempty] at h
        obtain ⟨issuer, -, rfl⟩ := Option.map_eq_some_iff.1 h
        rw [aboutSecurity, hid, decide_eq_true_iff, Option.some_inj]
  | _ => cases h

theorem filter_coreRecords (groupingLevel : IssuerGroupingLevel) (securityId : String)
    (records : List (PyValue ℚ)) :
    (records.filterMap (coreRecordIssuer groupingLevel)).filter
        (fun m => decide (m.1 = securityId)) =
      ((records.filter (aboutSecurity securityId)).filterMap
        (coreRecordIssuer groupingLevel)).filter (fun m => decide (m.1 = securityId)) := by
  induction records with
  | nil => rfl
  | cons record records ih =>
    cases hrecord : coreRecordIssuer groupingLevel record with
    | none =>
      rw [List.filterMap_cons_none hrecord, ih, List.filter_cons]
      split
      · rw [List.filterMap_cons_none hrecord]
      · rfl
    | some m =>
      have habout : aboutSecurity securityId record = true ↔ m.1 = securityId :=
        about_of_coreRecordIssuer hrecord
      rw [List.filterMap_cons_some hrecord]
      by_cases hm : m.1 = securityId
      · rw [List.filter_cons_of_pos (habout.2 hm), List.filterMap_cons_some hrecord,
          List.filter_cons, List.filter_cons, ih]
      · rw [List.filter_cons_of_neg (fun h => hm (habout.1 h)),
          List.filter_cons_of_neg (by simpa using hm), ih]

/-- The issuer of a security is read from the records about it. -/
theorem get?_issuerMapFromCoreRecords (groupingLevel : IssuerGroupingLevel) (securityId : String)
    (records : List (PyValue ℚ)) :
    (issuerMapFromCoreRecords records groupingLevel).get? securityId =
      (issuerMapFromCoreRecords (records.filter (aboutSecurity securityId))
        groupingLevel).get? securityId :=
  Dict.get?_ofList_congr (filter_coreRecords groupingLevel securityId records)

/-- The issuer that an answer gives. -/
def issuerOfAnswer (groupingLevel : IssuerGroupingLevel) (securityId : String)
    (answer : Option (List (PyValue ℚ))) : Option IssuerIdentity :=
  answer.bind fun records => (issuerMapFromCoreRecords records groupingLevel).get? securityId

theorem get?_statelessCoreIssuerMap {request : ConcentrationRequest}
    {rows : List (PositionEntry F)} (hpolicy : request.enrichmentPolicy ≠ .useCallerOnly)
    (getInstrumentEnrichment : EnrichmentClient) (h : securityId ∈ statelessSecurityIds rows) :
    (statelessCoreIssuerMap request rows (some getInstrumentEnrichment)).1.get? securityId =
      issuerOfAnswer request.issuerGroupingLevel securityId
        (answerTo securityId (getInstrumentEnrichment (statelessSecurityIds rows))) := by
  have hids : (statelessSecurityIds rows).isEmpty = false :=
    List.isEmpty_eq_false_iff.2 (List.ne_nil_of_mem h)
  have hread : (statelessCoreIssuerMap request rows (some getInstrumentEnrichment)).1 =
      (enrichmentRecords (getInstrumentEnrichment (statelessSecurityIds rows))).elim Table.empty
        fun records => issuerMapFromCoreRecords records request.issuerGroupingLevel := by
    rw [statelessCoreIssuerMap.eq_def]
    cases hp : request.enrichmentPolicy with
    | useCallerOnly => exact absurd hp hpolicy
    | _ =>
      simp only [hids, Bool.false_eq_true, if_false]
      cases hpayload : getInstrumentEnrichment (statelessSecurityIds rows) with
      | none => rfl
      | some payload =>
        cases hrecords : enrichmentRecords (some payload) with
        | none => simp only [hrecords, Option.elim_none]
        | some records => simp only [hrecords, Option.elim_some]
  rw [hread, answerTo]
  cases enrichmentRecords (getInstrumentEnrichment (statelessSecurityIds rows)) with
  | none => rfl
  | some records => exact get?_issuerMapFromCoreRecords request.issuerGroupingLevel securityId records

end Enrichment

section Weighting

variable {F : Type} [ExposureFloat F]

theorem toWeightedValues_congr {rows : List (PositionEntry F)}
    {issuers issuers' : Dict String IssuerIdentity}
    (h : ∀ row ∈ rows, issuerOfRow issuers row = issuerOfRow issuers' row) :
    toWeightedValues rows issuers = toWeightedValues rows issuers' := by
  apply List.foldl_ext
  intro tally row hrow
  rw [weighRow, weighRow, h row hrow]

theorem get?_mergeIssuerMaps_congr (callerMap : Dict String IssuerIdentity)
    {coreMap coreMap' : Dict String IssuerIdentity} {policy : EnrichmentPolicy}
    (h : policy ≠ .useCallerOnly → coreMap.get? securityId = coreMap'.get? securityId) :
    (mergeIssuerMaps callerMap coreMap policy).get? securityId =
      (mergeIssuerMaps callerMap coreMap' policy).get? securityId := by
  cases policy with
  | useCallerOnly => rfl
  | coreOnly => exact h nofun
  | mergeCallerThenCore => exact Dict.get?_update_congr callerMap (h nofun)

end Weighting

section Requests

variable {F : Type} [ExposureFloat F]

/-- The requests differ in their projections only. -/
structure SameButProjection (request request' : ConcentrationRequest) : Prop where
  currentPositions :
    request.statelessInput.currentPositions = request'.statelessInput.currentPositions
  topN : request.statelessInput.topN = request'.statelessInput.topN
  issuerGroupingLevel : request.issuerGroupingLevel = request'.issuerGroupingLevel
  enrichmentPolicy : request.enrichmentPolicy = request'.enrichmentPolicy

theorem stateExposureBasis_none (h : stateExposureBasis rows stateName = .ok none) :
    rows = [] := by
  rw [stateExposureBasis] at h
  split_ifs at h with hempty
  · exact List.isEmpty_iff.1 hempty
  · cases h
  · cases h

/-- Positions of the current state fix the exposure basis. -/
theorem exposureBasis_current (payload : StatelessConcentrationInput)
    (h : payload.currentPositions ≠ []) :
    stateExposureBasis (payload.currentPositions.map fun position =>
      (position.marketValueBase, position.quantity)) "current" = .ok payload.exposureBasis := by
  have heq := payload.exposureBasis_eq
  rw [statelessExposureBasis, bind_eq_ok] at heq
  obtain ⟨currentBasis, hcurrent, heq⟩ := heq
  rw [bind_eq_ok] at heq
  obtain ⟨projectedBasis, -, heq⟩ := heq
  cases currentBasis with
  | none => exact absurd (List.map_eq_nil_iff.1 (stateExposureBasis_none hcurrent)) h
  | some basis =>
    split_ifs at heq
    rw [hcurrent, ← Except.ok.inj heq]
    rfl

theorem currentRows_eq (h : SameButProjection request request') :
    (extractValuesFromStatelessPayload request.statelessInput : List (PositionEntry F) × _).1 =
      (extractValuesFromStatelessPayload request'.statelessInput).1 := by
  rw [extractValuesFromStatelessPayload, extractValuesFromStatelessPayload]
  by_cases hempty : request.statelessInput.currentPositions = []
  · simp only [← h.currentPositions, hempty, List.filterMap_nil]
  · have hbasis := exposureBasis_current request.statelessInput hempty
    rw [h.currentPositions] at hempty hbasis
    rw [exposureBasis_current request'.statelessInput hempty] at hbasis
    simp only [h.currentPositions, Except.ok.inj hbasis]

omit [ExposureFloat F] in
theorem mem_statelessSecurityIds {rows : List (PositionEntry F)} (hrow : row ∈ rows)
    (hid : row.securityId = some securityId) : securityId ∈ statelessSecurityIds rows := by
  rw [statelessSecurityIds, (List.perm_insertionSort _ _).mem_iff, List.mem_dedup,
    List.mem_filterMap]
  exact ⟨row, hrow, hid⟩

omit [ExposureFloat F] in
theorem nodup_statelessSecurityIds (rows : List (PositionEntry F)) :
    (statelessSecurityIds rows).Nodup :=
  (List.perm_insertionSort _ _).nodup_iff.2 (List.nodup_dedup _)

omit [ExposureFloat F] in
/-- The rows that both requests list find the same issuers. -/
theorem currentMap_eq {coreClient : Option EnrichmentClient}
    (hclient : ∀ client ∈ coreClient, AnswersIndependently client)
    (h : SameButProjection request request') {rows rows' : List (PositionEntry F)}
    (hmem : securityId ∈ statelessSecurityIds rows)
    (hmem' : securityId ∈ statelessSecurityIds rows') :
    (statelessIssuerMaps request rows coreClient).current.get? securityId =
      (statelessIssuerMaps request' rows' coreClient).current.get? securityId := by
  have hcaller : (statelessCallerIssuerMaps request).1 = (statelessCallerIssuerMaps request').1 := by
    simp only [statelessCallerIssuerMaps, h.currentPositions, h.issuerGroupingLevel]
  rw [statelessIssuerMaps, statelessIssuerMaps, hcaller, h.enrichmentPolicy]
  apply get?_mergeIssuerMaps_congr
  intro hpolicy
  cases coreClient with
  | none =>
    rw [statelessCoreIssuerMap.eq_def, statelessCoreIssuerMap.eq_def, h.enrichmentPolicy]
    cases hp : request'.enrichmentPolicy with
    | useCallerOnly => rfl
    | mergeCallerThenCore => rfl
    | coreOnly => rfl
  | some client =>
    have hpolicy' := hpolicy
    rw [← h.enrichmentPolicy] at hpolicy'
    rw [get?_statelessCoreIssuerMap hpolicy' client hmem,
      get?_statelessCoreIssuerMap hpolicy client hmem', h.issuerGroupingLevel,
      hclient client rfl securityId _ _ (nodup_statelessSecurityIds _)
        (nodup_statelessSecurityIds _) hmem hmem']

theorem currentTally_eq {coreClient : Option EnrichmentClient}
    (hclient : ∀ client ∈ coreClient, AnswersIndependently client)
    (h : SameButProjection request request') (current proposed proposed' : List (PositionEntry F)) :
    toWeightedValues current
        (statelessIssuerMaps request (current ++ proposed) coreClient).current =
      toWeightedValues current
        (statelessIssuerMaps request' (current ++ proposed') coreClient).current := by
  apply toWeightedValues_congr
  intro row hrow
  rw [issuerOfRow, issuerOfRow]
  cases hid : row.securityId with
  | none => rfl
  | some securityId =>
    rw [Option.bind_some, Option.bind_some, currentMap_eq hclient h
      (mem_statelessSecurityIds (List.mem_append_left proposed hrow) hid)
      (mem_statelessSecurityIds (List.mem_append_left proposed' hrow) hid)]

end Requests

section Doubles

/-- The double that a decimal or an integer is read as. -/
def doubleOfRat (q : ℚ) : Float :=
  let places := Nat.log 2 q.den
  let magnitude := nearestDouble (q.num.natAbs * (10 ^ places / q.den)) (-places)
  if q < 0 then -magnitude else magnitude

example : [0.85, 3, -2 ^ 1024, 10 ^ 400].map doubleOfRat = [0.85, 3, -1 / 0, 1 / 0] := by
  decide +kernel

theorem roundDouble_sub_self (x : Float) (h : x.isFinite = true) : roundDouble (x - x) = 0 := by
  rw [Doubles.sub_self h]
  rfl

theorem isFinite_of_roundDouble (x : Float) (h : (roundDouble x).isFinite = true) :
    x.isFinite = true := by
  unfold roundDouble at h
  split at h
  · rename_i hx
    rw [Doubles.isFinite_eq, hx]
    rfl
  · exact h

instance : ExposureFloat Float where
  ofRat := doubleOfRat
  div := (· / ·)
  isFinite := Float.isFinite
  sortedDescending values := values.insertionSort (fun a b => a.lt b = false)
  sum_nil := rfl
  eq_zero_zero := rfl
  round6_zero := rfl
  round6_sub_self := roundDouble_sub_self
  isFinite_of_round6 := isFinite_of_roundDouble

end Doubles

section States

variable {F : Type} [ExposureFloat F]

/-- What a response says of one state of the portfolio. -/
structure ConcentrationState (F : Type) where
  hhi : F
  topPositionWeight : F
  topNCumulativeWeight : F
  topPosition : TopPositionDriver F
  issuerHhi : F
  topIssuerWeight : F
  topIssuer : TopIssuerDriver F
  coveredPositionCount : Nat
  totalPositionCount : Nat
  uncoveredPositionCount : Nat
  coverageRatio : F
deriving DecidableEq

def ConcentrationResponse.current (response : ConcentrationResponse F) : ConcentrationState F where
  hhi := response.riskProxy.hhiCurrent
  topPositionWeight := response.singlePositionConcentration.topPositionWeightCurrent
  topNCumulativeWeight := response.singlePositionConcentration.topNCumulativeWeightCurrent
  topPosition := response.singlePositionConcentration.topPositionCurrent
  issuerHhi := response.issuerConcentration.hhiCurrent
  topIssuerWeight := response.issuerConcentration.topIssuerWeightCurrent
  topIssuer := response.issuerConcentration.topIssuerCurrent
  coveredPositionCount := response.issuerConcentration.coveredPositionCountCurrent
  totalPositionCount := response.issuerConcentration.totalPositionCountCurrent
  uncoveredPositionCount := response.issuerConcentration.uncoveredPositionCountCurrent
  coverageRatio := response.issuerConcentration.coverageRatioCurrent

def ConcentrationResponse.proposed (response : ConcentrationResponse F) : ConcentrationState F where
  hhi := response.riskProxy.hhiProposed
  topPositionWeight := response.singlePositionConcentration.topPositionWeightProposed
  topNCumulativeWeight := response.singlePositionConcentration.topNCumulativeWeightProposed
  topPosition := response.singlePositionConcentration.topPositionProposed
  issuerHhi := response.issuerConcentration.hhiProposed
  topIssuerWeight := response.issuerConcentration.topIssuerWeightProposed
  topIssuer := response.issuerConcentration.topIssuerProposed
  coveredPositionCount := response.issuerConcentration.coveredPositionCountProposed
  totalPositionCount := response.issuerConcentration.totalPositionCountProposed
  uncoveredPositionCount := response.issuerConcentration.uncoveredPositionCountProposed
  coverageRatio := response.issuerConcentration.coverageRatioProposed

/-- The metrics of the current state, each with its change. -/
def ConcentrationResponse.changes (response : ConcentrationResponse F) : List (F × F) :=
  [(response.riskProxy.hhiCurrent, response.riskProxy.hhiDelta),
    (response.singlePositionConcentration.topPositionWeightCurrent,
      response.singlePositionConcentration.topPositionWeightDelta),
    (response.singlePositionConcentration.topNCumulativeWeightCurrent,
      response.singlePositionConcentration.topNCumulativeWeightDelta),
    (response.issuerConcentration.hhiCurrent, response.issuerConcentration.hhiDelta),
    (response.issuerConcentration.topIssuerWeightCurrent,
      response.issuerConcentration.topIssuerWeightDelta)]

/-- A metric that is finite does not change. -/
def ConcentrationResponse.Unchanged (response : ConcentrationResponse F) : Prop :=
  ∀ change ∈ response.changes, ExposureFloat.isFinite change.1 = true → change.2 = PyFloat.zero

/-- The current state is measured on the current positions and issuers alone. -/
theorem current_congr {payload payload' : ConcentrationComputationInput F}
    (hpositions : payload.currentPositions = payload'.currentPositions)
    (htopN : payload.topN = payload'.topN)
    (hissuers : payload.currentIssuers = payload'.currentIssuers)
    (hcovered : payload.coveredPositionCountCurrent = payload'.coveredPositionCountCurrent)
    (htotal : payload.totalPositionCountCurrent = payload'.totalPositionCountCurrent) :
    (buildConcentrationResponse payload).current = (buildConcentrationResponse payload').current := by
  simp only [ConcentrationResponse.current, buildConcentrationResponse, concentrationRiskProxy,
    singlePositionConcentration, issuerConcentration, positionMetrics, issuerMetrics, hpositions,
    htopN, hissuers, hcovered, htotal]

/-- A payload whose two states are one has nothing to report as a change. -/
theorem proposed_of_same {payload : ConcentrationComputationInput F}
    (hpositions : payload.proposedPositions = payload.currentPositions)
    (hissuers : payload.proposedIssuers = payload.currentIssuers)
    (hcovered : payload.coveredPositionCountProposed = payload.coveredPositionCountCurrent)
    (htotal : payload.totalPositionCountProposed = payload.totalPositionCountCurrent) :
    (buildConcentrationResponse payload).proposed = (buildConcentrationResponse payload).current ∧
      (buildConcentrationResponse payload).Unchanged := by
  have hzero : ∀ x : F, ExposureFloat.isFinite (PyFloat.round6 x) = true →
      PyFloat.round6 (PyFloat.sub x x) = PyFloat.zero :=
    fun x hx => ExposureFloat.round6_sub_self x (ExposureFloat.isFinite_of_round6 x hx)
  simp only [ConcentrationResponse.current, ConcentrationResponse.proposed,
    ConcentrationResponse.Unchanged, ConcentrationResponse.changes, buildConcentrationResponse,
    concentrationRiskProxy, singlePositionConcentration, issuerConcentration, positionMetrics,
    issuerMetrics, hpositions, hissuers, hcovered, htotal, ite_self, true_and]
  simp only [List.forall_mem_cons, List.not_mem_nil, false_implies, implies_true, and_true]
  exact ⟨hzero _, hzero _, hzero _, hzero _, hzero _⟩

/-- A projection leaves the current state as it is, and an omitted one is the current state, to
which no finite metric changes. -/
theorem current_state_independent (F : Type) [ExposureFloat F]
    (coreClient : Option EnrichmentClient) :
    ((∀ client ∈ coreClient, AnswersIndependently client) →
      ∀ request request', SameButProjection request request' →
        (calculateConcentration request coreClient : ConcentrationResponse F).current =
          (calculateConcentration request' coreClient).current) ∧
    ∀ request : ConcentrationRequest, request.statelessInput.projectedPositions = none →
      (calculateConcentration request coreClient : ConcentrationResponse F).proposed =
          (calculateConcentration request coreClient).current ∧
        (calculateConcentration request coreClient : ConcentrationResponse F).Unchanged := by
  constructor
  · intro hclient request request' h
    have hrows := currentRows_eq (F := F) h
    have htally := currentTally_eq hclient h
      (extractValuesFromStatelessPayload (F := F) request.statelessInput).1
      (extractValuesFromStatelessPayload request.statelessInput).2
      (extractValuesFromStatelessPayload request'.statelessInput).2
    apply current_congr
    · exact hrows
    · exact h.topN
    all_goals
      simp only [resolveStateless]
      rw [htally, hrows]
  · intro request homitted
    apply proposed_of_same
    all_goals
      simp only [resolveStateless, homitted, Option.isSome_none, Bool.false_eq_true, if_false]

/-- Every security has an issuer of its own. -/
def ownIssuers : EnrichmentClient := fun ids =>
  some [("records", .list (ids.map fun id =>
    .dict [("security_id", .str id), ("issuer_id", .str id)]))]

theorem ownIssuers_independent : AnswersIndependently ownIssuers := by
  have hanswer : ∀ securityId ids, ids.Nodup → securityId ∈ ids →
      answerTo securityId (ownIssuers ids) =
        some [.dict [("security_id", .str securityId), ("issuer_id", .str securityId)]] := by
    intro securityId ids hnodup hmem
    have habout : ∀ id, aboutSecurity securityId (.dict [("security_id", .str id),
        ("issuer_id", .str id)]) = decide (id = securityId) := by
      intro id
      rw [aboutSecurity]
      exact decide_eq_decide.2 Option.some_inj
    have hfilter : ids.filter (fun id => decide (id = securityId)) = [securityId] :=
      filter_eq_singleton_of_nodup id (by rw [List.map_id]; exact hnodup) hmem
    have hrecords : enrichmentRecords (ownIssuers ids) = some (ids.map fun id =>
        .dict [("security_id", .str id), ("issuer_id", .str id)]) := rfl
    rw [answerTo, hrecords, Option.map_some, List.filter_map]
    simp only [Function.comp_def, habout]
    rw [hfilter, List.map_singleton]
  intro securityId ids ids' hnodup hnodup' hmem hmem'
  rw [hanswer securityId ids hnodup hmem, hanswer securityId ids' hnodup' hmem']

def heldPair : List CurrentPosition :=
  [⟨"A", none, none, some (.finite 100), some "I1", none⟩,
    ⟨"B", none, none, some (.finite 100), none, none⟩]

/-- The projection moves a security to the issuer of the other. -/
def movedPair : List ProjectedPosition :=
  [⟨"A", none, none, some (.finite 100), some "I1", none⟩,
    ⟨"B", none, none, some (.finite 100), some "I1", none⟩]

theorem heldPair_basis :
    statelessExposureBasis heldPair [] = .ok (some .marketValueBase) := rfl

theorem movedPair_basis :
    statelessExposureBasis heldPair movedPair = .ok (some .marketValueBase) := rfl

theorem ten_bounds : 1 ≤ 10 ∧ 10 ≤ 100 := by decide

def unprojectedRequest : ConcentrationRequest :=
  ⟨⟨heldPair, none, 10, ten_bounds, some .marketValueBase, heldPair_basis⟩, .legalIssuer,
    .mergeCallerThenCore⟩

def projectedRequest : ConcentrationRequest :=
  ⟨⟨heldPair, some movedPair, 10, ten_bounds, some .marketValueBase, movedPair_basis⟩,
    .legalIssuer, .mergeCallerThenCore⟩

theorem current_state_independent_pair :
    (calculateConcentration projectedRequest (some ownIssuers) : ConcentrationResponse Float).current
      = (calculateConcentration unprojectedRequest (some ownIssuers)).current ∧
    (calculateConcentration unprojectedRequest (some ownIssuers) :
      ConcentrationResponse Float).proposed =
      (calculateConcentration unprojectedRequest (some ownIssuers)).current ∧
    ∀ change ∈ (calculateConcentration unprojectedRequest (some ownIssuers) :
      ConcentrationResponse Float).changes, change.2 = 0 := by
  have h := current_state_independent Float (some ownIssuers)
  have hclient : ∀ client ∈ some ownIssuers, AnswersIndependently client := by
    intro client hclient
    cases hclient
    exact ownIssuers_independent
  obtain ⟨hsame, hunchanged⟩ := h.2 unprojectedRequest rfl
  refine ⟨h.1 hclient _ _ ⟨rfl, rfl, rfl, rfl⟩, hsame, ?_⟩
  have hfinite : ∀ change ∈ (calculateConcentration unprojectedRequest (some ownIssuers) :
      ConcentrationResponse Float).changes, ExposureFloat.isFinite change.1 = true := by
    decide +kernel
  intro change hchange
  exact hunchanged change hchange (hfinite change hchange)

/-- Two positions in securities of one issuer, whose sum is not finite. -/
def hugePair : List CurrentPosition :=
  [⟨"A", none, none, some (.finite (2 ^ 1023)), some "I1", none⟩,
    ⟨"B", none, none, some (.finite (2 ^ 1023)), some "I1", none⟩]

theorem hugePair_basis :
    statelessExposureBasis hugePair [] = .ok (some .marketValueBase) := rfl

def hugeRequest : ConcentrationRequest :=
  ⟨⟨hugePair, none, 10, ten_bounds, some .marketValueBase, hugePair_basis⟩, .legalIssuer,
    .useCallerOnly⟩

/-- The projection is omitted, and a change is not zero. -/
theorem omitted_projection_changes : hugeRequest.statelessInput.projectedPositions = none ∧
    ∃ change ∈ (calculateConcentration hugeRequest none : ConcentrationResponse Float).changes,
      change.2 ≠ 0 := by
  refine ⟨rfl, ?_⟩
  decide +kernel

end States

end LotusRisk
