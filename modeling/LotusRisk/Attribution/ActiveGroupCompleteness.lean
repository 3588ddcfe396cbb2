import LotusRisk.Lib.Latest
import LotusRisk.Lib.Raising
import LotusRisk.Attribution.ActiveGroupEvidence
import LotusRisk.Risk.RiskFree

namespace LotusRisk
set_option autoImplicit true

open Relational Raising Latest

variable {K : Type}

section Rows

variable [Field K] [LinearOrder K] (context : DecimalContext K) (texts : PyTexts K)
  (casefold : String → String) (expectedGroupKeyBySourceId : Dict String String)

/-- A row of the response, as it is read. -/
structure SourceRow (K : Type) where
  sourceId : String
  groupKey : String
  observation : ActiveGroupObservation K

def sourceRow (raw : PyValue K) : Option (SourceRow K) :=
  match raw with
  | .dict item =>
    match dateOf texts (getEntry item "date") "group date", getEntry item "group_id",
      groupEconomics context texts item with
    | .ok day, .str sourceId, .ok economics =>
      (expectedGroupKeyBySourceId.get? sourceId).map (fun groupKey =>
        ⟨sourceId, groupKey, ⟨day, economics.active, economics.activeWeight⟩⟩)
    | _, _, _ => none
  | _ => none

def sourceRows (raws : List (PyValue K)) : List (SourceRow K) :=
  raws.filterMap (sourceRow context texts expectedGroupKeyBySourceId)

theorem groupKey_of_sourceRow {raws : List (PyValue K)}
    (h : row ∈ sourceRows context texts expectedGroupKeyBySourceId raws) :
    expectedGroupKeyBySourceId.get? row.sourceId = some row.groupKey := by
  obtain ⟨raw, _, hrow⟩ := List.mem_filterMap.1 h
  unfold sourceRow at hrow
  split at hrow
  · split at hrow
    · obtain ⟨groupKey, hkey, rfl⟩ := Option.map_eq_some_iff.1 hrow
      exact hkey
    · cases hrow
  · cases hrow

/-- The rows of one date. -/
def rowsOn (day : Date) (rows : List (SourceRow K)) : List (SourceRow K) :=
  rows.filter (fun row => decide (row.observation.observationDate = day))

def placed (byGroup : Dict String (Dict Date (ActiveGroupObservation K))) (groupKey : String)
    (day : Date) : Option (ActiveGroupObservation K) :=
  (byGroup.getD groupKey Table.empty).get? day

def SourceRow.active (row : SourceRow K) : K := row.observation.activeContribution

/-- What the loop over the rows has kept of them: the last row of a group on a date, the sum of
all of them as the context rounds it. -/
structure GroupRows.Tracks (context : DecimalContext K) (rows : List (SourceRow K))
    (state : GroupRows K) : Prop where
  placed : ∀ groupKey day, placed state.byGroup groupKey day =
    (latest (fun row => row.groupKey) (rowsOn day rows) groupKey).map (fun row => row.observation)
  sums : ∀ day, context.sum ((rowsOn day rows).map SourceRow.active) =
    some (state.activeSums.getD day 0)
  seen : state.seenRows = rows.map (fun row => (row.observation.observationDate, row.sourceId))
  single : state.seenRows.Nodup

omit [Field K] [LinearOrder K] in
theorem rowsOn_snoc (day : Date) (rows : List (SourceRow K)) (row : SourceRow K) :
    rowsOn day (rows ++ [row]) = if row.observation.observationDate = day then
      rowsOn day rows ++ [row] else rowsOn day rows := by
  simp only [rowsOn, List.filter_append]
  split
  · rename_i h
    rw [List.filter_cons_of_pos (by simpa using h), List.filter_nil]
  · rename_i h
    rw [List.filter_cons_of_neg (by simpa using h), List.filter_nil, List.append_nil]

omit [Field K] [LinearOrder K] in
theorem placed_place (byGroup : Dict String (Dict Date (ActiveGroupObservation K)))
    (observation : ActiveGroupObservation K) (groupKey' : String) (day : Date) :
    placed (place byGroup groupKey observation) groupKey' day =
      if groupKey = groupKey' ∧ observation.observationDate = day then some observation
      else placed byGroup groupKey' day := by
  simp only [placed, place, Dict.getD, Dict.get?_set]
  by_cases hg : groupKey = groupKey'
  · subst hg
    rw [if_pos rfl, Option.getD_some, Dict.get?_set]
    simp only [true_and]
  · rw [if_neg hg, if_neg (fun h => hg h.1)]

omit [Field K] [LinearOrder K] in
theorem rounded_eq_ok : rounded context x = .ok y ↔ context.round x = some y := by
  unfold rounded
  cases context.round x with
  | none => simp
  | some z => simp

omit [LinearOrder K] in
theorem addOn_spec {sums next : Dict Date K} (h : addOn context sums day x = .ok next) :
    context.round (sums.getD day 0 + x) = some (next.getD day 0) ∧
      ∀ other, day ≠ other → next.getD other 0 = sums.getD other 0 := by
  obtain ⟨sum, hsum, h⟩ := bind_eq_ok.1 h
  cases h
  constructor
  · rw [(rounded_eq_ok context).1 hsum, Dict.getD, Dict.get?_set, if_pos rfl, Option.getD_some]
  · intro other hother
    rw [Dict.getD, Dict.get?_set, if_neg hother, Dict.getD]

omit [Field K] [LinearOrder K] in
theorem mappingOf_eq_ok {value : PyValue K} (h : mappingOf value field = .ok item) :
    value = .dict item := by
  unfold mappingOf at h
  split at h
  · cases h
    rfl
  · cases h

omit [Field K] [LinearOrder K] in
theorem groupRowIdentity_spec
    (h : groupRowIdentity texts casefold item aggregates dimension expectedGroupKeyBySourceId =
      .ok row) :
    dateOf texts (getEntry item "date") "group date" = .ok row.day ∧
      getEntry item "group_id" = .str row.sourceId ∧
      expectedGroupKeyBySourceId.get? row.sourceId = some row.groupKey := by
  unfold groupRowIdentity at h
  obtain ⟨day, hday, h⟩ := bind_eq_ok.1 h
  simp only at h
  split at h
  · rename_i sourceId label hid _
    split at h
    · cases h
    · split at h
      · cases h
      · split at h
        · cases h
        · rename_i groupKey hkey
          cases h
          exact ⟨hday, hid, hkey⟩
  · cases h

/-- A step of the loop reads one row and adds it to what was kept. -/
theorem readGroupRow_spec
    (h : readGroupRow context texts casefold aggregates dimension expectedGroupKeyBySourceId state
      raw = .ok next) :
    ∃ row, sourceRow context texts expectedGroupKeyBySourceId raw = some row ∧
      (row.observation.observationDate, row.sourceId) ∉ state.seenRows ∧
      next.byGroup = place state.byGroup row.groupKey row.observation ∧
      addOn context state.activeSums row.observation.observationDate row.active =
        .ok next.activeSums ∧
      next.seenRows = state.seenRows ++ [(row.observation.observationDate, row.sourceId)] := by
  unfold readGroupRow at h
  obtain ⟨item, hitem, h⟩ := bind_eq_ok.1 h
  obtain ⟨identity, hidentity, h⟩ := bind_eq_ok.1 h
  obtain ⟨hday, hid, hkey⟩ :=
    groupRowIdentity_spec texts casefold expectedGroupKeyBySourceId hidentity
  split at h
  · cases h
  split at h
  · cases h
  rename_i hseen
  obtain ⟨economics, heconomics, h⟩ := bind_eq_ok.1 h
  obtain ⟨activeSums, hsums, h⟩ := bind_eq_ok.1 h
  obtain ⟨portfolioSums, _, h⟩ := bind_eq_ok.1 h
  obtain ⟨benchmarkSums, _, h⟩ := bind_eq_ok.1 h
  cases h
  refine ⟨⟨identity.sourceId, identity.groupKey,
    ⟨identity.day, economics.active, economics.activeWeight⟩⟩, ?_, hseen, rfl, hsums, rfl⟩
  rw [mappingOf_eq_ok hitem]
  simp only [sourceRow, hday, hid, heconomics, hkey, Option.map_some]

theorem tracks_of_step {rows : List (SourceRow K)} {state next : GroupRows K}
    (h : state.Tracks context rows)
    (hok : readGroupRow context texts casefold aggregates dimension expectedGroupKeyBySourceId state
      raw = .ok next) :
    ∃ row, sourceRow context texts expectedGroupKeyBySourceId raw = some row ∧
      next.Tracks context (rows ++ [row]) := by
  obtain ⟨row, hrow, hnew, hplace, hsums, hseen⟩ :=
    readGroupRow_spec context texts casefold expectedGroupKeyBySourceId hok
  refine ⟨row, hrow, ?_, ?_, ?_, ?_⟩
  · intro groupKey day
    rw [hplace, placed_place, h.placed, rowsOn_snoc]
    by_cases hday : row.observation.observationDate = day
    · rw [if_pos hday, latest_snoc]
      by_cases hkey : row.groupKey = groupKey
      · rw [if_pos ⟨hkey, hday⟩, if_pos hkey, Option.map_some]
      · rw [if_neg (fun hc => hkey hc.1), if_neg hkey]
    · rw [if_neg hday, if_neg (fun hc => hday hc.2)]
  · intro day
    obtain ⟨hadded, hothers⟩ := addOn_spec context hsums
    rw [rowsOn_snoc]
    by_cases hday : row.observation.observationDate = day
    · subst hday
      rw [if_pos rfl, List.map_append, List.map_singleton, DecimalContext.sum_concat, h.sums]
      exact hadded
    · rw [if_neg hday, h.sums, hothers day hday]
  · rw [hseen, h.seen, List.map_append, List.map_singleton]
  · rw [hseen, List.nodup_append]
    refine ⟨h.single, List.nodup_singleton _, ?_⟩
    intro a ha b hb he
    rw [List.mem_singleton.1 hb] at he
    exact hnew (he ▸ ha)

/-- After the loop every row has been read, and what was kept is what `Tracks` says of them. -/
theorem readGroupRows_spec
    (h : readGroupRows context texts casefold aggregates dimension expectedGroupKeyBySourceId raws =
      .ok state) :
    (∀ raw ∈ raws, (sourceRow context texts expectedGroupKeyBySourceId raw).isSome) ∧
      state.Tracks context (sourceRows context texts expectedGroupKeyBySourceId raws) := by
  apply foldlM_trace (fun raws state =>
    (∀ raw ∈ raws, (sourceRow context texts expectedGroupKeyBySourceId raw).isSome) ∧
      state.Tracks context (sourceRows context texts expectedGroupKeyBySourceId raws)) _ [] _ h
  · rintro raws state raw next ⟨hreads, htracks⟩ hok
    obtain ⟨row, hrow, hnext⟩ :=
      tracks_of_step context texts casefold expectedGroupKeyBySourceId htracks hok
    constructor
    · intro other hother
      rcases List.mem_append.1 hother with hother | hother
      · exact hreads other hother
      · rw [List.mem_singleton.1 hother, hrow]
        rfl
    · simp only [sourceRows] at hnext ⊢
      rw [List.filterMap_append, List.filterMap_cons_some hrow]
      exact hnext
  · refine ⟨nofun, ?_, ?_, rfl, .nil⟩
    · intro groupKey day
      rfl
    · intro day
      rfl

end Rows

section Observations

variable [Field K] [LinearOrder K]

/-- The groups with their observations of the date. -/
def ActiveGroupEvidence.observedOn (evidence : ActiveGroupEvidence K) (day : Date) :
    List (String × ActiveGroupObservation K) :=
  evidence.observationsByGroup.items.flatMap (fun group =>
    (group.2.filter (fun observation => decide (observation.observationDate = day))).map
      (fun observation => (group.1, observation)))

/-- The sum over the groups of the active contribution on the date. -/
def ActiveGroupEvidence.activeOn (evidence : ActiveGroupEvidence K) (day : Date) : K :=
  ((evidence.observedOn day).map (fun entry => entry.2.activeContribution)).sum

def observationsByGroup (requiredDates : List Date)
    (byGroup : Dict String (Dict Date (ActiveGroupObservation K))) :
    Dict String (List (ActiveGroupObservation K)) :=
  Dict.ofList ((byGroup.items.insertionSort (fun a b => a.1 ≤ b.1)).map (fun group =>
    (group.1, requiredObservations requiredDates group.2)))

omit [LinearOrder K] in
theorem requiredObservations_on {observations : Dict Date (ActiveGroupObservation K)}
    (hdates : requiredDates.Nodup) (hday : day ∈ requiredDates)
    (hkept : ∀ day observation, observations.get? day = some observation →
      observation.observationDate = day) :
    (requiredObservations requiredDates observations).filter
        (fun observation => decide (observation.observationDate = day)) =
      [observations.getD day ⟨day, 0, 0⟩] := by
  have hdate : ∀ day, (observations.getD day ⟨day, 0, 0⟩).observationDate = day := by
    intro day
    cases hget : observations.get? day with
    | none => simp only [Dict.getD, hget, Option.getD_none]
    | some observation =>
      simp only [Dict.getD, hget, Option.getD_some]
      exact hkept day observation hget
  have hmap : (requiredObservations requiredDates observations).map
      (fun observation => observation.observationDate) = requiredDates := by
    rw [requiredObservations, List.map_map]
    conv_rhs => rw [← List.map_id requiredDates]
    apply List.map_congr_left
    intro day _
    exact hdate day
  have hmem : observations.getD day ⟨day, 0, 0⟩ ∈
      requiredObservations requiredDates observations :=
    List.mem_map_of_mem (f := fun day => observations.getD day ⟨day, 0, 0⟩) hday
  have hnodup : ((requiredObservations requiredDates observations).map
      (fun observation => observation.observationDate)).Nodup := by
    rw [hmap]
    exact hdates
  have hsingle := filter_eq_singleton_of_nodup (fun observation => observation.observationDate)
    hnodup hmem
  rw [hdate day] at hsingle
  exact hsingle

omit [LinearOrder K] in
/-- On a required date every group has the observation that was kept for it, or a zero. -/
theorem observedOn_eq {byGroup : Dict String (Dict Date (ActiveGroupObservation K))}
    {evidence : ActiveGroupEvidence K} {requiredDates : List Date}
    (h : evidence.observationsByGroup = observationsByGroup requiredDates byGroup)
    (hdates : requiredDates.Nodup) (hday : day ∈ requiredDates)
    (hkept : ∀ groupKey day observation, placed byGroup groupKey day = some observation →
      observation.observationDate = day) :
    evidence.observedOn day = (byGroup.items.insertionSort (fun a b => a.1 ≤ b.1)).map
      (fun group => (group.1, (placed byGroup group.1 day).getD ⟨day, 0, 0⟩)) := by
  have hperm := List.perm_insertionSort
    (fun a b : String × Dict Date (ActiveGroupObservation K) => a.1 ≤ b.1) byGroup.items
  have hitems : evidence.observationsByGroup.items =
      (byGroup.items.insertionSort (fun a b => a.1 ≤ b.1)).map (fun group =>
        (group.1, requiredObservations requiredDates group.2)) := by
    rw [h, observationsByGroup, Dict.items_ofList]
    rw [List.map_map]
    exact (hperm.map Prod.fst).nodup_iff.2 byGroup.unique
  have hgroup : ∀ group ∈ byGroup.items.insertionSort (fun a b => a.1 ≤ b.1),
      byGroup.getD group.1 Table.empty = group.2 :=
    fun group hmem => Dict.getD_of_mem (hperm.mem_iff.1 hmem) _
  unfold ActiveGroupEvidence.observedOn
  rw [hitems, List.flatMap_map, List.map_eq_flatMap]
  apply List.flatMap_congr
  intro group hmem
  have hone : ∀ day observation, group.2.get? day = some observation →
      observation.observationDate = day := by
    intro day observation hget
    apply hkept group.1
    rw [placed, hgroup group hmem]
    exact hget
  simp only
  rw [requiredObservations_on hdates hday hone, List.map_singleton, placed, hgroup group hmem]
  rfl

end Observations

section Reconciliation

variable [Field K] [LinearOrder K] {context : DecimalContext K} {texts : PyTexts K}

theorem differ_of_anyDiffer {pairs : List (K × K)} (h : anyDiffer context pairs = .ok false) :
    ∀ pair ∈ pairs, differ context pair.1 pair.2 = .ok false := by
  induction pairs with
  | nil => nofun
  | cons pair pairs ih =>
    obtain ⟨differs, hdiffer, h⟩ := bind_eq_ok.1 h
    cases differs with
    | true => cases h
    | false =>
      intro other hother
      rcases List.mem_cons.1 hother with rfl | hother
      · exact hdiffer
      · exact ih h other hother

section Exact

variable [IsStrictOrderedRing K] {unit bound : K} (hexact : context.ExactBelow unit bound)

/-- A multiple of a unit, of a size. -/
def Sized (unit size x : K) : Prop := x ∈ AddSubgroup.zmultiples unit ∧ |x| ≤ size

theorem Sized.sub (hx : Sized unit a x) (hy : Sized unit b y) : Sized unit (a + b) (x - y) :=
  ⟨sub_mem hx.1 hy.1, (abs_sub x y).trans (add_le_add hx.2 hy.2)⟩

theorem Sized.sum {xs : List K} (hxs : ∀ x ∈ xs, x ∈ AddSubgroup.zmultiples unit)
    (hsize : (xs.map abs).sum ≤ size) : Sized unit size xs.sum :=
  ⟨list_sum_mem hxs, (Multiset.abs_sum_le_sum_abs (s := (xs : Multiset K))).trans hsize⟩

include hexact in
/-- Where the context does not round, the comparison is what it says. -/
theorem abs_le_of_differ (hx : Sized unit a x) (hy : Sized unit b y) (hbound : a + b < bound)
    (h : differ context x y = .ok false) : |x - y| ≤ evidenceTolerance := by
  obtain ⟨hmem, hsize⟩ := hx.sub hy
  have hlt : |x - y| < bound := hsize.trans_lt hbound
  obtain ⟨difference, hdifference, h⟩ := bind_eq_ok.1 h
  obtain ⟨distance, hdistance, h⟩ := bind_eq_ok.1 h
  rw [rounded_eq_ok, hexact _ hmem hlt] at hdifference
  cases hdifference
  have habs : |x - y| ∈ AddSubgroup.zmultiples unit := by
    rcases abs_choice (x - y) with habs | habs
    · rw [habs]
      exact hmem
    · rw [habs]
      exact neg_mem hmem
  rw [rounded_eq_ok, hexact _ habs (by rwa [abs_abs])] at hdistance
  cases hdistance
  exact not_lt.1 (of_decide_eq_false (Except.ok.inj h))

end Exact

/-- A number that is read from a mapping. -/
def Figure (texts : PyTexts K) (item : List (String × PyValue K)) (number : K) : Prop :=
  ∃ key field, decimalOf texts (getEntry item key) field = .ok number

/-- What the comparisons of the daily reconciliation have said of an aggregate that passes. -/
theorem dailyReconciliation_spec (aggregate : Date × List (String × PyValue K))
    (h : dailyReconciliation context texts activeSums portfolioByDate benchmarkByDate aggregate =
      .ok u) (hday : portfolioByDate.get? aggregate.1 = some portfolio) :
    ∃ pReturn bReturn active difference, Figure texts aggregate.2 pReturn ∧
      Figure texts aggregate.2 bReturn ∧ Figure texts aggregate.2 active ∧
      context.round (pReturn - bReturn) = some difference ∧
      differ context active difference = .ok false ∧
      differ context (activeSums.getD aggregate.1 0) active = .ok false ∧
      differ context pReturn portfolio = .ok false ∧
      differ context bReturn (benchmarkByDate.getD aggregate.1 0) = .ok false := by
  unfold dailyReconciliation at h
  obtain ⟨pReturn, hp, h⟩ := bind_eq_ok.1 h
  obtain ⟨bReturn, hb, h⟩ := bind_eq_ok.1 h
  obtain ⟨active, ha, h⟩ := bind_eq_ok.1 h
  obtain ⟨difference, hdifference, h⟩ := bind_eq_ok.1 h
  obtain ⟨apart, hactive, h⟩ := bind_eq_ok.1 h
  cases apart with
  | true => cases h
  | false =>
    obtain ⟨_, _, h⟩ := bind_eq_ok.1 h
    obtain ⟨_, _, h⟩ := bind_eq_ok.1 h
    simp only [matchesAdmitted, hday] at h
    obtain ⟨apart, hadmitted, h⟩ := bind_eq_ok.1 h
    cases apart with
    | true => cases h
    | false =>
      obtain ⟨h₁, hlater⟩ := List.forall_mem_cons.1 (differ_of_anyDiffer hactive)
      obtain ⟨h₃, hlater'⟩ := List.forall_mem_cons.1 (differ_of_anyDiffer hadmitted)
      exact ⟨pReturn, bReturn, active, difference, ⟨_, _, hp⟩, ⟨_, _, hb⟩, ⟨_, _, ha⟩,
        (rounded_eq_ok context).1 hdifference, h₁, hlater _ List.mem_cons_self, h₃,
        hlater' _ List.mem_cons_self⟩

theorem active_sum_close [IsStrictOrderedRing K]
    {sum active pReturn bReturn portfolio benchmark t : K}
    (h₁ : |active - (pReturn - bReturn)| ≤ t) (h₂ : |sum - active| ≤ t)
    (h₃ : |pReturn - portfolio| ≤ t) (h₄ : |bReturn - benchmark| ≤ t) :
    |sum - (portfolio - benchmark)| ≤ (4 : Nat) * t := by
  rw [abs_le] at h₁ h₂ h₃ h₄ ⊢
  push_cast
  constructor
  · linarith [h₁.1, h₂.1, h₃.1, h₄.2]
  · linarith [h₁.2, h₂.2, h₃.2, h₄.1]

end Reconciliation

section Admission

variable [Field K] [LinearOrder K] (context : DecimalContext K) (texts : PyTexts K)
  (casefold : String → String)

/-- The rows that the response lists in a field. -/
def listed (response : List (String × PyValue K)) (field : String) : List (PyValue K) :=
  match getEntry response field with
  | .list raws => raws
  | _ => []

omit [LinearOrder K] in
/-- The admitted returns as ratios, exactly. -/
def admittedRatios (points : List (ReturnPoint K)) : Dict Date K :=
  Dict.ofList (points.map (fun point => (point.date, fromPercent point.value)))

variable {response : List (String × PyValue K)} {request : GroupEvidenceRequest}
  {expectedBenchmarkId : Option String} {dimension : GroupingDimension}
  {expectedGroupKeyBySourceId : Dict String String}
  {portfolioReturns benchmarkReturns : List (ReturnPoint K)} {evidence : ActiveGroupEvidence K}

omit [LinearOrder K] in
theorem returnsByDate_spec {points : List (ReturnPoint K)}
    (h : returnsByDate context points = .ok ratios) (day : Date) :
    Option.Rel (fun exact ratio => context.round exact = some ratio)
      ((admittedRatios points).get? day) (ratios.get? day) := by
  obtain ⟨pairs, hpairs, h⟩ := bind_eq_ok.1 h
  cases h
  apply Dict.rel_get?_ofList
  rw [List.forall₂_map_left_iff]
  apply (mapM_eq_ok.1 hpairs).imp
  intro point pair hpair
  obtain ⟨ratio, hratio, h⟩ := bind_eq_ok.1 hpair
  cases h
  exact ⟨rfl, fun _ => (rounded_eq_ok context).1 hratio⟩

omit [LinearOrder K] in
theorem mem_admittedRatios {points : List (ReturnPoint K)} :
    day ∈ (admittedRatios points).keys ↔ day ∈ points.map (fun point => point.date) := by
  unfold admittedRatios
  rw [Dict.mem_keys_ofList, List.map_map]
  rfl

omit [LinearOrder K] in
theorem mem_returnsByDate {points : List (ReturnPoint K)}
    (h : returnsByDate context points = .ok ratios) :
    day ∈ ratios.keys ↔ day ∈ points.map (fun point => point.date) := by
  have hrel := returnsByDate_spec context h day
  rw [← mem_admittedRatios, ← Dict.get?_isSome, ← Dict.get?_isSome]
  generalize (admittedRatios points).get? day = exact at hrel ⊢
  generalize ratios.get? day = ratio at hrel ⊢
  cases hrel with
  | none => exact Iff.rfl
  | some _ => exact iff_of_true rfl rfl

omit [LinearOrder K] in
theorem get?_returnsByDate {points : List (ReturnPoint K)} {ratios : Dict Date K}
    (h : returnsByDate context points = .ok ratios)
    (hget : (admittedRatios points).get? day = some ratio)
    (hround : context.round ratio = some ratio) : ratios.get? day = some ratio := by
  have hrel := returnsByDate_spec context h day
  rw [hget] at hrel
  generalize ratios.get? day = found at hrel ⊢
  cases hrel with
  | some hfound => rw [← hround, hfound]

omit [LinearOrder K] in
theorem validatedReturnPaths_spec
    (h : validatedReturnPaths context portfolioReturns benchmarkReturns observedDates =
      .ok paths) :
    returnsByDate context portfolioReturns = .ok paths.1 ∧
      returnsByDate context benchmarkReturns = .ok paths.2 ∧
      ∀ day ∈ paths.1.keys, day ∈ paths.2.keys ∧ day ∈ observedDates := by
  unfold validatedReturnPaths at h
  obtain ⟨portfolio, hportfolio, h⟩ := bind_eq_ok.1 h
  obtain ⟨benchmark, hbenchmark, h⟩ := bind_eq_ok.1 h
  split at h
  · cases h
  split at h
  · cases h
  rename_i hcalendars hcovered
  cases h
  simp only [Bool.not_eq_true', Bool.not_eq_false, Bool.and_eq_true, Bool.or_eq_true, not_or]
    at hcalendars hcovered
  refine ⟨hportfolio, hbenchmark, ?_⟩
  intro day hday
  exact ⟨of_decide_eq_true (List.all_eq_true.1 hcalendars.1 day hday),
    of_decide_eq_true (List.all_eq_true.1 hcovered.2 day hday)⟩

omit [Field K] [LinearOrder K] in
theorem rowsOf_listed (h : rowsOf (getEntry response field) label = .ok raws) :
    listed response field = raws := by
  unfold rowsOf at h
  split at h
  · rename_i hlist
    cases h
    simp only [listed, hlist]
  · cases h

omit [Field K] [LinearOrder K] in
/-- Every covered date has an aggregate, which is one of the listed. -/
theorem validatedAggregates_spec
    (h : validatedAggregates texts response observedDates = .ok aggregates) :
    (∀ day ∈ observedDates, day ∈ aggregates.keys) ∧
      ∀ aggregate ∈ aggregates.items, .dict aggregate.2 ∈ listed response "aggregate_returns" := by
  unfold validatedAggregates at h
  obtain ⟨raws, hraws, h⟩ := bind_eq_ok.1 h
  obtain ⟨read, hread, h⟩ := bind_eq_ok.1 h
  split at h
  · rename_i hall
    cases h
    constructor
    · intro day hday
      exact of_decide_eq_true (List.all_eq_true.1 (Bool.and_eq_true_iff.1 hall).2 day hday)
    · rw [rowsOf_listed hraws]
      apply foldlM_trace (fun raws aggregates =>
        ∀ aggregate ∈ aggregates.items, .dict aggregate.2 ∈ raws) _ [] _ hread
      · intro raws state raw next hstate hok
        obtain ⟨item, hitem, hok⟩ := bind_eq_ok.1 hok
        obtain ⟨day, _, hok⟩ := bind_eq_ok.1 hok
        split at hok
        · cases hok
        · cases hok
          intro aggregate haggregate
          rcases Dict.mem_items_set haggregate with ⟨_, hvalue⟩ | hkept
          · rw [hvalue, mappingOf_eq_ok hitem]
            exact List.mem_append_right _ (List.mem_singleton_self _)
          · exact List.mem_append_left _ (hstate aggregate hkept)
      · intro aggregate haggregate
        cases haggregate
  · cases h

theorem validatedGroupRows_spec
    (h : validatedGroupRows context texts casefold response aggregates dimension
      expectedGroupKeyBySourceId = .ok rows) :
    readGroupRows context texts casefold aggregates dimension expectedGroupKeyBySourceId
      (listed response "rows") = .ok rows := by
  unfold validatedGroupRows at h
  obtain ⟨raws, hraws, h⟩ := bind_eq_ok.1 h
  obtain ⟨read, hread, h⟩ := bind_eq_ok.1 h
  rw [rowsOf_listed hraws]
  simp only at h
  split at h
  · cases h
    exact hread
  · cases h

/-- What an accepted response has passed. -/
theorem parseActiveGroupEvidence_spec
    (h : parseActiveGroupEvidence context texts casefold response request expectedBenchmarkId
      dimension expectedGroupKeyBySourceId portfolioReturns benchmarkReturns = .ok evidence) :
    ∃ portfolioByDate benchmarkByDate aggregates rows,
      returnsByDate context portfolioReturns = .ok portfolioByDate ∧
      returnsByDate context benchmarkReturns = .ok benchmarkByDate ∧
      readGroupRows context texts casefold aggregates dimension expectedGroupKeyBySourceId
        (listed response "rows") = .ok rows ∧
      (∀ day ∈ portfolioByDate.keys, day ∈ benchmarkByDate.keys ∧ day ∈ aggregates.keys) ∧
      (∀ aggregate ∈ aggregates.items,
        .dict aggregate.2 ∈ listed response "aggregate_returns" ∧
        dailyReconciliation context texts rows.activeSums portfolioByDate benchmarkByDate
          aggregate = .ok ⟨⟩) ∧
      evidence.observationsByGroup =
        observationsByGroup (portfolioByDate.keys.insertionSort (· ≤ ·)) rows.byGroup := by
  unfold parseActiveGroupEvidence at h
  obtain ⟨benchmarkId, _, h⟩ := bind_eq_ok.1 h
  obtain ⟨observedDates, _, h⟩ := bind_eq_ok.1 h
  obtain ⟨sourceCutId, _, h⟩ := bind_eq_ok.1 h
  obtain ⟨paths, hpaths, h⟩ := bind_eq_ok.1 h
  obtain ⟨aggregates, haggregates, h⟩ := bind_eq_ok.1 h
  obtain ⟨rows, hrows, h⟩ := bind_eq_ok.1 h
  obtain ⟨_, _, h⟩ := bind_eq_ok.1 h
  obtain ⟨_, hdaily, h⟩ := bind_eq_ok.1 h
  cases h
  obtain ⟨hportfolio, hbenchmark, hdays⟩ := validatedReturnPaths_spec context hpaths
  obtain ⟨hcovered, hlisted⟩ := validatedAggregates_spec texts haggregates
  refine ⟨paths.1, paths.2, aggregates, rows, hportfolio, hbenchmark,
    validatedGroupRows_spec context texts casefold hrows, ?_, ?_, rfl⟩
  · intro day hday
    obtain ⟨hbenchmark, hobserved⟩ := hdays day hday
    exact ⟨hbenchmark, hcovered day hobserved⟩
  · intro aggregate haggregate
    exact ⟨hlisted aggregate haggregate, forM_eq_ok.1 hdaily aggregate haggregate⟩

/-- The source rows of a date. -/
abbrev sourcesOn (response : List (String × PyValue K))
    (expectedGroupKeyBySourceId : Dict String String) (day : Date) : List (SourceRow K) :=
  rowsOn day (sourceRows context texts expectedGroupKeyBySourceId (listed response "rows"))

/-- The evidence keeps every row of the required dates, and its groups add up to the active
return. -/
structure ActiveGroupEvidence.Complete (evidence : ActiveGroupEvidence K)
    (response : List (String × PyValue K)) (expectedGroupKeyBySourceId : Dict String String)
    (portfolioReturns benchmarkReturns : List (ReturnPoint K)) : Prop where
  read : ∀ raw ∈ listed response "rows",
    (sourceRow context texts expectedGroupKeyBySourceId raw).isSome
  kept : ∀ day ∈ portfolioReturns.map (fun point => point.date),
    ((sourcesOn context texts response expectedGroupKeyBySourceId day).map
      (fun row => (row.groupKey, row.observation))).Subperm (evidence.observedOn day)
  reconciled : ∀ day ∈ portfolioReturns.map (fun point => point.date), ∃ portfolio benchmark,
    (admittedRatios portfolioReturns).get? day = some portfolio ∧
    (admittedRatios benchmarkReturns).get? day = some benchmark ∧
    |evidence.activeOn day - (portfolio - benchmark)| ≤ (4 : Nat) * evidenceTolerance

/-- No two rows of a required date are of one group. -/
def DistinctGroups (response : List (String × PyValue K))
    (expectedGroupKeyBySourceId : Dict String String) (portfolioReturns : List (ReturnPoint K)) :
    Prop :=
  ∀ day ∈ portfolioReturns.map (fun point => point.date),
    ((sourcesOn context texts response expectedGroupKeyBySourceId day).map
      (fun row => row.groupKey)).Nodup

/-- On a required date the rows of the response, added up exactly, miss the admitted active return
by more than the four comparisons allow: the rounding of the context has hidden it from them. -/
def HidesDifference (response : List (String × PyValue K))
    (expectedGroupKeyBySourceId : Dict String String)
    (portfolioReturns benchmarkReturns : List (ReturnPoint K)) : Prop :=
  ∃ day ∈ portfolioReturns.map (fun point => point.date), ∃ portfolio benchmark,
    (admittedRatios portfolioReturns).get? day = some portfolio ∧
    (admittedRatios benchmarkReturns).get? day = some benchmark ∧
    (4 : Nat) * evidenceTolerance <
      |((sourcesOn context texts response expectedGroupKeyBySourceId day).map
        SourceRow.active).sum - (portfolio - benchmark)|

/-- The numbers of the rows and of the aggregates, and the admitted returns, are multiples of a
unit, and none is larger than the given size. -/
structure FewDigits (response : List (String × PyValue K))
    (portfolioReturns benchmarkReturns : List (ReturnPoint K)) (unit size : K) : Prop where
  figures : ∀ item, .dict item ∈ listed response "rows" ++ listed response "aggregate_returns" →
    ∀ number, Figure texts item number → Sized unit size number
  returns : ∀ point ∈ portfolioReturns ++ benchmarkReturns,
    Sized unit size (fromPercent point.value)

omit [LinearOrder K] in
/-- What is observed on a required date: for each group its last row of the date, or a zero. -/
theorem observedOn_latest {rows : GroupRows K} {sources : List (SourceRow K)}
    {portfolioByDate : Dict Date K} (htracks : rows.Tracks context sources)
    (hobservations : evidence.observationsByGroup =
      observationsByGroup (portfolioByDate.keys.insertionSort (· ≤ ·)) rows.byGroup)
    (hday : day ∈ portfolioByDate.keys) :
    (evidence.observedOn day).Perm (rows.byGroup.keys.map (fun groupKey => (groupKey,
      ((latest (fun row => row.groupKey) (rowsOn day sources) groupKey).map
        (fun row => row.observation)).getD ⟨day, 0, 0⟩))) := by
  have hsorted := List.perm_insertionSort (· ≤ ·) portfolioByDate.keys
  have hkept : ∀ groupKey day observation, placed rows.byGroup groupKey day = some observation →
      observation.observationDate = day := by
    intro groupKey day observation hplaced
    rw [htracks.placed] at hplaced
    obtain ⟨row, hrow, rfl⟩ := Option.map_eq_some_iff.1 hplaced
    have hmem := (mem_of_latest _ hrow).1
    simpa using (List.mem_filter.1 hmem).2
  rw [observedOn_eq hobservations (hsorted.nodup_iff.2 portfolioByDate.unique)
    (hsorted.mem_iff.2 hday) hkept]
  have hitems := (List.perm_insertionSort
    (fun a b : String × Dict Date (ActiveGroupObservation K) => a.1 ≤ b.1)
      rows.byGroup.items).map
    (fun group => (group.1, (placed rows.byGroup group.1 day).getD ⟨day, 0, 0⟩))
  simp only [htracks.placed] at hitems ⊢
  rw [Dict.keys, List.map_map]
  exact hitems

omit [LinearOrder K] in
/-- The rows of a date are groups of the evidence. -/
theorem group_of_row {rows : GroupRows K} {sources : List (SourceRow K)}
    (htracks : rows.Tracks context sources) (hrow : row ∈ rowsOn day sources) :
    row.groupKey ∈ rows.byGroup.keys := by
  have hplaced : placed rows.byGroup row.groupKey day ≠ none := by
    rw [htracks.placed]
    intro hnone
    rw [Option.map_eq_none_iff] at hnone
    have hfind := List.find?_eq_none.1 hnone row (List.mem_reverse.2 hrow)
    simp at hfind
  by_contra hkey
  rw [placed, Dict.getD_of_not_mem hkey] at hplaced
  exact hplaced rfl

variable {context texts casefold} (h : parseActiveGroupEvidence context texts casefold response
  request expectedBenchmarkId dimension expectedGroupKeyBySourceId portfolioReturns
  benchmarkReturns = .ok evidence)

include h in
/-- Rows of one group on one date leave no room for each other in the evidence. -/
theorem distinctGroups_of_kept
    (hkept : ∀ day ∈ portfolioReturns.map (fun point => point.date),
      ((sourcesOn context texts response expectedGroupKeyBySourceId day).map
        (fun row => (row.groupKey, row.observation))).Subperm (evidence.observedOn day)) :
    DistinctGroups context texts response expectedGroupKeyBySourceId portfolioReturns := by
  obtain ⟨portfolioByDate, _, aggregates, rows, hportfolio, _, hrows, _, _, hobservations⟩ :=
    parseActiveGroupEvidence_spec context texts casefold h
  obtain ⟨_, htracks⟩ := readGroupRows_spec context texts casefold expectedGroupKeyBySourceId hrows
  intro day hday
  have hperm := observedOn_latest context htracks hobservations
    ((mem_returnsByDate context hportfolio).2 hday)
  have hkeys := hperm.map Prod.fst
  rw [List.map_map] at hkeys
  have hobserved : ((evidence.observedOn day).map Prod.fst).Nodup :=
    hkeys.nodup_iff.2 ((List.map_id rows.byGroup.keys).symm ▸ rows.byGroup.unique)
  have hrows := nodup_of_subperm Prod.fst (hkept day hday) hobserved
  rw [List.map_map] at hrows
  exact hrows

include h in
/-- Rows of distinct groups are all kept. -/
theorem kept_of_distinctGroups
    (hdistinct : DistinctGroups context texts response expectedGroupKeyBySourceId
      portfolioReturns) :
    ∀ day ∈ portfolioReturns.map (fun point => point.date),
      ((sourcesOn context texts response expectedGroupKeyBySourceId day).map
        (fun row => (row.groupKey, row.observation))).Subperm (evidence.observedOn day) := by
  obtain ⟨portfolioByDate, _, aggregates, rows, hportfolio, _, hrows, _, _, hobservations⟩ :=
    parseActiveGroupEvidence_spec context texts casefold h
  obtain ⟨_, htracks⟩ := readGroupRows_spec context texts casefold expectedGroupKeyBySourceId hrows
  intro day hday
  have hperm := observedOn_latest context htracks hobservations
    ((mem_returnsByDate context hportfolio).2 hday)
  apply List.Nodup.subperm
  · apply List.Nodup.of_map Prod.fst
    rw [List.map_map]
    exact hdistinct day hday
  · intro entry hentry
    obtain ⟨row, hrow, rfl⟩ := List.mem_map.1 hentry
    apply hperm.mem_iff.2
    apply List.mem_map.2
    refine ⟨row.groupKey, group_of_row context htracks hrow, ?_⟩
    rw [latest_of_nodup (fun row => row.groupKey) (hdistinct day hday) hrow]
    rfl

include h in
/-- The groups then add up to the rows. -/
theorem activeOn_of_distinctGroups
    (hdistinct : DistinctGroups context texts response expectedGroupKeyBySourceId
      portfolioReturns) (hday : day ∈ portfolioReturns.map (fun point => point.date)) :
    evidence.activeOn day =
      ((sourcesOn context texts response expectedGroupKeyBySourceId day).map
        SourceRow.active).sum := by
  obtain ⟨portfolioByDate, _, aggregates, rows, hportfolio, _, hrows, _, _, hobservations⟩ :=
    parseActiveGroupEvidence_spec context texts casefold h
  obtain ⟨_, htracks⟩ := readGroupRows_spec context texts casefold expectedGroupKeyBySourceId hrows
  have hperm := observedOn_latest context htracks hobservations
    ((mem_returnsByDate context hportfolio).2 hday)
  have hlatest := sum_latest (fun row => row.groupKey) SourceRow.active rows.byGroup.unique
    (hdistinct day hday) (fun row hrow => group_of_row context htracks hrow)
  rw [← hlatest, ActiveGroupEvidence.activeOn,
    (hperm.map (fun entry => entry.2.activeContribution)).sum_eq, List.map_map]
  apply congrArg
  apply List.map_congr_left
  intro groupKey _
  simp only [Function.comp_apply]
  cases latest (fun row => row.groupKey) (rowsOn day (sourceRows context texts
    expectedGroupKeyBySourceId (listed response "rows"))) groupKey with
  | none => rfl
  | some row => rfl

include h in
theorem exists_admitted (hday : day ∈ portfolioReturns.map (fun point => point.date)) :
    ∃ portfolio benchmark, (admittedRatios portfolioReturns).get? day = some portfolio ∧
      (admittedRatios benchmarkReturns).get? day = some benchmark := by
  obtain ⟨portfolioByDate, benchmarkByDate, _, _, hportfolio, hbenchmark, _, hdays, _⟩ :=
    parseActiveGroupEvidence_spec context texts casefold h
  have hrequired := hdays day ((mem_returnsByDate context hportfolio).2 hday)
  have hother := (mem_returnsByDate context hbenchmark).1 hrequired.1
  obtain ⟨portfolio, hp⟩ :=
    Option.isSome_iff_exists.1 (Dict.get?_isSome.2 (mem_admittedRatios.2 hday))
  obtain ⟨benchmark, hb⟩ :=
    Option.isSome_iff_exists.1 (Dict.get?_isSome.2 (mem_admittedRatios.2 hother))
  exact ⟨portfolio, benchmark, hp, hb⟩

/-- The active contribution of a row is one of its figures. -/
theorem figure_of_sourceRow {raws : List (PyValue K)}
    (hrow : row ∈ sourceRows context texts expectedGroupKeyBySourceId raws) :
    ∃ item, .dict item ∈ raws ∧ Figure texts item row.active := by
  obtain ⟨raw, hraw, hrow⟩ := List.mem_filterMap.1 hrow
  unfold sourceRow at hrow
  split at hrow
  · rename_i item
    split at hrow
    · rename_i economics _ _ heconomics
      obtain ⟨groupKey, _, rfl⟩ := Option.map_eq_some_iff.1 hrow
      refine ⟨item, hraw, ?_⟩
      unfold groupEconomics at heconomics
      obtain ⟨_, _, heconomics⟩ := bind_eq_ok.1 heconomics
      obtain ⟨_, _, heconomics⟩ := bind_eq_ok.1 heconomics
      obtain ⟨_, _, heconomics⟩ := bind_eq_ok.1 heconomics
      obtain ⟨_, _, heconomics⟩ := bind_eq_ok.1 heconomics
      obtain ⟨active, hactive, heconomics⟩ := bind_eq_ok.1 heconomics
      obtain ⟨_, _, heconomics⟩ := bind_eq_ok.1 heconomics
      obtain ⟨_, _, heconomics⟩ := bind_eq_ok.1 heconomics
      obtain ⟨_, _, heconomics⟩ := bind_eq_ok.1 heconomics
      obtain ⟨apart, _, heconomics⟩ := bind_eq_ok.1 heconomics
      cases apart with
      | true => cases heconomics
      | false =>
        obtain ⟨_, _, heconomics⟩ := bind_eq_ok.1 heconomics
        cases heconomics
        exact ⟨_, _, hactive⟩
    · cases hrow
  · cases hrow

section Exactness

variable [IsStrictOrderedRing K] {unit size bound : K}
  (hfew : FewDigits texts response portfolioReturns benchmarkReturns unit size)

omit [IsStrictOrderedRing K] in
include hfew in
theorem FewDigits.admitted (hpoints : points.Sublist (portfolioReturns ++ benchmarkReturns))
    (h : (admittedRatios points).get? day = some ratio) :
    Sized unit size ratio := by
  obtain ⟨point, hpoint, hratio⟩ :=
    List.mem_map.1 (Dict.mem_of_mem_items_ofList (Dict.get?_eq_some.1 h))
  cases hratio
  exact hfew.returns point (hpoints.subset hpoint)

include hfew in
/-- The rows of a date are multiples of the unit, and small together. -/
theorem FewDigits.rows (hsize : 0 ≤ size) (expectedGroupKeyBySourceId : Dict String String)
    (day : Date) {actives : List K} (hactives : actives =
      (sourcesOn context texts response expectedGroupKeyBySourceId day).map SourceRow.active) :
    (∀ x ∈ actives, x ∈ AddSubgroup.zmultiples unit) ∧
      (actives.map abs).sum ≤ (listed response "rows").length * size := by
  have hrows : ∀ x ∈ actives, Sized unit size x := by
    intro x hx
    rw [hactives] at hx
    obtain ⟨row, hrow, rfl⟩ := List.mem_map.1 hx
    obtain ⟨item, hitem, hfigure⟩ := figure_of_sourceRow (List.mem_filter.1 hrow).1
    exact hfew.figures item (List.mem_append_left _ hitem) _ hfigure
  refine ⟨fun x hx => (hrows x hx).1, ?_⟩
  have hbounded : ∀ y ∈ actives.map abs, y ≤ size := by
    intro y hy
    obtain ⟨x, hx, rfl⟩ := List.mem_map.1 hy
    exact (hrows x hx).2
  have hlength : actives.length ≤ (listed response "rows").length := by
    rw [hactives, List.length_map]
    exact (List.length_filter_le _ _).trans (List.length_filterMap_le _ _)
  calc (actives.map abs).sum ≤ (actives.map abs).length • size :=
        List.sum_le_card_nsmul _ _ hbounded
    _ = actives.length * size := by rw [List.length_map, nsmul_eq_mul]
    _ ≤ (listed response "rows").length * size :=
        mul_le_mul_of_nonneg_right (Nat.cast_le.2 hlength) hsize

include h hfew in
/-- Where the numbers are so few digits long that the context rounds none of them, the four
comparisons add up, and nothing is hidden. -/
theorem hidesNothing_of_fewDigits (hexact : context.ExactBelow unit bound)
    (hbound : ((listed response "rows").length + (3 : Nat)) * size < bound) :
    ¬HidesDifference context texts response expectedGroupKeyBySourceId portfolioReturns
      benchmarkReturns := by
  rintro ⟨day, hday, portfolio, benchmark, hp, hb, hmiss⟩
  obtain ⟨portfolioByDate, benchmarkByDate, aggregates, rows, hportfolio, hbenchmark, hrows,
    hdays, hdaily, -⟩ := parseActiveGroupEvidence_spec context texts casefold h
  obtain ⟨-, htracks⟩ := readGroupRows_spec context texts casefold expectedGroupKeyBySourceId hrows
  obtain ⟨item, hitem⟩ := Option.isSome_iff_exists.1 (Dict.get?_isSome.2
    (hdays day ((mem_returnsByDate context hportfolio).2 hday)).2)
  obtain ⟨hlisted, hdaily⟩ := hdaily (day, item) (Dict.get?_eq_some.1 hitem)
  have hpSized := hfew.admitted (List.sublist_append_left _ _) hp
  have hbSized := hfew.admitted (List.sublist_append_right _ _) hb
  have hsize : 0 ≤ size := (abs_nonneg _).trans hpSized.2
  have hcount : (0 : K) ≤ (listed response "rows").length * size :=
    mul_nonneg (Nat.cast_nonneg _) hsize
  rw [add_mul, Nat.cast_ofNat] at hbound
  -- No admitted return is rounded.
  have hpRatio := get?_returnsByDate context hportfolio hp
    (hexact _ hpSized.1 (by linarith [hpSized.2]))
  have hbRatio := get?_returnsByDate context hbenchmark hb
    (hexact _ hbSized.1 (by linarith [hbSized.2]))
  obtain ⟨pReturn, bReturn, active, difference, hpFigure, hbFigure, haFigure, hdifference, h₁, h₂,
    h₃, h₄⟩ := dailyReconciliation_spec (day, item) hdaily hpRatio
  have hfigures := hfew.figures item (List.mem_append_right _ hlisted)
  have hpReturn := hfigures _ hpFigure
  have hbReturn := hfigures _ hbFigure
  have hactive := hfigures _ haFigure
  have hnet := hpReturn.sub hbReturn
  rw [hexact _ hnet.1 (by linarith [hnet.2])] at hdifference
  cases hdifference
  -- Nor is the sum of the rows.
  obtain ⟨hunits, habs⟩ := hfew.rows hsize expectedGroupKeyBySourceId day rfl
  have hsum := htracks.sums day
  rw [hexact.sum hunits (by linarith)] at hsum
  have hsumSized := Sized.sum hunits habs
  rw [Option.some.inj hsum] at hmiss hsumSized
  rw [Dict.getD, hbRatio, Option.getD_some] at h₄
  have hclose := active_sum_close
    (abs_le_of_differ hexact hactive hnet (by linarith) h₁)
    (abs_le_of_differ hexact hsumSized hactive (by linarith) h₂)
    (abs_le_of_differ hexact hpReturn hpSized (by linarith) h₃)
    (abs_le_of_differ hexact hbReturn hbSized (by linarith) h₄)
  exact absurd hclose (not_le.2 hmiss)

end Exactness

/-- The evidence is complete exactly when no two source rows of a required date meet in one group
and the rounding hides no difference, which it does not where no number has many digits. -/
theorem active_group_evidence_complete_iff [IsStrictOrderedRing K]
    (h : parseActiveGroupEvidence context texts casefold response request expectedBenchmarkId
      dimension expectedGroupKeyBySourceId portfolioReturns benchmarkReturns = .ok evidence) :
    (evidence.Complete context texts response expectedGroupKeyBySourceId portfolioReturns
        benchmarkReturns ↔
      DistinctGroups context texts response expectedGroupKeyBySourceId portfolioReturns ∧
        ¬HidesDifference context texts response expectedGroupKeyBySourceId portfolioReturns
          benchmarkReturns) ∧
    ∀ unit size bound, context.ExactBelow unit bound →
      FewDigits texts response portfolioReturns benchmarkReturns unit size →
      ((listed response "rows").length + (3 : Nat)) * size < bound →
      ¬HidesDifference context texts response expectedGroupKeyBySourceId portfolioReturns
        benchmarkReturns := by
  refine ⟨⟨?_, ?_⟩, fun _ _ _ hexact hfew hbound =>
    hidesNothing_of_fewDigits h hfew hexact hbound⟩
  · intro hcomplete
    have hdistinct := distinctGroups_of_kept h hcomplete.kept
    refine ⟨hdistinct, ?_⟩
    rintro ⟨day, hday, portfolio, benchmark, hp, hb, hmiss⟩
    obtain ⟨portfolio', benchmark', hp', hb', hclose⟩ := hcomplete.reconciled day hday
    cases hp.symm.trans hp'
    cases hb.symm.trans hb'
    rw [activeOn_of_distinctGroups h hdistinct hday] at hclose
    exact absurd hclose (not_le.2 hmiss)
  · rintro ⟨hdistinct, hshown⟩
    obtain ⟨_, _, aggregates, rows, _, _, hrows, _⟩ :=
      parseActiveGroupEvidence_spec context texts casefold h
    refine ⟨(readGroupRows_spec context texts casefold expectedGroupKeyBySourceId hrows).1,
      kept_of_distinctGroups h hdistinct, ?_⟩
    intro day hday
    obtain ⟨portfolio, benchmark, hp, hb⟩ := exists_admitted h hday
    refine ⟨portfolio, benchmark, hp, hb, ?_⟩
    rw [activeOn_of_distinctGroups h hdistinct hday]
    by_contra hmiss
    exact hshown ⟨day, hday, portfolio, benchmark, hp, hb, not_le.1 hmiss⟩

/-- A map that gives every source identity a group of its own keeps the groups distinct. -/
theorem distinctGroups_of_injective
    (h : parseActiveGroupEvidence context texts casefold response request expectedBenchmarkId
      dimension expectedGroupKeyBySourceId portfolioReturns benchmarkReturns = .ok evidence)
    (hinjective : ∀ a b key, expectedGroupKeyBySourceId.get? a = some key →
      expectedGroupKeyBySourceId.get? b = some key → a = b) :
    DistinctGroups context texts response expectedGroupKeyBySourceId portfolioReturns := by
  obtain ⟨_, _, aggregates, rows, _, _, hrows, _⟩ :=
    parseActiveGroupEvidence_spec context texts casefold h
  obtain ⟨_, htracks⟩ := readGroupRows_spec context texts casefold expectedGroupKeyBySourceId hrows
  have hnodup : ((sourceRows context texts expectedGroupKeyBySourceId
      (listed response "rows")).map
      (fun row => (row.observation.observationDate, row.sourceId))).Nodup := by
    rw [← htracks.seen]
    exact htracks.single
  intro day _
  apply List.Nodup.map_on _ ((List.Nodup.of_map _ hnodup).filter _)
  intro row hrow other hother hkey
  obtain ⟨hrow, hday⟩ := List.mem_filter.1 hrow
  obtain ⟨hother, hday'⟩ := List.mem_filter.1 hother
  have hid : row.sourceId = other.sourceId := hinjective row.sourceId other.sourceId row.groupKey
    (groupKey_of_sourceRow context texts expectedGroupKeyBySourceId hrow)
    (hkey ▸ groupKey_of_sourceRow context texts expectedGroupKeyBySourceId hother)
  apply List.inj_on_of_nodup_map hnodup hrow hother
  rw [of_decide_eq_true hday, of_decide_eq_true hday', hid]

end Admission

section Days

/-- A group that the portfolio alone holds, and what it contributes on a day. -/
def heldRow (sourceId label : String) (groupReturn weight active : PyValue ℚ) : PyValue ℚ :=
  .dict [("date", .str "2026-01-05"), ("group_id", .str sourceId), ("group_label", .str label),
    ("portfolio_group_return", groupReturn), ("benchmark_group_return", .int 0),
    ("portfolio_weight", weight), ("benchmark_weight", .int 0),
    ("active_contribution", active)]

def dayRequest : GroupEvidenceRequest where
  calculationId := "calculation"
  portfolioId := "portfolio"
  asOfDate := "2026-01-05"
  startDate := "2026-01-05"
  endDate := "2026-01-05"
  reportingCurrency := "USD"

/-- The groups of a day on which the benchmark returns nothing. -/
def dayResponse (portfolioReturn : PyValue ℚ) (rows : List (PyValue ℚ)) :
    List (String × PyValue ℚ) :=
  [("contract_version", .str "v1"), ("calculation_id", .str "calculation"),
    ("portfolio_id", .str "portfolio"), ("as_of_date", .str "2026-01-05"),
    ("window", .dict [("start_date", .str "2026-01-05"), ("end_date", .str "2026-01-05")]),
    ("grouping_dimension", .str "SECTOR"), ("reporting_currency", .str "USD"),
    ("return_basis", .str returnBasis), ("valuation_basis", .str valuationBasis),
    ("weight_basis", .str weightBasis), ("benchmark_id", .str "benchmark"),
    ("coverage", .dict [("status", .str "COMPLETE"), ("reason_codes", .list []),
      ("observed_dates", .list [.str "2026-01-05"]),
      ("reconciliation_tolerance", .str "0.000001")]),
    ("source_lineage", .dict [("tenant_scope", .str "ADMITTED_TENANT"),
      ("upstream_revision_status", .str "NOT_PROVIDED_BY_SOURCE"),
      ("execution_id", .str "calculation"),
      ("source_cut_id", .str ("sha256:" ++ String.ofList (List.replicate 64 'a'))),
      ("snapshots", .list [.dict [("upstream_endpoint", .str "timeseries"),
        ("source_identifier", .str "portfolio"), ("as_of_date", .str "2026-01-05"),
        ("request_fingerprint", .str "request"), ("response_fingerprint", .str "response"),
        ("retrieval_status", .str "200")]])]),
    ("aggregate_returns", .list [.dict [("date", .str "2026-01-05"),
      ("portfolio_return", portfolioReturn), ("weighted_portfolio_return", portfolioReturn),
      ("benchmark_return", .int 0), ("active_return", portfolioReturn),
      ("portfolio_reconciliation_delta", .int 0),
      ("group_active_contribution_delta", .int 0)]]),
    ("rows", .list rows)]

/-- The evidence of the day, admitted against the return of the portfolio. -/
def dayEvidence (response : List (String × PyValue ℚ)) (portfolioReturn : ℚ)
    (expectedGroupKeyBySourceId : Dict String String) :
    Except SourceException (ActiveGroupEvidence ℚ) :=
  parseActiveGroupEvidence defaultContext plainTexts asciiLower response dayRequest
    (some "benchmark") .sector expectedGroupKeyBySourceId [⟨firstMonday, portfolioReturn⟩]
    [⟨firstMonday, 0⟩]

/-- The evidence of the day, under the map that the exposures give. -/
def dayOutcome (response : List (String × PyValue ℚ)) (portfolioReturn : ℚ)
    (groups : Except SourceException (Dict String String)) :
    Except SourceException (Dict String String × ActiveGroupEvidence ℚ) := do
  let expectedGroupKeyBySourceId ← groups
  let evidence ← dayEvidence response portfolioReturn expectedGroupKeyBySourceId
  .ok (expectedGroupKeyBySourceId, evidence)

theorem dayOutcome_eq_ok (h : dayOutcome response portfolioReturn groups = .ok admitted) :
    groups = .ok admitted.1 ∧ dayEvidence response portfolioReturn admitted.1 = .ok admitted.2 := by
  obtain ⟨expected, hgroups, h⟩ := bind_eq_ok.1 h
  obtain ⟨evidence, hevidence, h⟩ := bind_eq_ok.1 h
  cases h
  exact ⟨hgroups, hevidence⟩

/-- Two equal halves of a portfolio that returns two percent. -/
def halvesResponse : List (String × PyValue ℚ) :=
  dayResponse (.str "0.02") [
    heldRow "SECTOR:technology" "Technology" (.str "0.02") (.str "0.5") (.str "0.01"),
    heldRow "SECTOR:information_technology" "Information Technology" (.str "0.02") (.str "0.5")
      (.str "0.01")]

/-- The portfolio and the benchmark name their sectors in two ways. -/
def halvesMap (benchmarkKey : String) : Except SourceException (Dict String String) :=
  activeGroupKeyBySourceId asciiLower
    [⟨firstMonday, .sector, "SECTOR_TECH", some "Technology", (1 : ℚ)⟩]
    [⟨firstMonday, .sector, benchmarkKey, some "Information Technology", (1 : ℚ)⟩]
    .sector firstMonday firstMonday

/-- Two groups that offset each other, so large that the third is lost in the sum of the first
two. -/
def offsetResponse : List (String × PyValue ℚ) :=
  dayResponse (.int 0) [
    heldRow "SECTOR:energy" "Energy" (.str "0.01") (.int (10 ^ 30)) (.int (10 ^ 28)),
    heldRow "SECTOR:health" "Health" (.str "0.01") (.int 1) (.str "0.01"),
    heldRow "SECTOR:metals" "Metals" (.str "0.01") (.int (-10 ^ 30)) (.int (-10 ^ 28))]

def offsetMap : Except SourceException (Dict String String) :=
  activeGroupKeyBySourceId asciiLower
    [⟨firstMonday, .sector, "SECTOR_ENERGY", some "Energy", (10 ^ 30 : ℚ)⟩,
      ⟨firstMonday, .sector, "SECTOR_HEALTH", some "Health", 1⟩,
      ⟨firstMonday, .sector, "SECTOR_METALS", some "Metals", -10 ^ 30⟩]
    [] .sector firstMonday firstMonday

theorem not_complete_of_activeOn {evidence : ActiveGroupEvidence ℚ}
    (hday : day ∈ portfolioReturns.map (fun point => point.date))
    (hp : (admittedRatios portfolioReturns).get? day = some portfolio)
    (hb : (admittedRatios benchmarkReturns).get? day = some benchmark)
    (hmiss : (4 : Nat) * evidenceTolerance < |evidence.activeOn day - (portfolio - benchmark)|) :
    ¬evidence.Complete defaultContext plainTexts response expectedGroupKeyBySourceId
      portfolioReturns benchmarkReturns := by
  intro hcomplete
  obtain ⟨portfolio', benchmark', hp', hb', hclose⟩ := hcomplete.reconciled day hday
  cases hp.symm.trans hp'
  cases hb.symm.trans hb'
  exact absurd hclose (not_le.2 hmiss)

/-- Under one key the second half overwrites the first, and the evidence admits half of the
active return; under three keys the third group is lost in the rounding, and the evidence admits
one percent where there was none. -/
theorem accepted_groups_miss_active_return :
    (∃ expectedGroupKeyBySourceId evidence,
      halvesMap "SECTOR_TECH" = .ok expectedGroupKeyBySourceId ∧
      dayEvidence halvesResponse (2 : Nat) expectedGroupKeyBySourceId = .ok evidence ∧
      ¬evidence.Complete defaultContext plainTexts halvesResponse expectedGroupKeyBySourceId
        [⟨firstMonday, (2 : Nat)⟩] [⟨firstMonday, 0⟩]) ∧
    ∃ expectedGroupKeyBySourceId evidence, offsetMap = .ok expectedGroupKeyBySourceId ∧
      dayEvidence offsetResponse 0 expectedGroupKeyBySourceId = .ok evidence ∧
      ¬evidence.Complete defaultContext plainTexts offsetResponse expectedGroupKeyBySourceId
        [⟨firstMonday, 0⟩] [⟨firstMonday, 0⟩] := by
  have hzero : (admittedRatios [⟨firstMonday, (0 : ℚ)⟩]).get? firstMonday = some 0 := by
    decide +kernel
  constructor
  · have hreturn : (admittedRatios [⟨firstMonday, ((2 : Nat) : ℚ)⟩]).get? firstMonday =
        some (1 / 50) := by decide +kernel
    have hactive : (dayOutcome halvesResponse (2 : Nat) (halvesMap "SECTOR_TECH")).toOption.any
        (fun admitted => decide (admitted.2.activeOn firstMonday = 1 / 100)) = true := by
      decide +kernel
    obtain ⟨admitted, hadmitted, hhalf⟩ := ok_of_any hactive
    obtain ⟨hgroups, hevidence⟩ := dayOutcome_eq_ok hadmitted
    refine ⟨admitted.1, admitted.2, hgroups, hevidence, ?_⟩
    apply not_complete_of_activeOn List.mem_cons_self hreturn hzero
    rw [of_decide_eq_true hhalf]
    decide +kernel
  · have hactive : (dayOutcome offsetResponse 0 offsetMap).toOption.any
        (fun admitted => decide (admitted.2.activeOn firstMonday = 1 / 100)) = true := by
      decide +kernel
    obtain ⟨admitted, hadmitted, hlost⟩ := ok_of_any hactive
    obtain ⟨hgroups, hevidence⟩ := dayOutcome_eq_ok hadmitted
    refine ⟨admitted.1, admitted.2, hgroups, hevidence, ?_⟩
    apply not_complete_of_activeOn List.mem_cons_self hzero hzero
    rw [of_decide_eq_true hlost]
    decide +kernel

/-- Under two keys both halves are kept, and nothing is hidden. -/
theorem active_group_evidence_complete_iff_halves : ∃ expectedGroupKeyBySourceId evidence,
    halvesMap "SECTOR_INFORMATION_TECH" = .ok expectedGroupKeyBySourceId ∧
    dayEvidence halvesResponse (2 : Nat) expectedGroupKeyBySourceId = .ok evidence ∧
    evidence.Complete defaultContext plainTexts halvesResponse expectedGroupKeyBySourceId
      [⟨firstMonday, (2 : Nat)⟩] [⟨firstMonday, 0⟩] := by
  have hrows : (dayOutcome halvesResponse (2 : Nat)
      (halvesMap "SECTOR_INFORMATION_TECH")).toOption.any (fun admitted =>
      let sources := sourcesOn defaultContext plainTexts halvesResponse admitted.1 firstMonday
      decide (sources.map (fun row => row.groupKey)).Nodup &&
        decide ((sources.map SourceRow.active).sum = 1 / 50)) = true := by
    decide +kernel
  obtain ⟨admitted, hadmitted, hsources⟩ := ok_of_any hrows
  obtain ⟨hnodup, hsum⟩ := Bool.and_eq_true_iff.1 hsources
  obtain ⟨hgroups, hevidence⟩ := dayOutcome_eq_ok hadmitted
  refine ⟨admitted.1, admitted.2, hgroups, hevidence, ?_⟩
  apply (active_group_evidence_complete_iff hevidence).1.2
  constructor
  · intro day hday
    rw [List.mem_singleton.1 hday]
    exact of_decide_eq_true hnodup
  · rintro ⟨day, hday, portfolio, benchmark, hp, hb, hmiss⟩
    rw [List.mem_singleton.1 hday] at hp hb hmiss
    have hreturn : (admittedRatios [⟨firstMonday, ((2 : Nat) : ℚ)⟩]).get? firstMonday =
        some (1 / 50) := by decide +kernel
    have hzero : (admittedRatios [⟨firstMonday, (0 : ℚ)⟩]).get? firstMonday = some 0 := by
      decide +kernel
    cases hp.symm.trans hreturn
    cases hb.symm.trans hzero
    rw [of_decide_eq_true hsum] at hmiss
    exact absurd hmiss (by decide +kernel)

end Days

end LotusRisk
