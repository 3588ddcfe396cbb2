import LotusRisk.Attribution.EvidenceErrors
import LotusRisk.Lib.Doubles
import LotusRisk.Lib.Latest

namespace LotusRisk
set_option autoImplicit true

open Relational Raising Latest

variable {K : Type}

section Series

variable {V : Type} [ValuedFloat K V] (texts : PyTexts K) (windowDates : List Date)
  (periodStart periodEnd : Date)

def GroupReturnObservation.Finite (observation : GroupReturnObservation K) : Prop :=
  ValuedFloat.isFinite observation.returnPp = true ∧
    ValuedFloat.isFinite observation.weightRatio = true

theorem isFinite_of_finite (h : finite texts raw field groupKey = .ok x) :
    ValuedFloat.isFinite x = true := by
  unfold finite at h
  dsimp only at h
  split at h
  · split at h
    · rename_i hfinite
      cases h
      exact hfinite
    · cases h
  all_goals cases h

theorem parseObservation_finite
    (h : parseObservation texts windowDates periodStart periodEnd groupKey seenDates rawPoint =
      .ok observation) : observation.Finite := by
  unfold parseObservation at h
  dsimp only at h
  split at h
  · obtain ⟨date, _, h⟩ := bind_eq_ok.1 h
    split at h
    · cases h
    · split at h
      · obtain ⟨returnPp, hreturn, h⟩ := bind_eq_ok.1 h
        obtain ⟨weightPct, hweight, h⟩ := bind_eq_ok.1 h
        cases h
        exact ⟨isFinite_of_finite texts hreturn,
          ValuedFloat.isFinite_div_hundred _ (isFinite_of_finite texts hweight)⟩
      · cases h
  · cases h

/-- Finite observations are kept under their dates, which are dates of the portfolio. -/
def SeriesRead.Sound (windowDates : List Date) (read : SeriesRead K) : Prop :=
  ∀ date observation, (date, observation) ∈ read.observations.items →
    observation.observationDate = date ∧ date ∈ windowDates ∧ observation.Finite

theorem readObservation_sound {state read : SeriesRead K} (h : state.Sound windowDates)
    (hok : readObservation texts windowDates periodStart periodEnd groupKey state rawPoint =
      .ok read) : read.Sound windowDates := by
  unfold readObservation at hok
  obtain ⟨observation, hobservation, hread⟩ := bind_eq_ok.1 hok
  cases hread
  intro date kept hkept
  by_cases hdate : observation.observationDate ∈ windowDates
  · simp only [if_pos hdate] at hkept
    rcases Dict.mem_items_set hkept with ⟨rfl, rfl⟩ | hkept
    · exact ⟨rfl, hdate,
        parseObservation_finite texts windowDates periodStart periodEnd hobservation⟩
    · exact h date kept hkept
  · simp only [if_neg hdate] at hkept
    exact h date kept hkept

theorem readObservations_sound {read : SeriesRead K}
    (h : readObservations texts windowDates periodStart periodEnd groupKey rawSeries = .ok read) :
    read.Sound windowDates := by
  apply foldlM_invariant (SeriesRead.Sound windowDates) _ _ h
  · intro state rawPoint read hstate hok
    exact readObservation_sound texts windowDates periodStart periodEnd hstate hok
  · intro date observation hmem
    cases hmem

def GroupReturnSeries.dates (series : GroupReturnSeries K) : List Date :=
  series.observations.map (fun point => point.observationDate)

/-- One finite observation for a date, and for dates of the portfolio only. -/
structure GroupReturnSeries.Within (series : GroupReturnSeries K) (windowDates : List Date) :
    Prop where
  single : series.dates.Nodup
  window : ∀ date ∈ series.dates, date ∈ windowDates
  finite : ∀ observation ∈ series.observations, observation.Finite

theorem parseReadySeries_within
    (h : parseReadySeries texts windowDates periodStart periodEnd rowEvidence groupKey
      expectedCurrency = .ok series) : series.groupKey = groupKey ∧ series.Within windowDates := by
  unfold parseReadySeries at h
  obtain ⟨header, _, h⟩ := bind_eq_ok.1 h
  obtain ⟨read, hread, hseries⟩ := bind_eq_ok.1 h
  cases hseries
  have hsound := readObservations_sound texts windowDates periodStart periodEnd hread
  have hperm := List.perm_insertionSort
    (fun a b : Date × GroupReturnObservation K => a.1 ≤ b.1) read.observations.items
  have hdates : ∀ entries : List (Date × GroupReturnObservation K),
      (∀ entry ∈ entries, entry ∈ read.observations.items) →
      (entries.map Prod.snd).map (fun point => point.observationDate) = entries.map Prod.fst := by
    intro entries hentries
    rw [List.map_map]
    apply List.map_congr_left
    intro entry hentry
    exact (hsound entry.1 entry.2 (hentries entry hentry)).1
  have hkeys := hdates _ (fun entry hentry => hperm.mem_iff.1 hentry)
  refine ⟨rfl, ⟨?_, ?_, ?_⟩⟩
  · unfold GroupReturnSeries.dates
    rw [hkeys]
    exact (hperm.map Prod.fst).nodup_iff.2 read.observations.unique
  · intro date hdate
    unfold GroupReturnSeries.dates at hdate
    rw [hkeys] at hdate
    obtain ⟨entry, hentry, rfl⟩ := List.mem_map.1 hdate
    exact (hsound entry.1 entry.2 (hperm.mem_iff.1 hentry)).2.1
  · intro observation hobservation
    obtain ⟨entry, hentry, rfl⟩ := List.mem_map.1 hobservation
    exact (hsound entry.1 entry.2 (hperm.mem_iff.1 hentry)).2.2

end Series

section Rows

variable {V : Type} [ValuedFloat K V] [ZeroTest K] (texts : PyTexts K) (windowDates : List Date)
  (periodStart periodEnd : Date)

/-- Unless a flag is set, every group that was seen has its series. -/
structure RowEvidence.Sound (expected : Dict String String) (windowDates : List Date)
    (state : RowEvidence K) : Prop where
  resolved : ∀ key ∈ state.seenCalculationKeys, key ∈ expected.items.map Prod.snd
  collected : state.flags = [] →
    ∀ key, key ∈ state.seriesByGroup.keys ↔ key ∈ state.seenCalculationKeys
  within : ∀ key series, (key, series) ∈ state.seriesByGroup.items →
    series.groupKey = key ∧ series.Within windowDates

omit [ValuedFloat K V] [ZeroTest K] in
theorem rowGroup_expected {expected : Dict String String} {state : RowEvidence K}
    (h : rowGroup texts dimensionField expected state row = .ok group) :
    group.2 ∈ expected.items.map Prod.snd := by
  unfold rowGroup at h
  obtain ⟨sourceGroupKey, _, h⟩ := bind_eq_ok.1 h
  simp only at h
  split at h
  · cases h
  · split at h
    · cases h
    · rename_i calculationGroupKey hget
      split at h
      · cases h
      · cases h
        exact List.mem_map_of_mem (f := Prod.snd) (Dict.get?_eq_some.1 hget)

theorem collectRow_sound {expected : Dict String String} {state next : RowEvidence K}
    (h : state.Sound expected windowDates)
    (hok : collectRow texts windowDates periodStart periodEnd dimensionField expectedCurrency
      expected state row = .ok next) : next.Sound expected windowDates := by
  unfold collectRow at hok
  split at hok
  · cases hok
    refine ⟨h.resolved, ?_, h.within⟩
    intro hflags
    exact absurd hflags (List.append_ne_nil_of_right_ne_nil _ (List.cons_ne_nil _ _))
  · obtain ⟨group, hgroup, hok⟩ := bind_eq_ok.1 hok
    obtain ⟨evidence, _, hok⟩ := bind_eq_ok.1 hok
    have hresolved : ∀ key ∈ state.seenCalculationKeys ++ [group.2],
        key ∈ expected.items.map Prod.snd := by
      intro key hkey
      rcases List.mem_append.1 hkey with hkey | hkey
      · exact h.resolved key hkey
      · rw [List.mem_singleton.1 hkey]
        exact rowGroup_expected texts hgroup
    cases evidence with
    | none =>
      cases hok
      refine ⟨hresolved, ?_, h.within⟩
      intro hflags
      exact absurd hflags (List.append_ne_nil_of_right_ne_nil _ (List.cons_ne_nil _ _))
    | some rowEvidence =>
      obtain ⟨series, hseries, hok⟩ := bind_eq_ok.1 hok
      cases hok
      refine ⟨hresolved, ?_, ?_⟩
      · intro hflags key
        rw [Dict.mem_keys_set, List.mem_append, List.mem_singleton, h.collected hflags key,
          or_comm, eq_comm]
      · intro key kept hkept
        rcases Dict.mem_items_set hkept with ⟨rfl, rfl⟩ | hkept
        · exact parseReadySeries_within texts windowDates periodStart periodEnd hseries
        · exact h.within key kept hkept

theorem collectRows_sound {expected : Dict String String} {state : RowEvidence K}
    (h : collectRows texts windowDates periodStart periodEnd dimensionField expectedCurrency
      expected rows = .ok state) : state.Sound expected windowDates := by
  apply foldlM_invariant (RowEvidence.Sound expected windowDates) _ _ h
  · intro state row next hstate hok
    exact collectRow_sound texts windowDates periodStart periodEnd hstate hok
  · refine ⟨?_, ?_, ?_⟩
    · intro key hkey
      cases hkey
    · intro _ key
      exact Iff.rfl
    · intro key series hmem
      cases hmem

/-- Evidence without a flag has a series for every expected group and for no other. -/
theorem collectRowEvidence_complete {expected : Dict String String}
    {seriesByGroup : Dict String (GroupReturnSeries K)}
    (h : collectRowEvidence texts windowDates periodStart periodEnd dimensionField
      expectedCurrency expected rows = .ok (seriesByGroup, [])) (key : String) :
    key ∈ seriesByGroup.keys ↔ key ∈ expected.items.map Prod.snd := by
  unfold collectRowEvidence at h
  obtain ⟨state, hstate, h⟩ := bind_eq_ok.1 h
  have hsound := collectRows_sound texts windowDates periodStart periodEnd hstate
  simp only at h
  split at h
  · rename_i hall
    obtain ⟨hseries, hflags⟩ := Prod.mk.inj (Except.ok.inj h)
    rw [← hseries, hsound.collected hflags key]
    constructor
    · exact hsound.resolved key
    · intro hkey
      exact of_decide_eq_true (List.all_eq_true.1 hall key hkey)
  · have hflags := (Prod.mk.inj (Except.ok.inj h)).2
    exact absurd hflags (List.append_ne_nil_of_right_ne_nil _ (List.cons_ne_nil _ _))

theorem collectRowEvidence_within {expected : Dict String String}
    {collected : Dict String (GroupReturnSeries K) × List String}
    (h : collectRowEvidence texts windowDates periodStart periodEnd dimensionField
      expectedCurrency expected rows = .ok collected)
    (key : String) (series : GroupReturnSeries K) (hmem : (key, series) ∈ collected.1.items) :
    series.groupKey = key ∧ series.Within windowDates := by
  unfold collectRowEvidence at h
  obtain ⟨state, hstate, h⟩ := bind_eq_ok.1 h
  have hsound := collectRows_sound texts windowDates periodStart periodEnd hstate
  simp only at h
  split at h
  · cases h
    exact hsound.within key series hmem
  · cases h
    exact hsound.within key series hmem

end Rows

section Reconciliation

theorem calendarFlags_eq_nil {seriesByGroup : Dict String (GroupReturnSeries K)} :
    calendarFlags seriesByGroup dates = [] ↔
      ∀ group ∈ seriesByGroup.items, ∀ date ∈ dates, date ∈ group.2.dates := by
  unfold calendarFlags
  rw [List.filterMap_eq_nil_iff]
  have hmem := fun group => (List.perm_insertionSort
    (fun a b : String × GroupReturnSeries K => a.1 ≤ b.1) seriesByGroup.items).mem_iff (a := group)
  constructor
  · intro h group hgroup date hdate
    have hnone := h group ((hmem group).2 hgroup)
    simp only at hnone
    split at hnone
    · cases hnone
    · rename_i hany
      by_contra hnot
      exact hany (List.any_eq_true.2 ⟨date, hdate, decide_eq_true hnot⟩)
  · intro h group hgroup
    simp only
    rw [if_neg]
    intro hany
    obtain ⟨date, hdate, hnot⟩ := List.any_eq_true.1 hany
    exact of_decide_eq_true hnot (h group ((hmem group).1 hgroup) date hdate)

variable {V : Type} [ValuedFloat K V] (texts : PyTexts K)

theorem perDate_get? {series : GroupReturnSeries K} (h : series.dates.Nodup)
    (hpoint : point ∈ series.observations) :
    (perDate series).get? point.observationDate = some point := by
  unfold perDate
  rw [Dict.get?_eq_some, Dict.items_ofList]
  · exact List.mem_map_of_mem (f := fun point => (point.observationDate, point)) hpoint
  · rw [List.map_map]
    exact h

/-- Every group has one observation for each of the dates, and for no other date. -/
def Covered (seriesByGroup : Dict String (GroupReturnSeries K)) (dates : List Date) : Prop :=
  ∀ key series, (key, series) ∈ seriesByGroup.items →
    series.dates.Nodup ∧ ∀ date, date ∈ series.dates ↔ date ∈ dates

theorem exists_weighedReturn {series : GroupReturnSeries K} (h : series.dates.Nodup)
    (hdate : date ∈ series.dates) :
    ∃ weighed, weighedReturn texts date (perDate series) = .ok weighed := by
  obtain ⟨point, hpoint, rfl⟩ := List.mem_map.1 hdate
  rw [weighedReturn, perDate_get? h hpoint]
  exact ⟨_, rfl⟩

/-- The reconciliation of covered dates raises nothing. -/
theorem exists_firstBreach {seriesByGroup : Dict String (GroupReturnSeries K)}
    (h : Covered seriesByGroup dates) (points : List (ReturnPoint K))
    (hpoints : ∀ point ∈ points, point.date ∈ dates) :
    ∃ flags, firstBreach texts (seriesByGroup.items.map (fun group => perDate group.2)) points =
      .ok flags := by
  induction points with
  | nil => exact ⟨[], rfl⟩
  | cons point points ih =>
    obtain ⟨flags, hflags⟩ := ih (fun point hpoint => hpoints point (List.mem_cons_of_mem _ hpoint))
    have hweighed := exists_mapM_ok (weighedReturn texts point.date) (fun _ => True)
      (seriesByGroup.items.map (fun group => perDate group.2)) (by
        intro observations hobservations
        obtain ⟨group, hgroup, rfl⟩ := List.mem_map.1 hobservations
        obtain ⟨hnodup, hdates⟩ := h group.1 group.2 hgroup
        obtain ⟨weighed, hok⟩ := exists_weighedReturn texts hnodup
          ((hdates point.date).2 (hpoints point List.mem_cons_self))
        exact ⟨weighed, hok, trivial⟩)
    obtain ⟨weighed, hok, -⟩ := hweighed
    unfold firstBreach reconciliationBreach
    rw [hok]
    dsimp only [bind, Except.bind]
    split
    · exact ⟨_, rfl⟩
    · exact ⟨flags, hflags⟩

variable [Field V]

/-- Weight times return of the group on the date, exactly. -/
def GroupReturnSeries.weighedReturnOn (series : GroupReturnSeries K) (date : Date) : V :=
  ((series.observations.filter (fun point => decide (point.observationDate = date))).map
    (fun point => ValuedFloat.value point.weightRatio * ValuedFloat.value point.returnPp)).sum

theorem weighedReturnOn_eq {series : GroupReturnSeries K} (h : series.dates.Nodup)
    (hpoint : point ∈ series.observations) : series.weighedReturnOn point.observationDate =
      ValuedFloat.value point.weightRatio * ValuedFloat.value point.returnPp := by
  have hfilter := filter_eq_singleton_of_nodup
    (fun point : GroupReturnObservation K => point.observationDate) h hpoint
  rw [GroupReturnSeries.weighedReturnOn, hfilter, List.map_singleton, List.sum_singleton]

/-- The sum over the groups of weight times return on the date. -/
def decomposedReturn (seriesByGroup : Dict String (GroupReturnSeries K)) (date : Date) : V :=
  (seriesByGroup.items.map (fun group => group.2.weighedReturnOn date)).sum

variable [LinearOrder V]

/-- The groups add up to the finite return of the portfolio, within a hundredth of a percentage
point. -/
def Reconciles (seriesByGroup : Dict String (GroupReturnSeries K)) (point : ReturnPoint K) :
    Prop :=
  ValuedFloat.isFinite point.value = true ∧
    |decomposedReturn seriesByGroup point.date - ValuedFloat.value point.value| ≤
      (1 : Nat) / (100 : Nat)

/-- The floats see no breach on any date, and on one of them hide it: they round the difference to
the tolerance or below it, or to a NaN, which exceeds nothing. -/
def HidesBreach (seriesByGroup : Dict String (GroupReturnSeries K))
    (portfolioReturns : List (ReturnPoint K)) : Prop :=
  reconciliationFlags texts seriesByGroup portfolioReturns = .ok [] ∧
    ∃ point ∈ portfolioReturns, ¬Reconciles seriesByGroup point

end Reconciliation

section Admission

variable {V : Type} [ValuedFloat K V] [ZeroTest K] [Field V] [LinearOrder V] (texts : PyTexts K)

/-- The groups of the pack are the expected ones, and on every date of the portfolio their
returns, weighed, add up to the portfolio's. -/
structure GroupEvidencePack.Decomposes (pack : GroupEvidencePack K)
    (expectedGroupKeyBySourceKey : Dict String String)
    (portfolioReturns : List (ReturnPoint K)) : Prop where
  groups : ∀ key, key ∈ pack.seriesByGroup.keys ↔
    key ∈ expectedGroupKeyBySourceKey.items.map Prod.snd
  labelled : ∀ key series, (key, series) ∈ pack.seriesByGroup.items → series.groupKey = key
  covered : Covered pack.seriesByGroup (portfolioReturns.map (fun point => point.date))
  finite : ∀ key series, (key, series) ∈ pack.seriesByGroup.items →
    ∀ observation ∈ series.observations, observation.Finite
  currency : ∃ currency, ∀ key series, (key, series) ∈ pack.seriesByGroup.items →
    series.currency = currency
  reconciled : ∀ point ∈ portfolioReturns, Reconciles pack.seriesByGroup point

/-- Nothing but a contract error leaves the parser, and an empirical pack decomposes the
portfolio. -/
def EvidenceSound (outcome : Except SourceException (GroupEvidencePack K))
    (expectedGroupKeyBySourceKey : Dict String String)
    (portfolioReturns : List (ReturnPoint K)) : Prop :=
  ErrorsIn IsContractError outcome ∧ ∀ pack, outcome = .ok pack → pack.empirical = true →
    pack.Decomposes expectedGroupKeyBySourceKey portfolioReturns

/-- The parser reaches a percentage that is an integer no float holds. -/
def OversizedEvidence (response : List (String × PyValue K)) (dimensionField : String)
    (expectedCurrency : Option String) (portfolioReturns : List (ReturnPoint K))
    (periodStart periodEnd : Date) (expectedGroupKeyBySourceKey : Dict String String) : Prop :=
  ∃ rows, extractPeriodRows malformed texts response dimensionField = .ok (some rows) ∧
    OversizedRows texts (portfolioReturns.map (fun point => point.date)).dedup periodStart periodEnd
      dimensionField expectedCurrency expectedGroupKeyBySourceKey rows

/-- The evidence that is collected without a flag, in one currency. -/
def Unflagged (response : List (String × PyValue K)) (dimensionField : String)
    (expectedCurrency : Option String) (portfolioReturns : List (ReturnPoint K))
    (periodStart periodEnd : Date) (expectedGroupKeyBySourceKey : Dict String String)
    (seriesByGroup : Dict String (GroupReturnSeries K)) : Prop :=
  ∃ rows flags, extractPeriodRows malformed texts response dimensionField = .ok (some rows) ∧
    collectRowEvidence texts (portfolioReturns.map (fun point => point.date)).dedup periodStart
      periodEnd dimensionField expectedCurrency expectedGroupKeyBySourceKey rows =
      .ok (seriesByGroup, flags) ∧
    ¬1 < (seriesByGroup.items.map (fun group => group.2.currency)).dedup.length ∧
    coverageFlags seriesByGroup flags (portfolioReturns.map (fun point => point.date)).dedup = []

omit [ValuedFloat K V] [ZeroTest K] [Field V] [LinearOrder V] in
/-- Without a flag, the groups cover the dates of the portfolio. -/
theorem coverageFlags_eq_nil {seriesByGroup : Dict String (GroupReturnSeries K)}
    (h : coverageFlags seriesByGroup flags windowDates = []) :
    flags = [] ∧ seriesByGroup.items ≠ [] ∧
      ∀ group ∈ seriesByGroup.items, ∀ date ∈ windowDates, date ∈ group.2.dates := by
  unfold coverageFlags at h
  obtain ⟨hflags, hcalendar⟩ := List.append_eq_nil_iff.1 h
  have hdates := calendarFlags_eq_nil.1 hcalendar
  split at hflags
  · cases hflags
  · rename_i hempty
    subst hflags
    refine ⟨rfl, ?_, ?_⟩
    · intro hitems
      rw [hitems] at hempty
      exact hempty rfl
    · intro group hgroup date hdate
      exact hdates group hgroup date
        ((List.perm_insertionSort (· ≤ ·) windowDates).mem_iff.2 hdate)

variable {texts} {periodStart periodEnd : Date} {portfolioReturns : List (ReturnPoint K)}
  {expectedGroupKeyBySourceKey : Dict String String}

omit [Field V] [LinearOrder V] in
/-- What an unflagged collection of rows says of its groups. -/
theorem covered_of_unflagged {collected : Dict String (GroupReturnSeries K) × List String}
    (h : collectRowEvidence texts (portfolioReturns.map (fun point => point.date)).dedup
      periodStart periodEnd dimensionField expectedCurrency expectedGroupKeyBySourceKey rows =
      .ok collected)
    (hflags : coverageFlags collected.1 collected.2
      (portfolioReturns.map (fun point => point.date)).dedup = []) :
    (∀ key, key ∈ collected.1.keys ↔ key ∈ expectedGroupKeyBySourceKey.items.map Prod.snd) ∧
      Covered collected.1 (portfolioReturns.map (fun point => point.date)) := by
  obtain ⟨hnil, _, hcalendar⟩ := coverageFlags_eq_nil hflags
  have hwithin := collectRowEvidence_within texts _ periodStart periodEnd h
  constructor
  · obtain ⟨seriesByGroup, flags⟩ := collected
    cases hnil
    exact collectRowEvidence_complete texts _ periodStart periodEnd h
  · intro key series hmem
    obtain ⟨_, hseries⟩ := hwithin key series hmem
    refine ⟨hseries.single, ?_⟩
    intro date
    constructor
    · intro hdate
      exact List.mem_dedup.1 (hseries.window date hdate)
    · intro hdate
      exact hcalendar (key, series) hmem date (List.mem_dedup.2 hdate)

omit [ValuedFloat K V] [ZeroTest K] [Field V] [LinearOrder V] in
theorem single_currency {seriesByGroup : Dict String (GroupReturnSeries K)}
    (h : ¬1 < (seriesByGroup.items.map (fun group => group.2.currency)).dedup.length) :
    ∃ currency, ∀ key series, (key, series) ∈ seriesByGroup.items →
      series.currency = currency := by
  have hmem : ∀ key series, (key, series) ∈ seriesByGroup.items →
      series.currency ∈ (seriesByGroup.items.map (fun group => group.2.currency)).dedup := by
    intro key series hseries
    exact List.mem_dedup.2 (List.mem_map_of_mem (f := fun group => group.2.currency) hseries)
  generalize (seriesByGroup.items.map (fun group => group.2.currency)).dedup = currencies at h hmem
  match currencies with
  | [] => exact ⟨"", fun key series hseries => by cases hmem key series hseries⟩
  | [currency] =>
    exact ⟨currency, fun key series hseries => List.mem_singleton.1 (hmem key series hseries)⟩
  | _ :: _ :: _ =>
    simp only [List.length_cons] at h
    omega

theorem eq_nil_of_eraseDups [DecidableEq α] {l : List α} (h : l.eraseDups = []) : l = [] := by
  apply List.eq_nil_iff_forall_not_mem.2
  intro a ha
  have hmem := List.mem_eraseDups.2 ha
  rw [h] at hmem
  cases hmem

omit [Field V] [LinearOrder V] in
/-- The last step never fails. -/
theorem exists_reconciliationFlags {collected : Dict String (GroupReturnSeries K) × List String}
    (h : collectRowEvidence texts (portfolioReturns.map (fun point => point.date)).dedup
      periodStart periodEnd dimensionField expectedCurrency expectedGroupKeyBySourceKey rows =
      .ok collected)
    (hflags : coverageFlags collected.1 collected.2
      (portfolioReturns.map (fun point => point.date)).dedup = []) :
    ∃ breach, reconciliationFlags texts collected.1 portfolioReturns = .ok breach := by
  obtain ⟨_, hcovered⟩ := covered_of_unflagged h hflags
  exact exists_firstBreach texts hcovered portfolioReturns
    (fun point hpoint => List.mem_map_of_mem (f := fun point => point.date) hpoint)

omit [Field V] [LinearOrder V] in
theorem errorsIn_parseGroupEvidence (response : List (String × PyValue K))
    (groupingDimension : GroupingDimension) (dimensionField : String)
    (expectedCurrency : Option String) :
    ErrorsIn IsContractError (parseGroupEvidence texts response groupingDimension dimensionField
        expectedCurrency portfolioReturns periodStart periodEnd expectedGroupKeyBySourceKey) ↔
      ¬OversizedEvidence texts response dimensionField expectedCurrency portfolioReturns
        periodStart periodEnd expectedGroupKeyBySourceKey := by
  have hcollect := errorsIn_collectRowEvidence texts
    (portfolioReturns.map (fun point => point.date)).dedup periodStart periodEnd dimensionField
    expectedCurrency expectedGroupKeyBySourceKey
  unfold parseGroupEvidence
  simp only
  rw [errorsIn_bind]
  constructor
  · rintro ⟨_, h⟩ ⟨rows, hrows, hlarge⟩
    have h := h (some rows) hrows
    exact (hcollect rows).1 (errorsIn_bind.1 h).1 hlarge
  · intro h
    refine ⟨errorsIn_extractPeriodRows texts response dimensionField, ?_⟩
    intro rows hrows
    cases rows with
    | none => exact errorsIn_ok _
    | some rows =>
      simp only
      rw [errorsIn_bind]
      refine ⟨(hcollect rows).2 (fun hlarge => h ⟨rows, hrows, hlarge⟩), ?_⟩
      intro collected hcollected
      apply errorsIn_ite
      · intro _
        exact errorsIn_malformed _
      · intro _
        rw [errorsIn_bind]
        refine ⟨?_, fun _ _ => errorsIn_ok _⟩
        apply errorsIn_ite
        · intro hflags
          obtain ⟨breach, hbreach⟩ :=
            exists_reconciliationFlags hcollected (List.isEmpty_iff.1 hflags)
          rw [hbreach]
          exact errorsIn_ok _
        · intro _
          exact errorsIn_ok _

omit [Field V] [LinearOrder V] in
/-- Unflagged evidence makes an empirical pack if the floats see no breach. -/
theorem parseGroupEvidence_of_unflagged (groupingDimension : GroupingDimension)
    {seriesByGroup : Dict String (GroupReturnSeries K)}
    (h : Unflagged texts response dimensionField expectedCurrency portfolioReturns periodStart
      periodEnd expectedGroupKeyBySourceKey seriesByGroup)
    (hsilent : reconciliationFlags texts seriesByGroup portfolioReturns = .ok []) :
    ∃ pack, parseGroupEvidence texts response groupingDimension dimensionField expectedCurrency
        portfolioReturns periodStart periodEnd expectedGroupKeyBySourceKey = .ok pack ∧
      pack.empirical = true ∧ pack.seriesByGroup = seriesByGroup := by
  obtain ⟨rows, flags, hrows, hcollected, hcurrencies, hflags⟩ := h
  obtain ⟨_, hitems, _⟩ := coverageFlags_eq_nil hflags
  unfold parseGroupEvidence
  rw [hrows]
  dsimp only [bind, Except.bind]
  rw [hcollected]
  dsimp only
  rw [if_neg hcurrencies, hflags]
  have hbreach : breachFlags texts seriesByGroup [] portfolioReturns = .ok [] := hsilent
  rw [hbreach]
  refine ⟨_, rfl, ?_, rfl⟩
  unfold GroupEvidencePack.empirical
  rw [Bool.and_eq_true, Bool.not_eq_true', List.isEmpty_eq_false_iff]
  exact ⟨rfl, hitems⟩

omit [Field V] [LinearOrder V] in
/-- An empirical pack is unflagged evidence in which the floats see no breach. -/
theorem unflagged_of_empirical (hok : parseGroupEvidence texts response groupingDimension
      dimensionField expectedCurrency portfolioReturns periodStart periodEnd
      expectedGroupKeyBySourceKey = .ok pack) (h : pack.empirical = true) :
    Unflagged texts response dimensionField expectedCurrency portfolioReturns periodStart periodEnd
      expectedGroupKeyBySourceKey pack.seriesByGroup ∧
      reconciliationFlags texts pack.seriesByGroup portfolioReturns = .ok [] := by
  unfold parseGroupEvidence at hok
  simp only at hok
  obtain ⟨rows, hrows, hok⟩ := bind_eq_ok.1 hok
  cases rows with
  | none =>
    cases hok
    cases h
  | some rows =>
    obtain ⟨collected, hcollected, hok⟩ := bind_eq_ok.1 hok
    split at hok
    · cases hok
    rename_i hcurrencies
    obtain ⟨breach, hbreach, hok⟩ := bind_eq_ok.1 hok
    cases hok
    unfold GroupEvidencePack.empirical at h
    obtain ⟨hempty, _⟩ := Bool.and_eq_true_iff.1 h
    obtain ⟨hflags, rfl⟩ :=
      List.append_eq_nil_iff.1 (eq_nil_of_eraseDups (List.isEmpty_iff.1 hempty))
    unfold breachFlags at hbreach
    rw [if_pos (List.isEmpty_iff.2 hflags)] at hbreach
    exact ⟨⟨rows, collected.2, hrows, hcollected, hcurrencies, hflags⟩, hbreach⟩

/-- Unflagged evidence decomposes the portfolio where the groups add up on each date. -/
theorem decomposes_of_unflagged {pack : GroupEvidencePack K}
    (h : Unflagged texts response dimensionField expectedCurrency portfolioReturns periodStart
      periodEnd expectedGroupKeyBySourceKey pack.seriesByGroup)
    (hreconciled : ∀ point ∈ portfolioReturns, Reconciles pack.seriesByGroup point) :
    pack.Decomposes expectedGroupKeyBySourceKey portfolioReturns := by
  obtain ⟨rows, flags, _, hcollected, hcurrencies, hflags⟩ := h
  obtain ⟨hgroups, hcovered⟩ := covered_of_unflagged hcollected hflags
  have hwithin := collectRowEvidence_within texts _ periodStart periodEnd hcollected
  exact {
    groups := hgroups
    labelled := fun key series hmem => (hwithin key series hmem).1
    covered := hcovered
    finite := fun key series hmem => (hwithin key series hmem).2.finite
    currency := single_currency hcurrencies
    reconciled := hreconciled }

end Admission

section Unsound

instance (seriesByGroup : Dict String (GroupReturnSeries Float)) (point : ReturnPoint Float) :
    Decidable (Reconciles seriesByGroup point) :=
  inferInstanceAs (Decidable (_ ∧ _))

/-- A group that is observed on one day. -/
def observedRow (group : String) (returnPct portfolioWeightPct : PyValue Float) : PyValue Float :=
  .dict [
    ("key", .dict [("sector", .str group)]),
    ("group_return", .dict [
      ("status", .str "READY"),
      ("return_basis", .str "SOURCE_POSITION_VALUATION_TWR"),
      ("weight_basis", .str "BEGINNING_CAPITAL_RATIO"),
      ("currency", .str "USD"),
      ("series", .list [.dict [
        ("date", .str "2026-01-05"),
        ("return_pct", returnPct),
        ("portfolio_weight_pct", portfolioWeightPct)]])])]

def sectorResponse (rows : List (PyValue Float)) : List (String × PyValue Float) :=
  [("results_by_period", .dict [("EXPLICIT", .dict [("levels", .list [.dict [
    ("name", .str "sector"), ("rows", .list rows)]])])])]

def sectorEvidence (groups : List (String × String)) (portfolioReturn : Float)
    (rows : List (PyValue Float)) : Except SourceException (GroupEvidencePack Float) :=
  parseGroupEvidence plainTexts (sectorResponse rows) .sector "sector" (some "USD")
    [⟨firstMonday, portfolioReturn⟩] firstMonday firstMonday (Dict.ofList groups)

example : (sectorEvidence [("Technology", "Technology")] 1
    [observedRow "Technology" (.int 1) (.int 100)]).toOption.any (fun pack =>
      pack.empirical && decide (Reconciles pack.seriesByGroup ⟨firstMonday, 1⟩)) = true := by
  decide +kernel

/-- The `OverflowError` of `float`. -/
def overflows (outcome : Except SourceException α) : Bool :=
  match outcome with
  | .error (.python (.overflowError _)) => true
  | _ => false

theorem not_contract_of_overflows {outcome : Except SourceException α}
    (h : overflows outcome = true) : ¬ErrorsIn IsContractError outcome := by
  unfold overflows at h
  split at h
  · intro hcontract
    exact overflow_not_contract _ (errorsIn_error.1 hcontract)
  · cases h

/-- The pack is admitted as empirical, and does not add up on the date. -/
def admitsBreach (outcome : Except SourceException (GroupEvidencePack Float))
    (point : ReturnPoint Float) : Bool :=
  outcome.toOption.any (fun pack =>
    pack.empirical && !decide (Reconciles pack.seriesByGroup point))

theorem unsound_of_admitsBreach {outcome : Except SourceException (GroupEvidencePack Float)}
    (hpoint : point ∈ portfolioReturns) (h : admitsBreach outcome point = true) :
    ¬EvidenceSound outcome expectedGroupKeyBySourceKey portfolioReturns := by
  intro hsound
  cases outcome with
  | error e => cases h
  | ok pack =>
    obtain ⟨hempirical, hbreach⟩ := Bool.and_eq_true_iff.1 h
    rw [Bool.not_eq_true', decide_eq_false_iff_not] at hbreach
    exact hbreach ((hsound.2 pack rfl hempirical).reconciled point hpoint)

end Unsound

end LotusRisk
