import LotusRisk.Lib.Raising
import LotusRisk.Attribution.GroupEvidence

namespace LotusRisk
set_option autoImplicit true

open Relational Raising

variable {K : Type}

/-- The errors of a contribution response that breaks its contract. -/
def IsContractError (e : SourceException) : Prop := ∃ message, e = malformed message

theorem errorsIn_malformed (message : String) :
    ErrorsIn IsContractError (.error (malformed message) : Except SourceException α) :=
  errorsIn_error.2 ⟨message, rfl⟩

theorem errorsIn_ite [Decidable c] {x y : Except SourceException α}
    (hx : c → ErrorsIn IsContractError x) (hy : ¬c → ErrorsIn IsContractError y) :
    ErrorsIn IsContractError (if c then x else y) := by
  split
  · exact hx ‹_›
  · exact hy ‹_›

section ContributionResponse

variable (texts : PyTexts K)

theorem errorsIn_explicitLevels (response : List (String × PyValue K)) :
    ErrorsIn IsContractError (explicitLevels malformed response) := by
  unfold explicitLevels
  split
  · exact errorsIn_malformed _
  · split
    · exact errorsIn_ok _
    · split
      · exact errorsIn_ok _
      · exact errorsIn_malformed _
    · exact errorsIn_malformed _
  · exact errorsIn_malformed _

theorem errorsIn_levelName (level : PyValue K) :
    ErrorsIn IsContractError (levelName malformed level) := by
  unfold levelName
  split
  · split
    · exact errorsIn_ok _
    · exact errorsIn_malformed _
  · exact errorsIn_malformed _

theorem errorsIn_levelRows (level : List (String × PyValue K)) (dimensionField : String) :
    ErrorsIn IsContractError (levelRows malformed texts level dimensionField) := by
  unfold levelRows
  split
  · split
    · exact errorsIn_ok _
    · exact errorsIn_malformed _
  · exact errorsIn_malformed _

theorem errorsIn_requestedLevelRows (dimensionField : String) (levels : List (PyValue K)) :
    ErrorsIn IsContractError (requestedLevelRows malformed texts dimensionField levels) := by
  induction levels with
  | nil => exact errorsIn_malformed _
  | cons level levels ih =>
    unfold requestedLevelRows
    rw [errorsIn_bind]
    refine ⟨errorsIn_levelName level, ?_⟩
    intro named _
    apply errorsIn_ite
    · intro _
      exact errorsIn_levelRows texts named.2 dimensionField
    · intro _
      exact ih

theorem errorsIn_extractPeriodRows (response : List (String × PyValue K))
    (dimensionField : String) :
    ErrorsIn IsContractError (extractPeriodRows malformed texts response dimensionField) := by
  unfold extractPeriodRows
  rw [errorsIn_bind]
  refine ⟨errorsIn_explicitLevels response, ?_⟩
  intro levels _
  cases levels with
  | none => exact errorsIn_ok _
  | some levels =>
    rw [errorsIn_bind]
    exact ⟨errorsIn_requestedLevelRows texts dimensionField levels, fun _ _ => errorsIn_ok _⟩

end ContributionResponse

section Fields

variable (texts : PyTexts K)

theorem errorsIn_parseObservationDate (value : PyValue K) (groupKey : String) :
    ErrorsIn IsContractError (parseObservationDate texts value groupKey) := by
  unfold parseObservationDate
  split
  · exact errorsIn_ok _
  · split
    · exact errorsIn_ok _
    · exact errorsIn_malformed _
  · exact errorsIn_malformed _

theorem errorsIn_groupKeyFromRow (row : List (String × PyValue K)) (dimensionField : String) :
    ErrorsIn IsContractError (groupKeyFromRow texts row dimensionField) := by
  unfold groupKeyFromRow
  split
  · split
    · exact errorsIn_malformed _
    · exact errorsIn_ite (fun _ => errorsIn_malformed _) (fun _ => errorsIn_ok _)
  · exact errorsIn_malformed _

theorem errorsIn_validatedSeriesCurrency (rowEvidence : List (String × PyValue K))
    (groupKey : String) (expectedCurrency : Option String) :
    ErrorsIn IsContractError
      (validatedSeriesCurrency texts rowEvidence groupKey expectedCurrency) := by
  unfold validatedSeriesCurrency
  split
  · apply errorsIn_ite
    · intro _
      exact errorsIn_malformed _
    · intro _
      split
      · exact errorsIn_ite (fun _ => errorsIn_ok _) (fun _ => errorsIn_malformed _)
      · exact errorsIn_ok _
  · exact errorsIn_malformed _

theorem errorsIn_readyHeader (windowDates : List Date) (rowEvidence : List (String × PyValue K))
    (groupKey : String) (expectedCurrency : Option String) :
    ErrorsIn IsContractError
      (readyHeader texts windowDates rowEvidence groupKey expectedCurrency) := by
  unfold readyHeader
  apply errorsIn_ite
  · intro _
    exact errorsIn_malformed _
  · intro _
    apply errorsIn_ite
    · intro _
      exact errorsIn_malformed _
    · intro _
      rw [errorsIn_bind]
      refine ⟨errorsIn_validatedSeriesCurrency texts rowEvidence groupKey expectedCurrency, ?_⟩
      intro currency _
      split
      · exact errorsIn_ite (fun _ => errorsIn_malformed _) (fun _ => errorsIn_ok _)
      · exact errorsIn_malformed _

theorem errorsIn_rowGroup (dimensionField : String) (expected : Dict String String)
    (state : RowEvidence K) (row : List (String × PyValue K)) :
    ErrorsIn IsContractError (rowGroup texts dimensionField expected state row) := by
  unfold rowGroup
  rw [errorsIn_bind]
  refine ⟨errorsIn_groupKeyFromRow texts row dimensionField, ?_⟩
  intro sourceGroupKey _
  apply errorsIn_ite
  · intro _
    exact errorsIn_malformed _
  · intro _
    split
    · exact errorsIn_malformed _
    · exact errorsIn_ite (fun _ => errorsIn_malformed _) (fun _ => errorsIn_ok _)

theorem errorsIn_rowReturnEvidence (sourceGroupKey : String) (row : List (String × PyValue K)) :
    ErrorsIn IsContractError (rowReturnEvidence texts sourceGroupKey row) := by
  unfold rowReturnEvidence
  split
  · apply errorsIn_ite
    · intro _
      exact errorsIn_ok _
    · intro _
      exact errorsIn_ite (fun _ => errorsIn_ok _) (fun _ => errorsIn_malformed _)
  · exact errorsIn_malformed _

end Fields

section Oversized

variable {V : Type} [ValuedFloat K V] (texts : PyTexts K)

/-- An integer that no float holds. -/
def oversized (value : PyValue K) : Bool :=
  match value with
  | .int i => beyondFloat i
  | _ => false

theorem overflow_not_contract (message : String) :
    ¬IsContractError (.python (.overflowError message)) := by
  rintro ⟨_, h⟩
  cases h

theorem errorsIn_finite (raw : PyValue K) (field groupKey : String) :
    ErrorsIn IsContractError (finite texts raw field groupKey) ↔ oversized raw = false := by
  have hread : texts.toFloat raw = .error .overflow ↔ oversized raw = true := by
    unfold PyTexts.toFloat oversized
    cases raw with
    | int i =>
      cases hi : beyondFloat i with
      | true => simp [hi]
      | false => simp [hi]
    | str s =>
      simp only [Bool.false_eq_true, iff_false]
      split
      · exact nofun
      · exact nofun
    | none | bool | float | date | list | dict => simp
  rw [← Bool.not_eq_true, ← hread]
  unfold finite
  cases h : texts.toFloat raw with
  | ok number =>
    cases number with
    | finite number =>
      refine iff_of_true ?_ nofun
      exact errorsIn_ite (fun _ => errorsIn_ok _) (fun _ => errorsIn_malformed _)
    | nonFinite => exact iff_of_true (errorsIn_malformed _) nofun
  | error failure =>
    cases failure with
    | invalid => exact iff_of_true (errorsIn_malformed _) nofun
    | overflow =>
      apply iff_of_false
      · intro hcontract
        exact overflow_not_contract _ (errorsIn_error.1 hcontract)
      · intro hne
        exact hne rfl

variable (windowDates : List Date) (periodStart periodEnd : Date)

/-- The point is of the window and new, and one of its two percentages is an integer that no
float holds, the other being read before it or not read at all. -/
def OversizedPoint (groupKey : String) (seenDates : List Date) (rawPoint : PyValue K) : Prop :=
  ∃ point date, rawPoint = .dict point ∧
    parseObservationDate texts (getEntry point "date") groupKey = .ok date ∧
    date ∉ seenDates ∧ inAnalysedWindow windowDates periodStart periodEnd date = true ∧
    (oversized (getEntry point "return_pct") = true ∨
      ((∃ returnPp, finite texts (getEntry point "return_pct") "return_pct" groupKey =
        .ok returnPp) ∧ oversized (getEntry point "portfolio_weight_pct") = true))

theorem errorsIn_percentages (returnPct weightPct : PyValue K) (groupKey : String)
    (observationDate : Date) :
    ErrorsIn IsContractError (do
        let returnPp ← finite texts returnPct "return_pct" groupKey
        let weightPct ← finite texts weightPct "portfolio_weight_pct" groupKey
        .ok (⟨observationDate, returnPp, FloatOps.div weightPct (FloatOps.ofInt 100)⟩ :
          GroupReturnObservation K)) ↔
      ¬(oversized returnPct = true ∨
        ((∃ returnPp, finite texts returnPct "return_pct" groupKey = .ok returnPp) ∧
          oversized weightPct = true)) := by
  rw [errorsIn_bind, errorsIn_finite, not_or, Bool.not_eq_true]
  apply and_congr_right
  intro _
  constructor
  · rintro h ⟨⟨returnPp, hreturn⟩, hweight⟩
    have hfine := (errorsIn_finite texts weightPct _ groupKey).1
      (errorsIn_bind.1 (h returnPp hreturn)).1
    exact Bool.false_ne_true (hfine.symm.trans hweight)
  · intro h returnPp hreturn
    have hfine : oversized weightPct = false :=
      Bool.eq_false_iff.2 (fun hweight => h ⟨⟨returnPp, hreturn⟩, hweight⟩)
    exact errorsIn_bind.2 ⟨(errorsIn_finite texts weightPct _ groupKey).2 hfine,
      fun _ _ => errorsIn_ok _⟩

theorem errorsIn_parseObservation (groupKey : String) (seenDates : List Date)
    (rawPoint : PyValue K) :
    ErrorsIn IsContractError (parseObservation texts windowDates periodStart periodEnd groupKey
        seenDates rawPoint) ↔
      ¬OversizedPoint texts windowDates periodStart periodEnd groupKey seenDates rawPoint := by
  cases rawPoint with
  | dict point =>
    unfold parseObservation
    rw [errorsIn_bind]
    constructor
    · rintro ⟨_, h⟩ ⟨point', date, hpoint, hdate, hseen, hwindow, hlarge⟩
      cases hpoint
      have h := h date hdate
      rw [if_neg hseen, if_pos hwindow] at h
      exact (errorsIn_percentages texts _ _ groupKey date).1 h hlarge
    · intro h
      refine ⟨errorsIn_parseObservationDate texts _ groupKey, ?_⟩
      intro date hdate
      apply errorsIn_ite
      · intro _
        exact errorsIn_malformed _
      · intro hseen
        apply errorsIn_ite
        · intro hwindow
          apply (errorsIn_percentages texts _ _ groupKey date).2
          intro hlarge
          exact h ⟨point, date, rfl, hdate, hseen, hwindow, hlarge⟩
        · intro _
          exact errorsIn_malformed _
  | none | bool | int | float | str | date | list =>
    apply iff_of_true (errorsIn_malformed _)
    rintro ⟨point, date, h, _⟩
    cases h

/-- A point of the series is reached whose percentage no float holds. -/
def OversizedSeries (groupKey : String) (rawSeries : List (PyValue K)) : Prop :=
  ∃ before rawPoint after read, rawSeries = before ++ rawPoint :: after ∧
    readObservations texts windowDates periodStart periodEnd groupKey before = .ok read ∧
    OversizedPoint texts windowDates periodStart periodEnd groupKey read.seenDates rawPoint

theorem errorsIn_readObservation (groupKey : String) (state : SeriesRead K)
    (rawPoint : PyValue K) :
    ErrorsIn IsContractError
        (readObservation texts windowDates periodStart periodEnd groupKey state rawPoint) ↔
      ¬OversizedPoint texts windowDates periodStart periodEnd groupKey state.seenDates
        rawPoint := by
  unfold readObservation
  rw [errorsIn_bind, errorsIn_parseObservation]
  exact and_iff_left (fun _ _ => errorsIn_ok _)

theorem errorsIn_readObservations (groupKey : String) (rawSeries : List (PyValue K)) :
    ErrorsIn IsContractError
        (readObservations texts windowDates periodStart periodEnd groupKey rawSeries) ↔
      ¬OversizedSeries texts windowDates periodStart periodEnd groupKey rawSeries := by
  unfold readObservations
  rw [errorsIn_foldlM]
  constructor
  · rintro h ⟨before, rawPoint, after, read, hsplit, hbefore, hlarge⟩
    exact (errorsIn_readObservation texts windowDates periodStart periodEnd groupKey read
      rawPoint).1 (h before rawPoint after read hsplit hbefore) hlarge
  · intro h before rawPoint after read hsplit hbefore
    apply (errorsIn_readObservation texts windowDates periodStart periodEnd groupKey read
      rawPoint).2
    intro hlarge
    exact h ⟨before, rawPoint, after, read, hsplit, hbefore, hlarge⟩

theorem errorsIn_parseReadySeries (rowEvidence : List (String × PyValue K)) (groupKey : String)
    (expectedCurrency : Option String) :
    ErrorsIn IsContractError (parseReadySeries texts windowDates periodStart periodEnd rowEvidence
        groupKey expectedCurrency) ↔
      ∀ header, readyHeader texts windowDates rowEvidence groupKey expectedCurrency = .ok header →
        ¬OversizedSeries texts windowDates periodStart periodEnd groupKey header.2 := by
  unfold parseReadySeries
  rw [errorsIn_bind]
  constructor
  · rintro ⟨_, h⟩ header hheader
    exact (errorsIn_readObservations texts windowDates periodStart periodEnd groupKey header.2).1
      (errorsIn_bind.1 (h header hheader)).1
  · intro h
    refine ⟨errorsIn_readyHeader texts windowDates rowEvidence groupKey expectedCurrency, ?_⟩
    intro header hheader
    rw [errorsIn_bind]
    exact ⟨(errorsIn_readObservations texts windowDates periodStart periodEnd groupKey header.2).2
      (h header hheader), fun _ _ => errorsIn_ok _⟩

variable [ZeroTest K]

/-- The series of a row is read, and a point of it is reached whose percentage no float holds. -/
def OversizedRow (dimensionField : String) (expectedCurrency : Option String)
    (expectedGroupKeyBySourceKey : Dict String String) (state : RowEvidence K)
    (row : List (String × PyValue K)) : Prop :=
  (getEntry row "is_other").truthy = false ∧
  ∃ group rowEvidence header,
    rowGroup texts dimensionField expectedGroupKeyBySourceKey state row = .ok group ∧
    rowReturnEvidence texts group.1 row = .ok (some rowEvidence) ∧
    readyHeader texts windowDates rowEvidence group.2 expectedCurrency = .ok header ∧
    OversizedSeries texts windowDates periodStart periodEnd group.2 header.2

theorem errorsIn_collectRow (dimensionField : String) (expectedCurrency : Option String)
    (expectedGroupKeyBySourceKey : Dict String String) (state : RowEvidence K)
    (row : List (String × PyValue K)) :
    ErrorsIn IsContractError (collectRow texts windowDates periodStart periodEnd dimensionField
        expectedCurrency expectedGroupKeyBySourceKey state row) ↔
      ¬OversizedRow texts windowDates periodStart periodEnd dimensionField expectedCurrency
        expectedGroupKeyBySourceKey state row := by
  unfold collectRow
  cases hother : (getEntry row "is_other").truthy with
  | true =>
    apply iff_of_true
    · exact errorsIn_ok _
    · intro h
      exact Bool.false_ne_true (h.1.symm.trans hother)
  | false =>
    rw [if_neg Bool.false_ne_true, errorsIn_bind]
    constructor
    · rintro ⟨_, h⟩ ⟨_, group, rowEvidence, header, hgroup, hevidence, hheader, hlarge⟩
      have h := (errorsIn_bind.1 (h group hgroup)).2 (some rowEvidence) hevidence
      exact (errorsIn_parseReadySeries texts windowDates periodStart periodEnd rowEvidence group.2
        expectedCurrency).1 (errorsIn_bind.1 h).1 header hheader hlarge
    · intro h
      refine ⟨errorsIn_rowGroup texts dimensionField expectedGroupKeyBySourceKey state row, ?_⟩
      intro group hgroup
      rw [errorsIn_bind]
      refine ⟨errorsIn_rowReturnEvidence texts group.1 row, ?_⟩
      intro evidence hevidence
      cases evidence with
      | none => exact errorsIn_ok _
      | some rowEvidence =>
        rw [errorsIn_bind]
        refine ⟨?_, fun _ _ => errorsIn_ok _⟩
        apply (errorsIn_parseReadySeries texts windowDates periodStart periodEnd rowEvidence
          group.2 expectedCurrency).2
        intro header hheader hlarge
        exact h ⟨hother, group, rowEvidence, header, hgroup, hevidence, hheader, hlarge⟩

/-- A row is reached of which a percentage is an integer that no float holds. -/
def OversizedRows (dimensionField : String) (expectedCurrency : Option String)
    (expectedGroupKeyBySourceKey : Dict String String)
    (rows : List (List (String × PyValue K))) : Prop :=
  ∃ before row after state, rows = before ++ row :: after ∧
    collectRows texts windowDates periodStart periodEnd dimensionField expectedCurrency
      expectedGroupKeyBySourceKey before = .ok state ∧
    OversizedRow texts windowDates periodStart periodEnd dimensionField expectedCurrency
      expectedGroupKeyBySourceKey state row

theorem errorsIn_collectRowEvidence (dimensionField : String) (expectedCurrency : Option String)
    (expectedGroupKeyBySourceKey : Dict String String)
    (rows : List (List (String × PyValue K))) :
    ErrorsIn IsContractError (collectRowEvidence texts windowDates periodStart periodEnd
        dimensionField expectedCurrency expectedGroupKeyBySourceKey rows) ↔
      ¬OversizedRows texts windowDates periodStart periodEnd dimensionField expectedCurrency
        expectedGroupKeyBySourceKey rows := by
  have hstep := errorsIn_collectRow texts windowDates periodStart periodEnd dimensionField
    expectedCurrency expectedGroupKeyBySourceKey
  unfold collectRowEvidence collectRows
  rw [errorsIn_bind, errorsIn_foldlM]
  constructor
  · rintro ⟨h, _⟩ ⟨before, row, after, state, hsplit, hbefore, hlarge⟩
    exact (hstep state row).1 (h before row after state hsplit hbefore) hlarge
  · intro h
    constructor
    · intro before row after state hsplit hbefore
      apply (hstep state row).2
      intro hlarge
      exact h ⟨before, row, after, state, hsplit, hbefore, hlarge⟩
    · intro state _
      exact errorsIn_ite (fun _ => errorsIn_ok _) (fun _ => errorsIn_ok _)

end Oversized

end LotusRisk
