import LotusRisk.Lib.Raising
import LotusRisk.Risk.SourceReturns

/-! What admitted returns are: every consumed point, and no other row, is covered. -/

namespace LotusRisk
set_option autoImplicit true

open Raising

variable {K : Type}

section PeriodEnds

/-- The date ends a period of the frequency; days are trading days. -/
def Frequency.IsPeriodEnd (frequency : Frequency) (d : Date) : Prop :=
  frequency.bucketEnd (frequency.bucket d) = some d ∧ (frequency = .daily → isTradingDay d = true)

theorem weekday_eq_four_iff (d : Date) : d.weekday = 4 ↔ d.toordinal % 7 = 5 := by
  rw [Date.weekday]
  omega

/-- The dates that match a frequency are the ends of its periods. -/
theorem dateMatchesFrequency_iff : dateMatchesFrequency d frequency = true ↔
    frequency.IsPeriodEnd d := by
  cases frequency with
  | daily =>
    constructor
    · intro h
      exact ⟨Date.fromordinal_toordinal d, fun _ => h⟩
    · intro h
      exact h.2 rfl
  | weekly =>
    rw [dateMatchesFrequency, decide_eq_true_iff, weekday_eq_four_iff, Frequency.IsPeriodEnd,
      Frequency.bucketEnd, Frequency.bucket, Date.fromordinal_eq_some]
    constructor
    · intro h
      exact ⟨by omega, fun hdaily => by cases hdaily⟩
    · rintro ⟨h, _⟩
      omega
  | monthly =>
    obtain ⟨hy, hm⟩ := Frequency.month_bucket d
    rw [dateMatchesFrequency, decide_eq_true_iff, Frequency.IsPeriodEnd, Frequency.bucketEnd,
      Frequency.bucket, hy, hm, dateOfFields?_eq_some]
    constructor
    · intro h
      exact ⟨⟨rfl, rfl, h⟩, fun hdaily => by cases hdaily⟩
    · rintro ⟨⟨_, _, h⟩, _⟩
      exact h

/-- A period ends after it starts, and all its days are between. -/
theorem bucketStart_spec (h : frequency.bucketEnd (frequency.bucket d) = some d) :
    frequency.bucket (bucketStart d frequency) = frequency.bucket d ∧ bucketStart d frequency ≤ d ∧
      ∀ day, frequency.bucket day = frequency.bucket d → bucketStart d frequency ≤ day := by
  cases frequency with
  | daily =>
    refine ⟨rfl, le_rfl, ?_⟩
    intro day hday
    exact (Date.toordinal_injective hday).ge
  | weekly =>
    have hfriday := Date.fromordinal_eq_some.1 h
    simp only [Frequency.bucket] at hfriday
    have hmax := d.toordinal_le
    obtain ⟨start, hstart, hordinal⟩ := exists_fromordinal (n := max 1 (d.toordinal - 6))
      (le_max_left _ _) (by rw [maxOrdinal] at hmax ⊢; omega)
    have heq : bucketStart d .weekly = start := by
      rw [bucketStart, hstart, Option.getD_some]
    have hpos := d.toordinal_pos
    rw [heq]
    simp only [Frequency.bucket]
    refine ⟨by omega, ?_, ?_⟩
    · apply Date.toordinal_strictMono.le_iff_le.1
      omega
    · intro day hday
      have hdaypos := day.toordinal_pos
      apply Date.toordinal_strictMono.le_iff_le.1
      omega
  | monthly =>
    have hvalid := d.valid
    have hdays : 1 ≤ daysInMonth d.year d.month := hvalid.2.2.2.2.1.trans hvalid.2.2.2.2.2
    have heq : bucketStart d .monthly = ⟨d.year, d.month, 1, hvalid.1, hvalid.2.1, hvalid.2.2.1,
        hvalid.2.2.2.1, le_rfl, hdays⟩ := by
      rw [bucketStart, dateOfFields?, dif_pos ⟨hvalid.1, hvalid.2.1, hvalid.2.2.1,
        hvalid.2.2.2.1, le_rfl, hdays⟩, Option.getD_some]
    rw [heq]
    refine ⟨rfl, ?_, ?_⟩
    · apply not_lt.1
      intro hlt
      rcases Date.lt_iff_fields.1 hlt with hlt | ⟨_, hlt | ⟨_, hlt⟩⟩
      · exact absurd hlt (lt_irrefl _)
      · exact absurd hlt (lt_irrefl _)
      · simp only at hlt
        omega
    · intro day hday
      obtain ⟨hy, hm⟩ := Frequency.month_bucket day
      obtain ⟨hy', hm'⟩ := Frequency.month_bucket d
      simp only [Frequency.bucket] at hday
      rw [hday] at hy hm
      have hday₁ := day.valid.2.2.2.2.1
      apply not_lt.1
      intro hlt
      rcases Date.lt_iff_fields.1 hlt with hlt | ⟨_, hlt | ⟨_, hlt⟩⟩ <;> simp only at hlt <;> omega

end PeriodEnds

section Rows

variable [Field K] (texts : PyTexts K) (float : K → PyNumber K)

omit [Field K] in
/-- The date of a row that is counted; the other rows are dropped. -/
def countedDate (frequency : Frequency) (row : PyValue K) : Option Date :=
  match row with
  | .dict entries =>
    match getEntry entries "date" with
    | .str rawDate =>
      (texts.fromisoformat rawDate).filter (fun d => dateMatchesFrequency d frequency)
    | _ => none
  | _ => none

/-- A point takes its date and a finite value from a row. -/
def ReadFrom (frequency : Frequency) (row : PyValue K) (point : ReturnPoint K) : Prop :=
  countedDate texts frequency row = some point.date ∧ ∃ entries decimalValue, row = .dict entries ∧
    texts.toDecimal (getEntry entries "return_value") = some (.finite decimalValue) ∧
    float (inPercent decimalValue) = .finite point.value

variable {texts float}

theorem decimalReturnToPercentagePoints_eq_ok
    (h : decimalReturnToPercentagePoints texts float value = .ok number) :
    ∃ x, texts.toDecimal value = some (.finite x) ∧ number = float (inPercent x) := by
  rw [decimalReturnToPercentagePoints] at h
  split at h
  · cases h
  · cases h
  · rename_i x hx
    cases h
    exact ⟨x, hx, rfl⟩

omit [Field K] in
theorem returnPoint_eq_ok {number : PyNumber K} (h : returnPoint date number = .ok point) :
    point.date = date ∧ number = .finite point.value := by
  cases number with
  | finite value =>
    cases h
    exact ⟨rfl, rfl⟩
  | nonFinite => cases h

/-- A row is dropped, or adds a point on a date that no earlier row has. -/
theorem readReturnRow_spec (h : readReturnRow texts float frequency result row = .ok next) :
    (countedDate texts frequency row = none ∧ next = result) ∨
    ∃ point, ReadFrom texts float frequency row point ∧
      point.date ∉ result.map ReturnPoint.date ∧ next = result ++ [point] := by
  cases row with
  | dict entries =>
    rw [readReturnRow] at h
    cases hdate : getEntry entries "date" with
    | str rawDate =>
      rw [hdate] at h
      simp only at h
      cases hparsed : texts.fromisoformat rawDate with
      | none =>
        rw [hparsed] at h
        cases h
      | some parsedDate =>
        rw [hparsed] at h
        simp only at h
        have hcounted : countedDate texts frequency (.dict entries) =
            (some parsedDate).filter (fun d => dateMatchesFrequency d frequency) := by
          simp only [countedDate, hdate, hparsed]
        by_cases hmatch : dateMatchesFrequency parsedDate frequency = true
        · rw [hmatch, Bool.not_true, if_neg Bool.false_ne_true] at h
          split at h
          · cases h
          · rename_i hseen
            obtain ⟨number, hnumber, hrest⟩ := bind_eq_ok.1 h
            obtain ⟨point, hpoint, hdone⟩ := bind_eq_ok.1 hrest
            obtain ⟨x, hx, rfl⟩ := decimalReturnToPercentagePoints_eq_ok hnumber
            obtain ⟨rfl, hvalue⟩ := returnPoint_eq_ok hpoint
            cases hdone
            refine .inr ⟨point, ⟨?_, entries, x, rfl, hx, hvalue⟩, hseen, rfl⟩
            rw [hcounted]
            exact Option.filter_some_pos hmatch
        · have hmatch := Bool.eq_false_iff.2 hmatch
          rw [hmatch, Bool.not_false, if_pos rfl] at h
          split at h
          · cases h
            refine .inl ⟨?_, rfl⟩
            rw [hcounted]
            exact Option.filter_some_neg hmatch
          · cases h
    | _ =>
      simp only [hdate] at h
      cases h
      refine .inl ⟨?_, rfl⟩
      simp only [countedDate, hdate]
  | _ =>
    cases h
    exact .inl ⟨rfl, rfl⟩

omit [Field K] in
/-- The rows of the producer. -/
def producerRows : PyValue K → List (PyValue K)
  | .list rows => rows
  | _ => []

/-- The points are the counted rows, in order and once each. -/
structure PointsOf (texts : PyTexts K) (float : K → PyNumber K) (frequency : Frequency)
    (rows : List (PyValue K)) (points : List (ReturnPoint K)) : Prop where
  dates : points.map ReturnPoint.date = rows.filterMap (countedDate texts frequency)
  distinct : (points.map ReturnPoint.date).Nodup
  read : ∀ point ∈ points, ∃ row ∈ rows, ReadFrom texts float frequency row point

theorem pointsOf_step (h : PointsOf texts float frequency rows points)
    (hstep : readReturnRow texts float frequency points row = .ok next) :
    PointsOf texts float frequency (rows ++ [row]) next := by
  rcases readReturnRow_spec hstep with ⟨hnone, rfl⟩ | ⟨point, hread, hseen, rfl⟩
  · refine ⟨?_, h.distinct, ?_⟩
    · rw [h.dates, List.filterMap_append, List.filterMap_cons_none hnone, List.filterMap_nil,
        List.append_nil]
    · intro point hpoint
      obtain ⟨row', hrow, hread⟩ := h.read point hpoint
      exact ⟨row', List.mem_append_left _ hrow, hread⟩
  · refine ⟨?_, ?_, ?_⟩
    · rw [List.map_append, h.dates, List.filterMap_append, List.filterMap_cons_some hread.1,
        List.filterMap_nil]
      rfl
    · rw [List.map_append, List.map_singleton]
      apply h.distinct.append (List.nodup_singleton _)
      rw [List.disjoint_singleton]
      exact hseen
    · intro point' hpoint
      rcases List.mem_append.1 hpoint with hpoint | hpoint
      · obtain ⟨row', hrow, hread'⟩ := h.read point' hpoint
        exact ⟨row', List.mem_append_left _ hrow, hread'⟩
      · rw [List.mem_singleton.1 hpoint]
        exact ⟨row, List.mem_append_right _ (List.mem_singleton.2 rfl), hread⟩

theorem toReturnPoints_spec (h : toReturnPoints texts float frequency series = .ok points) :
    PointsOf texts float frequency (producerRows series) points := by
  have hnil : PointsOf texts float frequency [] [] := ⟨rfl, List.nodup_nil, nofun⟩
  cases series with
  | list rows =>
    exact foldlM_trace (PointsOf texts float frequency)
      (fun _ _ _ _ hread hstep => pointsOf_step hread hstep) [] hnil h
  | _ =>
    cases h
    exact hnil

theorem extractRequiredPortfolioReturns_spec {sourceResponse : List (String × PyValue K)}
    (h : extractRequiredPortfolioReturns texts float sourceResponse frequency =
      .ok (series, points)) :
    getEntry sourceResponse "series" = .dict series ∧ points ≠ [] ∧
      PointsOf texts float frequency (producerRows (getEntry series "portfolio_returns")) points := by
  obtain ⟨payload, hpayload, hrest⟩ := bind_eq_ok.1 h
  obtain ⟨read, hread, hdone⟩ := bind_eq_ok.1 hrest
  split at hdone
  · cases hdone
  · rename_i hne
    cases hdone
    refine ⟨?_, by simpa using hne, toReturnPoints_spec hread⟩
    rw [extractSeriesPayload] at hpayload
    split at hpayload
    · cases hpayload
      assumption
    · cases hpayload

end Rows

section Window

variable {texts : PyTexts K} {sourceResponse : List (String × PyValue K)}

theorem declares_iff {entries : List (String × PyValue K)} :
    declares entries field text = true ↔ getEntry entries field = .str text := by
  rw [declares]
  cases hentry : getEntry entries field with
  | str value =>
    simp only [decide_eq_true_iff]
    exact ⟨fun h => by rw [h], PyValue.str.inj⟩
  | _ => exact iff_of_false nofun nofun

theorem PyValue.isNone_iff {value : PyValue K} : value.isNone = true ↔ value = .none := by
  cases value with
  | none => exact iff_of_true rfl rfl
  | _ => exact iff_of_false nofun nofun

/-- The resolved window is the requested one. -/
def ReturnsSeriesWindow.ResolvesTo (texts : PyTexts K) (resolvedWindow : List (String × PyValue K))
    (asOfDate : Date) (startDate endDate : Date) : ReturnsSeriesWindow → Prop
  | .explicit fromDate toDate =>
    getEntry resolvedWindow "start_date" = .str fromDate ∧
      getEntry resolvedWindow "end_date" = .str toDate ∧
      getEntry resolvedWindow "resolved_period_label" = .none ∧
      texts.fromisoformat fromDate = some startDate ∧ texts.fromisoformat toDate = some endDate
  | .relative period =>
    getEntry resolvedWindow "resolved_period_label" = .str period ∧
      windowDate texts resolvedWindow "start_date" = some startDate ∧
      windowDate texts resolvedWindow "end_date" = some endDate ∧
      endDate = asOfDate ∧ startDate ≤ endDate

theorem validateReturnedPointsWithinWindow_spec
    (h : validateReturnedPointsWithinWindow texts sourceResponse points frequency = .ok u) :
    ∃ startDate endDate,
      windowDate texts (resolvedWindowOf sourceResponse) "start_date" = some startDate ∧
      windowDate texts (resolvedWindowOf sourceResponse) "end_date" = some endDate ∧
      ∀ point ∈ points, bucketStart point.date frequency ≤ endDate ∧ startDate ≤ point.date := by
  rw [validateReturnedPointsWithinWindow] at h
  split at h
  · rename_i startDate endDate hstart hend
    refine ⟨startDate, endDate, hstart, hend, ?_⟩
    split at h
    · cases h
    · rename_i hall
      intro point hpoint
      have hoverlaps := List.all_eq_true.1 (by simpa using hall) point hpoint
      rw [bucketOverlapsWindow, Bool.and_eq_true, decide_eq_true_iff, decide_eq_true_iff]
        at hoverlaps
      exact hoverlaps
  · cases h

theorem windowDate_of_text {entries : List (String × PyValue K)}
    (h : getEntry entries field = .str text) :
    windowDate texts entries field = texts.fromisoformat text := by
  simp only [windowDate, h]

theorem validateResolvedWindow_spec {window : ReturnsSeriesWindow}
    (h : validateResolvedWindow texts sourceResponse asOfDate window = .ok u)
    (hstart : windowDate texts (resolvedWindowOf sourceResponse) "start_date" = some startDate)
    (hend : windowDate texts (resolvedWindowOf sourceResponse) "end_date" = some endDate) :
    window.ResolvesTo texts (resolvedWindowOf sourceResponse) asOfDate startDate endDate := by
  cases window with
  | explicit fromDate toDate =>
    rw [validateResolvedWindow, validateExplicitWindow] at h
    split at h
    · rename_i hfields
      obtain ⟨hdates, hlabel⟩ := Bool.and_eq_true_iff.1 hfields
      obtain ⟨hfrom, hto⟩ := Bool.and_eq_true_iff.1 hdates
      have hfrom := declares_iff.1 hfrom
      have hto := declares_iff.1 hto
      rw [windowDate_of_text hfrom] at hstart
      rw [windowDate_of_text hto] at hend
      exact ⟨hfrom, hto, PyValue.isNone_iff.1 hlabel, hstart, hend⟩
    · cases h
  | relative period =>
    rw [validateResolvedWindow, validateRelativeWindow, hstart, hend] at h
    split at h
    · cases h
    · rename_i hperiod
      simp only at h
      split at h
      · rename_i hdates
        exact ⟨declares_iff.1 (by simpa using hperiod), hstart, hend, hdates.1, hdates.2⟩
      · cases h

end Window

section Admission

variable [Field K] [LinearOrder K] [FloorRing K]

/-- The window of a request does not end before it starts; that of a relative one is resolved so. -/
def ReturnsSeriesWindow.Ordered (texts : PyTexts K) : ReturnsSeriesWindow → Prop
  | .explicit fromDate toDate => ∀ startDate endDate,
      texts.fromisoformat fromDate = some startDate → texts.fromisoformat toDate = some endDate →
        startDate ≤ endDate
  | .relative _ => True

/-- The admitted returns of a response: all counted rows of the producer, within the window. -/
structure AdmittedReturns (texts : PyTexts K) (float : K → PyNumber K)
    (sourceResponse : List (String × PyValue K)) (identity : ReturnsIdentity)
    (window : ReturnsSeriesWindow) (rows : List (PyValue K)) (points : List (ReturnPoint K))
    (evidence : SourceReturnsEvidence K) (startDate endDate : Date) : Prop where
  identified : ∀ field ∈ identity.expectedFields, getEntry sourceResponse field.1 = .str field.2
  resolved : window.ResolvesTo texts (resolvedWindowOf sourceResponse) identity.asOfDate startDate
    endDate
  distinct : (points.map ReturnPoint.date).Nodup
  finite : ∀ point ∈ points, ∃ row ∈ rows, ReadFrom texts float identity.frequency row point
  period_end : ∀ point ∈ points, identity.frequency.IsPeriodEnd point.date
  overlaps : ∀ point ∈ points,
    ∃ day, identity.frequency.bucket day = identity.frequency.bucket point.date ∧
      day ≤ point.date ∧ startDate ≤ day ∧ day ≤ endDate
  covered : points.map ReturnPoint.date = rows.filterMap (countedDate texts identity.frequency)
  counted : points.length = evidence.returnedPoints
  reconciled : evidence.requestedPoints = evidence.returnedPoints + evidence.missingPoints

omit [Field K] [LinearOrder K] [FloorRing K] in
theorem validateSourceRequestIdentity_spec {sourceResponse : List (String × PyValue K)}
    (h : validateSourceRequestIdentity sourceResponse identity = .ok u) :
    ∀ field ∈ identity.expectedFields, getEntry sourceResponse field.1 = .str field.2 := by
  rw [validateSourceRequestIdentity] at h
  split at h
  · cases h
  · rename_i hnone
    intro field hfield
    have hdeclares := List.find?_eq_none.1 hnone field hfield
    exact declares_iff.1 (by simpa using hdeclares)

omit [Field K] [LinearOrder K] [FloorRing K] in
theorem countedDate_periodEnd {texts : PyTexts K} {row : PyValue K}
    (h : countedDate texts frequency row = some d) : frequency.IsPeriodEnd d := by
  unfold countedDate at h
  split at h
  · split at h
    · obtain ⟨_, hmatch⟩ := Option.filter_eq_some_iff.1 h
      exact dateMatchesFrequency_iff.1 hmatch
    · cases h
  · cases h

/-- A period that starts by the end of the window has a day in it. -/
theorem exists_common_day (hperiod : frequency.bucketEnd (frequency.bucket d) = some d)
    (hstart : bucketStart d frequency ≤ endDate) (hend : startDate ≤ d)
    (hwindow : startDate ≤ endDate) :
    ∃ day, frequency.bucket day = frequency.bucket d ∧ day ≤ d ∧ startDate ≤ day ∧
      day ≤ endDate := by
  obtain ⟨hbucket, hle, _⟩ := bucketStart_spec hperiod
  rcases le_total (bucketStart d frequency) startDate with hcase | hcase
  · refine ⟨startDate, ?_, hend, le_rfl, hwindow⟩
    apply le_antisymm (frequency.bucket_mono hend)
    rw [← hbucket]
    exact frequency.bucket_mono hcase
  · exact ⟨_, hbucket, hle, hcase, hstart⟩

omit [Field K] [LinearOrder K] [FloorRing K] in
/-- The resolved window is ordered exactly if the requested one is. -/
theorem ordered_iff_of_resolvesTo {texts : PyTexts K} {window : ReturnsSeriesWindow}
    {resolvedWindow : List (String × PyValue K)}
    (h : window.ResolvesTo texts resolvedWindow asOfDate startDate endDate) :
    window.Ordered texts ↔ startDate ≤ endDate := by
  cases window with
  | explicit fromDate toDate =>
    obtain ⟨_, _, _, hfrom, hto⟩ := h
    constructor
    · intro hordered
      exact hordered startDate endDate hfrom hto
    · intro hle startDate' endDate' hfrom' hto'
      rw [hfrom, Option.some.injEq] at hfrom'
      rw [hto, Option.some.injEq] at hto'
      rw [← hfrom', ← hto']
      exact hle
  | relative period => exact iff_of_true trivial h.2.2.2.2

/-- What holds of admitted returns, with each point in the window if that is ordered. -/
theorem admittedReturns_of_ordered {texts : PyTexts K} {float : K → PyNumber K}
    {coercions : FieldCoercions K} {sourceResponse : List (String × PyValue K)}
    {identity : ReturnsIdentity} {window : ReturnsSeriesWindow}
    {series : List (String × PyValue K)} {points : List (ReturnPoint K)}
    {evidence : SourceReturnsEvidence K}
    (hpoints : extractRequiredPortfolioReturns texts float sourceResponse identity.frequency =
      .ok (series, points))
    (hevidence : extractStatefulReturnsSourceEvidence coercions texts sourceResponse identity
      (some window) (some points) = .ok evidence) :
    ∃ startDate endDate, window.ResolvesTo texts (resolvedWindowOf sourceResponse)
        identity.asOfDate startDate endDate ∧
      (startDate ≤ endDate → AdmittedReturns texts float sourceResponse identity window
        (producerRows (getEntry series "portfolio_returns")) points evidence startDate endDate) := by
  obtain ⟨_, _, hread⟩ := extractRequiredPortfolioReturns_spec hpoints
  rw [extractStatefulReturnsSourceEvidence] at hevidence
  split at hevidence
  · cases hevidence
  · obtain ⟨_, hidentity, hrest⟩ := bind_eq_ok.1 hevidence
    obtain ⟨_, _, hrest⟩ := bind_eq_ok.1 hrest
    obtain ⟨_, hcoverage, hrest⟩ := bind_eq_ok.1 hrest
    obtain ⟨_, hwindow, hdone⟩ := bind_eq_ok.1 hrest
    cases hdone
    obtain ⟨_, hresolved, hwithin⟩ := bind_eq_ok.1 hwindow
    obtain ⟨startDate, endDate, hstart, hend, hbounds⟩ :=
      validateReturnedPointsWithinWindow_spec hwithin
    have hperiod : ∀ point ∈ points, identity.frequency.IsPeriodEnd point.date := by
      intro point hpoint
      obtain ⟨row, _, hrow⟩ := hread.read point hpoint
      exact countedDate_periodEnd hrow.1
    have hspec := validateResolvedWindow_spec hresolved hstart hend
    refine ⟨startDate, endDate, hspec, fun hordered => {
      identified := validateSourceRequestIdentity_spec hidentity
      resolved := hspec
      distinct := hread.distinct
      finite := hread.read
      period_end := hperiod
      overlaps := ?_
      covered := hread.dates
      counted := ?_
      reconciled := evidence.counts_reconcile }⟩
    · intro point hpoint
      obtain ⟨hle, hge⟩ := hbounds point hpoint
      exact exists_common_day (hperiod point hpoint).1 hle hge hordered
    · rw [validateCoverage] at hcoverage
      split at hcoverage
      · rename_i heq
        exact heq.symm
      · cases hcoverage

/-- Returns and evidence that are both admitted agree, and no row that is dropped is counted as
covered, exactly if the requested window is ordered. -/
theorem admitted_returns_covered_iff (texts : PyTexts K) (float : K → PyNumber K)
    (coercions : FieldCoercions K) (sourceResponse : List (String × PyValue K))
    (identity : ReturnsIdentity) (window : ReturnsSeriesWindow)
    (series : List (String × PyValue K)) (points : List (ReturnPoint K))
    (evidence : SourceReturnsEvidence K)
    (hpoints : extractRequiredPortfolioReturns texts float sourceResponse identity.frequency =
      .ok (series, points))
    (hevidence : extractStatefulReturnsSourceEvidence coercions texts sourceResponse identity
      (some window) (some points) = .ok evidence) :
    (∃ startDate endDate, AdmittedReturns texts float sourceResponse identity window
      (producerRows (getEntry series "portfolio_returns")) points evidence startDate endDate) ↔
    window.Ordered texts := by
  obtain ⟨_, hne, _⟩ := extractRequiredPortfolioReturns_spec hpoints
  constructor
  · rintro ⟨startDate, endDate, hadmitted⟩
    obtain ⟨point, hpoint⟩ := List.exists_mem_of_ne_nil points hne
    obtain ⟨day, _, _, hfrom, hto⟩ := hadmitted.overlaps point hpoint
    exact (ordered_iff_of_resolvesTo hadmitted.resolved).2 (hfrom.trans hto)
  · intro hordered
    obtain ⟨startDate, endDate, hresolved, hadmitted⟩ :=
      admittedReturns_of_ordered hpoints hevidence
    exact ⟨startDate, endDate, hadmitted ((ordered_iff_of_resolvesTo hresolved).1 hordered)⟩

end Admission

section Runs

/-- Fields of the types they are declared with. -/
def plainCoercions : FieldCoercions ℚ where
  int
    | .int i => some i
    | _ => none
  float
    | .float (.finite x) => some (.finite x)
    | _ => none
  uuid
    | .str text => some text
    | _ => none

def sha256Label : String := "sha256:" ++ String.ofList (List.replicate 64 '0')

def plainIdentity (frequency : Frequency) : ReturnsIdentity where
  portfolioId := "P1"
  asOfDate := firstMonday
  frequency := frequency
  metricBasis := "NET"

/-- A response over an explicit window, which reports how many of its returns are covered. -/
def coveredResponse (frequency : Frequency) (fromDate toDate : String)
    (rows : List (String × String)) (returned : Nat) : List (String × PyValue ℚ) :=
  [("series", .dict [("portfolio_returns", .list (rows.map fun row =>
      .dict [("date", .str row.1), ("return_value", .str row.2)]))]),
    ("source_service", .str "lotus-performance"), ("calculation_id", .str "C1"),
    ("contract_version", .str "v1"), ("portfolio_id", .str "P1"),
    ("as_of_date", .str firstMonday.isoformat), ("frequency", .str frequency.text),
    ("metric_basis", .str "NET"),
    ("resolved_window", .dict [("start_date", .str fromDate), ("end_date", .str toDate)]),
    ("provenance", .dict [("input_mode", .str "stateful"), ("input_fingerprint", .str sha256Label),
      ("calculation_hash", .str sha256Label)]),
    ("diagnostics", .dict [("freshness", .str "current"),
      ("coverage", .dict [("requested_points", .int returned), ("returned_points", .int returned),
        ("missing_points", .int 0), ("coverage_ratio", .float (.finite 1))])])]

/-- Both readers, one after the other. -/
def admitBoth (frequency : Frequency) (fromDate toDate : String) (rows : List (String × String))
    (returned : Nat) : Except SourceException
      ((List (String × PyValue ℚ) × List (ReturnPoint ℚ)) × SourceReturnsEvidence ℚ) := do
  let response := coveredResponse frequency fromDate toDate rows returned
  let consumed ← extractRequiredPortfolioReturns plainTexts PyNumber.finite response frequency
  let evidence ← extractStatefulReturnsSourceEvidence plainCoercions plainTexts response
    (plainIdentity frequency) (some (.explicit fromDate toDate)) (some consumed.2)
  return (consumed, evidence)

theorem admitBoth_eq_ok
    (h : admitBoth frequency fromDate toDate rows returned = .ok (consumed, evidence)) :
    extractRequiredPortfolioReturns plainTexts PyNumber.finite
      (coveredResponse frequency fromDate toDate rows returned) frequency = .ok consumed ∧
    extractStatefulReturnsSourceEvidence plainCoercions plainTexts
      (coveredResponse frequency fromDate toDate rows returned) (plainIdentity frequency)
      (some (.explicit fromDate toDate)) (some consumed.2) = .ok evidence := by
  obtain ⟨consumed', hread, hrest⟩ := bind_eq_ok.1 h
  obtain ⟨evidence', hevidence, hdone⟩ := bind_eq_ok.1 hrest
  cases hdone
  exact ⟨hread, hevidence⟩

/-- What both readers admit of a response is covered. -/
def ReturnsCovered (frequency : Frequency) (fromDate toDate : String)
    (rows : List (String × String)) (returned : Nat) (series : List (String × PyValue ℚ))
    (points : List (ReturnPoint ℚ)) (evidence : SourceReturnsEvidence ℚ) : Prop :=
  ∃ startDate endDate, AdmittedReturns plainTexts PyNumber.finite
    (coveredResponse frequency fromDate toDate rows returned) (plainIdentity frequency)
    (.explicit fromDate toDate) (producerRows (getEntry series "portfolio_returns")) points evidence
    startDate endDate

def weekendRows : List (String × String) :=
  [("2026-01-09", "0.01"), ("2026-01-10", "0"), ("2026-01-12", "0.02")]

def fridayRows : List (String × String) := [("2026-01-09", "0.01"), ("2026-01-16", "0.02")]

/-- Daily returns with a weekend row among them, which is dropped, and weekly ones whose last
bucket ends after the window. -/
theorem admitted_returns_covered_weeks :
    (∃ series points evidence,
      admitBoth .daily "2026-01-09" "2026-01-12" weekendRows 2 = .ok ((series, points), evidence) ∧
      ReturnsCovered .daily "2026-01-09" "2026-01-12" weekendRows 2 series points evidence) ∧
    ∃ series points evidence,
      admitBoth .weekly "2026-01-05" "2026-01-13" fridayRows 2 =
        .ok ((series, points), evidence) ∧
      ReturnsCovered .weekly "2026-01-05" "2026-01-13" fridayRows 2 series points evidence := by
  have hcovered : ∀ frequency fromDate toDate rows returned,
      (admitBoth frequency fromDate toDate rows returned).toOption.isSome = true →
      ((isoDate fromDate).all fun startDate => (isoDate toDate).all fun endDate =>
        decide (startDate ≤ endDate)) = true →
      ∃ series points evidence,
        admitBoth frequency fromDate toDate rows returned = .ok ((series, points), evidence) ∧
        ReturnsCovered frequency fromDate toDate rows returned series points evidence := by
    intro frequency fromDate toDate rows returned hsome hdates
    obtain ⟨⟨⟨series, points⟩, evidence⟩, hrun⟩ := ok_of_isSome hsome
    obtain ⟨hread, hevidence⟩ := admitBoth_eq_ok hrun
    refine ⟨series, points, evidence, hrun, ?_⟩
    apply (admitted_returns_covered_iff plainTexts PyNumber.finite plainCoercions _ _ _ series
      points evidence hread hevidence).2
    intro startDate endDate hstart hend
    have hstart : isoDate fromDate = some startDate := hstart
    have hend : isoDate toDate = some endDate := hend
    rw [hstart, hend, Option.all_some, Option.all_some] at hdates
    exact of_decide_eq_true hdates
  exact ⟨hcovered _ _ _ _ _ (by decide +kernel) (by decide +kernel),
    hcovered _ _ _ _ _ (by decide +kernel) (by decide +kernel)⟩

/-- A weekly bucket that ends after an inverted window starts, and starts before it ends, is
admitted, and has no day in it. -/
theorem inverted_window_admitted : ∃ series points evidence,
    admitBoth .weekly "2026-01-08" "2026-01-06" [("2026-01-09", "0.01")] 1 =
      .ok ((series, points), evidence) ∧
    ¬ ReturnsCovered .weekly "2026-01-08" "2026-01-06" [("2026-01-09", "0.01")] 1 series points
      evidence := by
  obtain ⟨⟨⟨series, points⟩, evidence⟩, hrun⟩ := ok_of_isSome
    (x := admitBoth .weekly "2026-01-08" "2026-01-06" [("2026-01-09", "0.01")] 1)
    (by decide +kernel)
  refine ⟨series, points, evidence, hrun, ?_⟩
  rintro ⟨startDate, endDate, hadmitted⟩
  obtain ⟨_, hne, _⟩ := extractRequiredPortfolioReturns_spec (admitBoth_eq_ok hrun).1
  obtain ⟨point, hpoint⟩ := List.exists_mem_of_ne_nil points hne
  obtain ⟨day, _, _, hfrom, hto⟩ := hadmitted.overlaps point hpoint
  obtain ⟨_, _, _, hstart, hend⟩ := hadmitted.resolved
  have hstart : isoDate "2026-01-08" = some startDate := hstart
  have hend : isoDate "2026-01-06" = some endDate := hend
  have hlate : ((isoDate "2026-01-08").all fun startDate => (isoDate "2026-01-06").all
      fun endDate => decide (endDate < startDate)) = true := by decide +kernel
  rw [hstart, hend, Option.all_some, Option.all_some, decide_eq_true_iff] at hlate
  exact absurd (hfrom.trans hto) (not_le.2 hlate)

end Runs

end LotusRisk
