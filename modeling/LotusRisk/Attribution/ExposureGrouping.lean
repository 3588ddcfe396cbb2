import LotusRisk.Attribution.ExposurePoints

/-! What the exposure points add up to: a row counts in its group of a dimension as often as the
dimension is listed. -/

namespace LotusRisk
set_option autoImplicit true

open Relational

variable {K : Type} [DecidableEq K] [Field K]

section Positions

variable (texts : PyTexts K) (issuerMap : Dict String (String × Option String))

/-- A row that is counted, with its date and its market value. -/
structure PositionValue (K : Type) where
  row : List (String × PyValue K)
  date : Date
  value : PyNumber K

def positionValue? (row : List (String × PyValue K)) : Option (PositionValue K) :=
  match getEntry row "valuation_date" with
  | .str valuationDate =>
    match texts.fromisoformat valuationDate, marketValueFromPositionRow texts row with
    | some date, .ok value => some ⟨row, date, value⟩
    | _, _ => none
  | _ => none

def positionValues (rows : List (List (String × PyValue K))) : List (PositionValue K) :=
  rows.filterMap (positionValue? texts)

/-- The row is counted, or has no date text. -/
def ReadableRow (row : List (String × PyValue K)) : Prop :=
  (∃ position, positionValue? texts row = some position) ∨
    ∀ text, getEntry row "valuation_date" ≠ .str text

/-- The group of a row in a supported dimension. -/
def groupKeyOf (row : List (String × PyValue K)) (dimension : GroupingDimension) : String :=
  match groupKeyAndLabel texts issuerMap row dimension with
  | .ok group => group.1
  | .error _ => ""

def PositionValue.groupEntry (position : PositionValue K) (dimension : GroupingDimension) :
    (Date × GroupingDimension × String) × PyNumber K :=
  ((position.date, dimension, groupKeyOf texts issuerMap position.row dimension), position.value)

def groupEntries (dimensions : List GroupingDimension) (positions : List (PositionValue K)) :
    List ((Date × GroupingDimension × String) × PyNumber K) :=
  positions.flatMap (fun position => dimensions.map (position.groupEntry texts issuerMap))

omit [DecidableEq K] [Field K] in
def dateEntries (positions : List (PositionValue K)) : List (Date × PyNumber K) :=
  positions.map (fun position => (position.date, position.value))

/-- The aggregation holds the sums of the positions, by group and by date. -/
structure ExposureAggregation.Aggregates (aggregation : ExposureAggregation K)
    (dimensions : List GroupingDimension) (positions : List (PositionValue K)) : Prop where
  supported : positions ≠ [] → .custom ∉ dimensions
  grouped : aggregation.groupedValues =
    Dict.tally (groupEntries texts issuerMap dimensions positions)
  totals : aggregation.totalsByDate = Dict.tally (dateEntries positions)

end Positions

section Aggregation

variable {texts : PyTexts K} {issuerMap : Dict String (String × Option String)}

theorem groupKeyAndLabel_isOk {row : List (String × PyValue K)} :
    (∃ group, groupKeyAndLabel texts issuerMap row dimension = .ok group) ↔
      dimension ≠ .custom := by
  cases dimension with
  | custom => exact iff_of_false (fun h => by cases h.choose_spec) (fun h => h rfl)
  | _ => exact iff_of_true ⟨_, rfl⟩ nofun

theorem groupKeyOf_eq {row : List (String × PyValue K)}
    (h : groupKeyAndLabel texts issuerMap row dimension = .ok group) :
    groupKeyOf texts issuerMap row dimension = group.1 := by
  rw [groupKeyOf, h]

/-- A group adds the value under its key, and leaves the totals. -/
theorem addGroup_spec {aggregation : ExposureAggregation K} {row : List (String × PyValue K)}
    (h : aggregation.addGroup texts issuerMap row date value dimension = .ok following) :
    dimension ≠ .custom ∧ following.groupedValues = aggregation.groupedValues.add
      ((date, dimension, groupKeyOf texts issuerMap row dimension), value) ∧
    following.totalsByDate = aggregation.totalsByDate := by
  obtain ⟨group, hgroup, h⟩ := bind_eq_ok.1 h
  cases h
  rw [groupKeyOf_eq hgroup]
  exact ⟨groupKeyAndLabel_isOk.1 ⟨group, hgroup⟩, rfl, rfl⟩

/-- A row adds its value to its date, and to one group for each listed dimension. -/
theorem addRow_spec {aggregation : ExposureAggregation K} {position : PositionValue K}
    (h : aggregation.addRow texts issuerMap dimensions position.row position.date position.value =
      .ok following) :
    .custom ∉ dimensions ∧ following.groupedValues =
      (dimensions.map (position.groupEntry texts issuerMap)).foldl Dict.add
        aggregation.groupedValues ∧
    following.totalsByDate = aggregation.totalsByDate.add (position.date, position.value) := by
  rw [ExposureAggregation.addRow] at h
  have hstep : ∀ read (reached : ExposureAggregation K) dimension next,
      (GroupingDimension.custom ∉ read ∧ reached.groupedValues =
        (read.map (position.groupEntry texts issuerMap)).foldl Dict.add aggregation.groupedValues ∧
        reached.totalsByDate = aggregation.totalsByDate.add (position.date, position.value)) →
      reached.addGroup texts issuerMap position.row position.date position.value dimension =
        .ok next →
      (GroupingDimension.custom ∉ read ++ [dimension] ∧ next.groupedValues =
        ((read ++ [dimension]).map (position.groupEntry texts issuerMap)).foldl Dict.add
          aggregation.groupedValues ∧
        next.totalsByDate = aggregation.totalsByDate.add (position.date, position.value)) := by
    rintro read reached dimension next ⟨hcustom, hgrouped, htotals⟩ hnext
    obtain ⟨hne, hadd, hsame⟩ := addGroup_spec hnext
    refine ⟨?_, ?_, hsame.trans htotals⟩
    · rw [List.mem_append, List.mem_singleton, not_or]
      exact ⟨hcustom, fun heq => hne heq.symm⟩
    · rw [hadd, hgrouped, List.map_append, List.foldl_append]
      rfl
  refine Raising.foldlM_trace _ hstep [] ?_ h
  exact ⟨List.not_mem_nil, rfl, rfl⟩

theorem exists_addRow_ok (h : .custom ∉ dimensions) (aggregation : ExposureAggregation K)
    (row : List (String × PyValue K)) (date : Date) (value : PyNumber K) :
    ∃ following, aggregation.addRow texts issuerMap dimensions row date value = .ok following := by
  apply Raising.exists_foldlM_ok
  intro reached dimension hdimension
  have hne : dimension ≠ .custom := by
    intro heq
    rw [heq] at hdimension
    exact h hdimension
  have hsupported : ∃ group, groupKeyAndLabel texts issuerMap row dimension = .ok group :=
    groupKeyAndLabel_isOk.2 hne
  obtain ⟨group, hgroup⟩ := hsupported
  exact ⟨_, bind_eq_ok.2 ⟨group, hgroup, rfl⟩⟩

theorem tally_groupEntries_append (positions : List (PositionValue K))
    (position : PositionValue K) :
    Dict.tally (groupEntries texts issuerMap dimensions (positions ++ [position])) =
      (dimensions.map (position.groupEntry texts issuerMap)).foldl Dict.add
        (Dict.tally (groupEntries texts issuerMap dimensions positions)) := by
  rw [groupEntries, List.flatMap_append, List.flatMap_singleton, Dict.tally, List.foldl_append]
  rfl

omit [DecidableEq K] in
theorem tally_dateEntries_append (positions : List (PositionValue K))
    (position : PositionValue K) :
    Dict.tally (dateEntries (positions ++ [position])) =
      (Dict.tally (dateEntries positions)).add (position.date, position.value) := by
  rw [dateEntries, List.map_append, Dict.tally, List.foldl_append]
  rfl

/-- One row is counted, or is left out. -/
theorem addPositionRow_spec {aggregation : ExposureAggregation K}
    {row : List (String × PyValue K)}
    (h : addPositionRow texts issuerMap dimensions aggregation row = .ok following) :
    (∃ position, positionValue? texts row = some position ∧
      aggregation.addRow texts issuerMap dimensions position.row position.date position.value =
        .ok following) ∨
    ((∀ text, getEntry row "valuation_date" ≠ .str text) ∧ positionValue? texts row = none ∧
      following = aggregation) := by
  rw [addPositionRow] at h
  rw [positionValue?]
  cases hdate : getEntry row "valuation_date" with
  | str text =>
    rw [hdate] at h
    cases hparsed : texts.fromisoformat text with
    | none => simp [hparsed] at h
    | some date =>
      simp only [hparsed] at h
      obtain ⟨value, hvalue, h⟩ := bind_eq_ok.1 h
      exact .inl ⟨⟨row, date, value⟩, by simp only [hparsed, hvalue], h⟩
  | _ =>
    rw [hdate] at h
    cases h
    exact .inr ⟨nofun, rfl, rfl⟩

omit [DecidableEq K] in
theorem positionValues_append (rows : List (List (String × PyValue K)))
    (row : List (String × PyValue K)) : positionValues texts (rows ++ [row]) =
      positionValues texts rows ++ (positionValue? texts row).toList := by
  rw [positionValues, List.filterMap_append]
  cases h : positionValue? texts row with
  | none => simp [h, positionValues]
  | some position => simp [h, positionValues]

/-- The loop over the rows reads them all, and leaves the sums of the positions. -/
theorem aggregates_of_rows {rows : List (List (String × PyValue K))}
    (h : rows.foldlM (addPositionRow texts issuerMap dimensions) ExposureAggregation.empty =
      .ok aggregation) :
    (∀ row ∈ rows, ReadableRow texts row) ∧
      aggregation.Aggregates texts issuerMap dimensions (positionValues texts rows) := by
  have hstep : ∀ read (reached : ExposureAggregation K) row next,
      ((∀ row ∈ read, ReadableRow texts row) ∧
        reached.Aggregates texts issuerMap dimensions (positionValues texts read)) →
      addPositionRow texts issuerMap dimensions reached row = .ok next →
      ((∀ row' ∈ read ++ [row], ReadableRow texts row') ∧
        next.Aggregates texts issuerMap dimensions (positionValues texts (read ++ [row]))) := by
    rintro read reached row next ⟨hread, hreached⟩ hnext
    rw [positionValues_append]
    rcases addPositionRow_spec hnext with ⟨position, hposition, hadd⟩ | ⟨hundated, hnone, rfl⟩
    · obtain ⟨hcustom, hgrouped, htotals⟩ := addRow_spec hadd
      rw [hposition, Option.toList_some]
      refine ⟨?_, fun _ => hcustom, ?_, ?_⟩
      · rw [List.forall_mem_append, List.forall_mem_singleton]
        exact ⟨hread, .inl ⟨position, hposition⟩⟩
      · rw [hgrouped, hreached.grouped, tally_groupEntries_append]
      · rw [htotals, hreached.totals, tally_dateEntries_append]
    · rw [hnone, Option.toList_none, List.append_nil]
      refine ⟨?_, hreached⟩
      rw [List.forall_mem_append, List.forall_mem_singleton]
      exact ⟨hread, .inr hundated⟩
  refine Raising.foldlM_trace _ hstep [] ?_ h
  exact ⟨nofun, fun hne => absurd rfl hne, rfl, rfl⟩

theorem exists_aggregation {rows : List (List (String × PyValue K))}
    (hread : ∀ row ∈ rows, ReadableRow texts row)
    (hcustom : positionValues texts rows ≠ [] → .custom ∉ dimensions) :
    ∃ aggregation, rows.foldlM (addPositionRow texts issuerMap dimensions)
      ExposureAggregation.empty = .ok aggregation := by
  apply Raising.exists_foldlM_ok
  intro aggregation row hrow
  rw [addPositionRow]
  rcases hread row hrow with ⟨position, hposition⟩ | hundated
  · have hne : positionValues texts rows ≠ [] :=
      List.ne_nil_of_mem (List.mem_filterMap.2 ⟨row, hrow, hposition⟩)
    rw [positionValue?] at hposition
    cases hdate : getEntry row "valuation_date" with
    | str text =>
      rw [hdate] at hposition
      cases hparsed : texts.fromisoformat text with
      | none => simp [hparsed] at hposition
      | some date =>
        cases hvalue : marketValueFromPositionRow texts row with
        | error e => simp [hparsed, hvalue] at hposition
        | ok value =>
          have hadded : ∃ following, aggregation.addRow texts issuerMap dimensions row date value =
              .ok following := exists_addRow_ok (hcustom hne) aggregation row date value
          obtain ⟨following, hfollowing⟩ := hadded
          refine ⟨following, ?_⟩
          simp only [hparsed]
          exact bind_eq_ok.2 ⟨value, rfl, hfollowing⟩
    | _ => simp [hdate] at hposition
  · cases hdate : getEntry row "valuation_date" with
    | str text => exact absurd hdate (hundated text)
    | _ => exact ⟨aggregation, rfl⟩

end Aggregation

section Sums

variable (texts : PyTexts K) (issuerMap : Dict String (String × Option String))

omit [DecidableEq K] in
/-- The market value of a date. -/
def dateTotal (positions : List (PositionValue K)) (date : Date) : PyNumber K :=
  ((positions.filter (fun position => position.date = date)).map PositionValue.value).sum

/-- The market value of the rows of a date in some groups of a dimension. -/
def membersTotal (positions : List (PositionValue K)) (date : Date)
    (dimension : GroupingDimension) (accepts : String → Bool) : PyNumber K :=
  ((positions.filter (fun position => decide (position.date = date) &&
    accepts (groupKeyOf texts issuerMap position.row dimension))).map PositionValue.value).sum

/-- The market value of a group. -/
def groupTotal (positions : List (PositionValue K)) (date : Date)
    (dimension : GroupingDimension) (key : String) : PyNumber K :=
  membersTotal texts issuerMap positions date dimension (fun group => group = key)

variable {texts issuerMap}

theorem membersTotal_cons (position : PositionValue K) (positions : List (PositionValue K))
    (accepts : String → Bool) :
    membersTotal texts issuerMap (position :: positions) date dimension accepts =
      (if decide (position.date = date) &&
        accepts (groupKeyOf texts issuerMap position.row dimension) then position.value else 0) +
        membersTotal texts issuerMap positions date dimension accepts := by
  rw [membersTotal, List.filter_cons]
  split_ifs
  · rw [List.map_cons, List.sum_cons]
    rfl
  · rw [zero_add]
    rfl

/-- The entry falls on the date, in an accepted group of the dimension. -/
def fallsIn (date : Date) (dimension : GroupingDimension) (accepts : String → Bool)
    (key : Date × GroupingDimension × String) : Bool :=
  decide (key.1 = date) && (decide (key.2.1 = dimension) && accepts key.2.2)

theorem fallsIn_groupEntry (position : PositionValue K) (accepts : String → Bool) :
    fallsIn date dimension accepts (position.groupEntry texts issuerMap dimension).1 =
      (decide (position.date = date) &&
        accepts (groupKeyOf texts issuerMap position.row dimension)) := by
  simp only [fallsIn, PositionValue.groupEntry, decide_true, Bool.true_and]
  rfl

theorem sum_position_entries (position : PositionValue K) (dimensions : List GroupingDimension)
    (accepts : String → Bool) :
    (((dimensions.map (position.groupEntry texts issuerMap)).filter
      (fun entry => fallsIn date dimension accepts entry.1)).map Prod.snd).sum =
      dimensions.count dimension • (if decide (position.date = date) &&
        accepts (groupKeyOf texts issuerMap position.row dimension) then position.value else 0) := by
  induction dimensions with
  | nil => exact (zero_nsmul _).symm
  | cons listed dimensions ih =>
    rw [List.map_cons, List.filter_cons, List.count_cons]
    by_cases hlisted : listed = dimension
    · rw [hlisted, beq_self_eq_true, if_pos rfl, succ_nsmul', fallsIn_groupEntry, ← ih]
      split_ifs
      · exact List.sum_cons
      · exact (zero_add _).symm
    · have hskip : fallsIn date dimension accepts
          (position.groupEntry texts issuerMap listed).1 = false := by
        simp [fallsIn, PositionValue.groupEntry, hlisted]
      rw [hskip, if_neg Bool.false_ne_true, ih, beq_eq_false_iff_ne.2 hlisted,
        if_neg Bool.false_ne_true, add_zero]

/-- A row counts in an accepted group as often as its dimension is listed. -/
theorem sum_groupEntries (positions : List (PositionValue K)) (dimensions : List GroupingDimension)
    (accepts : String → Bool) :
    (((groupEntries texts issuerMap dimensions positions).filter
      (fun entry => fallsIn date dimension accepts entry.1)).map Prod.snd).sum =
      dimensions.count dimension •
        membersTotal texts issuerMap positions date dimension accepts := by
  induction positions with
  | nil => exact (nsmul_zero _).symm
  | cons position positions ih =>
    rw [groupEntries, List.flatMap_cons, List.filter_append, List.map_append, List.sum_append,
      sum_position_entries, membersTotal_cons, nsmul_add, ← ih]
    rfl

theorem sumAt_groupEntries (positions : List (PositionValue K))
    (dimensions : List GroupingDimension) (date : Date) (dimension : GroupingDimension)
    (key : String) :
    Dict.sumAt (groupEntries texts issuerMap dimensions positions) (date, dimension, key) =
      dimensions.count dimension • groupTotal texts issuerMap positions date dimension key := by
  rw [groupTotal, ← sum_groupEntries, Dict.sumAt]
  congr 2
  apply List.filter_congr
  rintro ⟨⟨entryDate, entryDimension, entryKey⟩, value⟩ _
  simp [fallsIn, Prod.ext_iff]

omit [DecidableEq K] in
theorem sumAt_dateEntries (positions : List (PositionValue K)) (date : Date) :
    Dict.sumAt (dateEntries positions) date = dateTotal positions date := by
  rw [Dict.sumAt, dateTotal, dateEntries, List.filter_map, List.map_map]
  rfl

theorem membersTotal_all (positions : List (PositionValue K)) :
    membersTotal texts issuerMap positions date dimension (fun _ => true) =
      dateTotal positions date := by
  simp only [membersTotal, dateTotal, Bool.and_true]

end Sums

section Points

variable {texts : PyTexts K} {issuerMap : Dict String (String × Option String)}

/-- The point of an item, where it raises nothing. -/
def pointOf (aggregation : ExposureAggregation K)
    (item : (Date × GroupingDimension × String) × PyNumber K) : Option (ExposurePoint K) :=
  match exposurePoint aggregation item with
  | .ok point => point
  | .error _ => none

/-- An item has no point where its date totals zero, and otherwise the weight of its value. -/
theorem exposurePoint_eq_ok {aggregation : ExposureAggregation K} :
    exposurePoint aggregation item = .ok point ↔
      aggregation.totalsByDate.getD item.1.1 0 = .finite 0 ∧ point = none ∨
      ∃ total number, aggregation.totalsByDate.getD item.1.1 0 = .finite total ∧ total ≠ 0 ∧
        item.2 = .finite number ∧ point = some ⟨item.1.1, item.1.2.1, item.1.2.2,
          aggregation.labels.getD item.1.2 none, number / total⟩ := by
  rw [exposurePoint]
  cases aggregation.totalsByDate.getD item.1.1 0 with
  | nonFinite =>
    apply iff_of_false
    · intro hpoint
      cases hpoint
    · intro hor
      rcases hor with ⟨h, -⟩ | ⟨total, number, h, -⟩
      · cases h
      · cases h
  | finite total =>
    by_cases hzero : total = 0
    · simp only [if_pos hzero]
      constructor
      · intro h
        cases h
        exact .inl ⟨congrArg PyNumber.finite hzero, rfl⟩
      · intro hor
        rcases hor with ⟨-, rfl⟩ | ⟨total', number, h, hne, -⟩
        · rfl
        · cases h
          exact absurd hzero hne
    · simp only [if_neg hzero]
      cases item.2 with
      | nonFinite =>
        apply iff_of_false
        · intro hpoint
          cases hpoint
        · intro hor
          rcases hor with ⟨h, -⟩ | ⟨total', number, -, -, h, -⟩
          · cases h
            exact hzero rfl
          · cases h
      | finite number =>
        constructor
        · intro h
          cases h
          exact .inr ⟨total, number, rfl, hzero, rfl, rfl⟩
        · intro hor
          rcases hor with ⟨h, -⟩ | ⟨total', number', h, -, hvalue, rfl⟩
          · cases h
            exact absurd rfl hzero
          · cases h
            cases hvalue
            rfl

theorem pointOf_of_ok {aggregation : ExposureAggregation K}
    (h : exposurePoint aggregation item = .ok point) : pointOf aggregation item = point := by
  rw [pointOf, h]

theorem pointOf_rowKey {aggregation : ExposureAggregation K}
    (h : pointOf aggregation item = some point) : point.rowKey = item.1 := by
  rw [pointOf] at h
  cases hpoint : exposurePoint aggregation item with
  | error e => simp [hpoint] at h
  | ok result =>
    simp only [hpoint] at h
    rcases exposurePoint_eq_ok.1 hpoint with ⟨-, rfl⟩ | ⟨total, number, -, -, -, rfl⟩
    · cases h
    · cases h
      rfl

/-- What `buildExposurePoints` returns: the points of the items of the aggregation, sorted. -/
theorem buildExposurePoints_spec {rows : List (List (String × PyValue K))} :
    buildExposurePoints texts issuerMap dimensions rows = .ok points ↔
      ∃ aggregation, rows.foldlM (addPositionRow texts issuerMap dimensions)
          ExposureAggregation.empty = .ok aggregation ∧
        (∀ item ∈ aggregation.groupedValues.items,
          exposurePoint aggregation item = .ok (pointOf aggregation item)) ∧
        points =
          sortExposurePoints (aggregation.groupedValues.items.filterMap (pointOf aggregation)) := by
  constructor
  · intro h
    obtain ⟨aggregation, haggregation, h⟩ := bind_eq_ok.1 h
    obtain ⟨options, hoptions, h⟩ := bind_eq_ok.1 h
    cases h
    have hitems : ∀ item ∈ aggregation.groupedValues.items,
        exposurePoint aggregation item = .ok (pointOf aggregation item) := by
      intro item hitem
      obtain ⟨option, -, hoption⟩ := exists_of_mem_right (mapM_eq_ok.1 hoptions).flip hitem
      rw [pointOf, hoption]
    refine ⟨aggregation, haggregation, hitems, ?_⟩
    have hmapped := mapM_ok hitems
    rw [hoptions] at hmapped
    cases hmapped
    rw [List.filterMap_map]
    rfl
  · rintro ⟨aggregation, haggregation, hitems, rfl⟩
    apply bind_eq_ok.2
    refine ⟨aggregation, haggregation, bind_eq_ok.2 ⟨_, mapM_ok hitems, ?_⟩⟩
    rw [List.filterMap_map]
    rfl

variable {aggregation : ExposureAggregation K} {positions : List (PositionValue K)}

theorem ExposureAggregation.Aggregates.mem_items
    (h : aggregation.Aggregates texts issuerMap dimensions positions) :
    ((date, dimension, key), value) ∈ aggregation.groupedValues.items ↔
      (∃ position ∈ positions, position.date = date ∧ dimension ∈ dimensions ∧
        groupKeyOf texts issuerMap position.row dimension = key) ∧
      value = dimensions.count dimension •
        groupTotal texts issuerMap positions date dimension key := by
  rw [h.grouped, Dict.mem_items_tally, sumAt_groupEntries]
  apply and_congr_left'
  rw [List.mem_map]
  constructor
  · rintro ⟨entry, hentry, hkey⟩
    obtain ⟨position, hposition, hentry⟩ := List.mem_flatMap.1 hentry
    obtain ⟨listed, hlisted, rfl⟩ := List.mem_map.1 hentry
    cases hkey
    exact ⟨position, hposition, rfl, hlisted, rfl⟩
  · rintro ⟨position, hposition, rfl, hlisted, rfl⟩
    exact ⟨_, List.mem_flatMap.2 ⟨position, hposition, List.mem_map_of_mem hlisted⟩, rfl⟩

theorem ExposureAggregation.Aggregates.total
    (h : aggregation.Aggregates texts issuerMap dimensions positions) (date : Date) :
    aggregation.totalsByDate.getD date 0 = dateTotal positions date := by
  rw [h.totals, Dict.getD_tally, sumAt_dateEntries]

omit [DecidableEq K] in
/-- A date that totals anything has a position. -/
theorem exists_position (h : dateTotal positions date ≠ .finite 0) :
    ∃ position ∈ positions, position.date = date := by
  by_contra hnone
  apply h
  rw [dateTotal, List.filter_eq_nil_iff.2]
  · rfl
  · intro position hposition hdate
    exact hnone ⟨position, hposition, of_decide_eq_true hdate⟩

theorem pointOf_eq_some (hok : exposurePoint aggregation item = .ok (pointOf aggregation item))
    (hne : aggregation.totalsByDate.getD item.1.1 0 ≠ .finite 0) :
    ∃ total number, aggregation.totalsByDate.getD item.1.1 0 = .finite total ∧ total ≠ 0 ∧
      item.2 = .finite number ∧ pointOf aggregation item = some ⟨item.1.1, item.1.2.1, item.1.2.2,
        aggregation.labels.getD item.1.2 none, number / total⟩ := by
  rcases exposurePoint_eq_ok.1 hok with ⟨hzero, -⟩ | h
  · exact absurd hzero hne
  · exact h

/-- The items of a date and a dimension add up to the total of the date, as often as the dimension
is listed. -/
theorem sum_items (dimension : GroupingDimension)
    (h : aggregation.Aggregates texts issuerMap dimensions positions)
    (htotal : dateTotal positions date = .finite total) :
    (∀ item ∈ aggregation.groupedValues.items.filter
      (fun item => fallsIn date dimension (fun _ => true) item.1),
      item.2 = .finite item.2.toFinite) ∧
    ((aggregation.groupedValues.items.filter
      (fun item => fallsIn date dimension (fun _ => true) item.1)).map
      (fun item => item.2.toFinite)).sum = dimensions.count dimension • total := by
  have hsum := Dict.sum_items_tally (groupEntries texts issuerMap dimensions positions)
    (fallsIn date dimension (fun _ => true))
  rw [← h.grouped, sum_groupEntries, membersTotal_all, htotal, PyNumber.nsmul_finite,
    PyNumber.sum_eq_finite, List.map_map] at hsum
  refine ⟨?_, hsum.2⟩
  intro item hitem
  exact hsum.1 item.2 (List.mem_map_of_mem hitem)

/-- The weights of the points of a date and a dimension. -/
def weightsOf (points : List (ExposurePoint K)) (date : Date) (dimension : GroupingDimension) :
    List K :=
  (points.filter (fun point => decide (point.date = date) &&
    decide (point.groupingDimension = dimension))).map ExposurePoint.weight

omit [DecidableEq K] [Field K] in
theorem weightsOf_perm {points points' : List (ExposurePoint K)} (h : points.Perm points') :
    (weightsOf points date dimension).Perm (weightsOf points' date dimension) :=
  (h.filter _).map _

/-- The points of a date and a dimension come from its items. -/
theorem filter_points (items : List ((Date × GroupingDimension × String) × PyNumber K)) :
    (items.filterMap (pointOf aggregation)).filter (fun point => decide (point.date = date) &&
      decide (point.groupingDimension = dimension)) =
    (items.filter (fun item => fallsIn date dimension (fun _ => true) item.1)).filterMap
      (pointOf aggregation) := by
  rw [List.filter_filterMap, List.filterMap_filter]
  apply List.filterMap_congr
  intro item _
  cases hpoint : pointOf aggregation item with
  | none => split_ifs <;> rfl
  | some point =>
    have hkey := pointOf_rowKey hpoint
    rw [← hkey, fallsIn, Bool.and_true]
    rfl

theorem sum_weights (h : aggregation.Aggregates texts issuerMap dimensions positions)
    (hok : ∀ item ∈ aggregation.groupedValues.items,
      exposurePoint aggregation item = .ok (pointOf aggregation item))
    (hdimension : dimension ∈ dimensions) (hne : dateTotal positions date ≠ .finite 0) :
    (weightsOf (aggregation.groupedValues.items.filterMap (pointOf aggregation)) date
      dimension).sum = dimensions.count dimension := by
  obtain ⟨position, hposition, hdate⟩ := exists_position hne
  have hsome : ∀ item ∈ aggregation.groupedValues.items, item.1.1 = date →
      ∃ total number, dateTotal positions date = .finite total ∧ total ≠ 0 ∧
        item.2 = .finite number ∧ pointOf aggregation item = some ⟨item.1.1, item.1.2.1, item.1.2.2,
          aggregation.labels.getD item.1.2 none, number / total⟩ := by
    intro item hitem hsame
    have htotal := h.total item.1.1
    rw [← hsame] at hne ⊢
    rw [← htotal] at hne ⊢
    exact pointOf_eq_some (hok item hitem) hne
  obtain ⟨total, number, htotal, hzero, -, -⟩ := hsome
    ((date, dimension, groupKeyOf texts issuerMap position.row dimension), _)
    (h.mem_items.2 ⟨⟨position, hposition, hdate, hdimension, rfl⟩, rfl⟩) rfl
  obtain ⟨hfinite, hsum⟩ := sum_items dimension h htotal
  have hweights : weightsOf (aggregation.groupedValues.items.filterMap (pointOf aggregation)) date
      dimension = (aggregation.groupedValues.items.filter
        (fun item => fallsIn date dimension (fun _ => true) item.1)).map
          (fun item => item.2.toFinite * total⁻¹) := by
    rw [weightsOf, filter_points, List.map_filterMap]
    apply List.filterMap_eq_map_iff_forall_eq_some.2
    intro item hitem
    obtain ⟨hmem, hfalls⟩ := List.mem_filter.1 hitem
    have hsame : item.1.1 = date := by
      rw [fallsIn, Bool.and_eq_true] at hfalls
      exact of_decide_eq_true hfalls.1
    obtain ⟨total', number', htotal', -, hvalue, hpoint⟩ := hsome item hmem hsame
    rw [htotal] at htotal'
    cases htotal'
    rw [hpoint, hvalue, div_eq_mul_inv]
    rfl
  rw [hweights, List.sum_map_mul_right, hsum, nsmul_eq_mul, mul_assoc, mul_inv_cancel₀ hzero,
    mul_one]

end Points

end LotusRisk
