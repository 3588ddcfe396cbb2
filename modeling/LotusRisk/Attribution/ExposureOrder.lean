import LotusRisk.Attribution.ExposureGrouping

/-! The exposure points are a grouping of the rows that does not depend on their order, exactly
where no dimension is requested twice or there is nothing to weigh. -/

namespace LotusRisk
set_option autoImplicit true

open Relational

variable {K : Type}

section Sorting

theorem GroupingDimension.text_injective : Function.Injective GroupingDimension.text := by
  intro d e h
  cases d <;> cases e <;> first | rfl | exact absurd h (by decide)

/-- The order of points, as an order of their keys. -/
def sortKeyOf (key : Date × GroupingDimension × String) : Date ×ₗ String ×ₗ String :=
  toLex (key.1, toLex (key.2.1.text, key.2.2))

theorem sortKeyOf_injective : Function.Injective sortKeyOf := by
  rintro ⟨date, dimension, key⟩ ⟨date', dimension', key'⟩ h
  obtain ⟨hdate, hrest⟩ := Prod.ext_iff.1 (toLex.injective h)
  obtain ⟨hdimension, hkey⟩ := Prod.ext_iff.1 (toLex.injective hrest)
  exact Prod.ext hdate (Prod.ext (GroupingDimension.text_injective hdimension) hkey)

theorem sortExposurePoints_perm (points : List (ExposurePoint K)) :
    (sortExposurePoints points).Perm points := List.perm_insertionSort _ points

theorem sortExposurePoints_sorted (points : List (ExposurePoint K)) :
    (sortExposurePoints points).Pairwise (fun p q => p.sortKey ≤ q.sortKey) := by
  apply List.pairwise_insertionSort

/-- A point without its label. -/
def ExposurePoint.weighedKey (point : ExposurePoint K) : (Date × GroupingDimension × String) × K :=
  (point.rowKey, point.weight)

/-- Sorted points with distinct keys are in the order of their keys. -/
theorem weighedKeys_ascending {points : List (ExposurePoint K)}
    (hdistinct : (points.map ExposurePoint.rowKey).Nodup) :
    ((sortExposurePoints points).map ExposurePoint.weighedKey).Pairwise
      (fun p q => sortKeyOf p.1 < sortKeyOf q.1) := by
  rw [List.pairwise_map]
  have hnodup : ((sortExposurePoints points).map ExposurePoint.rowKey).Nodup :=
    ((sortExposurePoints_perm points).map _).nodup_iff.2 hdistinct
  apply ((sortExposurePoints_sorted points).and (List.pairwise_map.1 hnodup)).imp
  rintro p q ⟨hle, hne⟩
  exact lt_of_le_of_ne hle (fun heq => hne (sortKeyOf_injective heq))

/-- The order of the points is that of their keys alone. -/
theorem weighedKeys_eq {points points' : List (ExposurePoint K)}
    (hdistinct : (points.map ExposurePoint.rowKey).Nodup)
    (hperm : (points.map ExposurePoint.weighedKey).Perm (points'.map ExposurePoint.weighedKey)) :
    (sortExposurePoints points).map ExposurePoint.weighedKey =
      (sortExposurePoints points').map ExposurePoint.weighedKey := by
  have hdistinct' : (points'.map ExposurePoint.rowKey).Nodup := by
    have hkeys := hperm.map Prod.fst
    rw [List.map_map, List.map_map] at hkeys
    exact hkeys.nodup_iff.1 hdistinct
  apply List.Perm.eq_of_pairwise _ (weighedKeys_ascending hdistinct)
    (weighedKeys_ascending hdistinct')
  · exact ((sortExposurePoints_perm points).map _).trans
      (hperm.trans ((sortExposurePoints_perm points').map _).symm)
  · intro p q _ _ hlt hgt
    exact absurd hgt (lt_asymm hlt)

end Sorting

variable [DecidableEq K] [Field K] {texts : PyTexts K}
  {issuerMap : Dict String (String × Option String)}

section Points

variable {aggregation : ExposureAggregation K}

theorem rowKeys_distinct : ((aggregation.groupedValues.items.filterMap
    (pointOf aggregation)).map ExposurePoint.rowKey).Nodup := by
  apply List.pairwise_map.2
  rw [List.pairwise_filterMap]
  apply (List.pairwise_map.1 aggregation.groupedValues.unique).imp
  intro item item' hne point hpoint point' hpoint'
  rw [pointOf_rowKey hpoint, pointOf_rowKey hpoint']
  exact hne

/-- The weight of an item depends on the total of its date alone. -/
theorem exposurePoint_congr {aggregation' : ExposureAggregation K}
    (htotal : aggregation.totalsByDate.getD item.1.1 0 = aggregation'.totalsByDate.getD item.1.1 0)
    (hok : exposurePoint aggregation item = .ok (pointOf aggregation item)) :
    exposurePoint aggregation' item = .ok (pointOf aggregation' item) ∧
      (pointOf aggregation item).map ExposurePoint.weighedKey =
        (pointOf aggregation' item).map ExposurePoint.weighedKey := by
  rcases exposurePoint_eq_ok.1 hok with ⟨hzero, hnone⟩ | ⟨total, number, hsome, hne, hvalue, hpoint⟩
  · have hok' : exposurePoint aggregation' item = .ok none :=
      exposurePoint_eq_ok.2 (.inl ⟨htotal.symm.trans hzero, rfl⟩)
    rw [hnone, pointOf_of_ok hok']
    exact ⟨hok', rfl⟩
  · have hok' : exposurePoint aggregation' item = .ok (some ⟨item.1.1, item.1.2.1, item.1.2.2,
        aggregation'.labels.getD item.1.2 none, number / total⟩) :=
      exposurePoint_eq_ok.2 (.inr ⟨total, number, htotal.symm.trans hsome, hne, hvalue, rfl⟩)
    rw [hpoint, pointOf_of_ok hok']
    exact ⟨hok', rfl⟩

end Points

section Rows

variable {rows : List (List (String × PyValue K))}

/-- The rows in another order give the same points. -/
theorem build_perm (h : buildExposurePoints texts issuerMap dimensions rows = .ok points)
    (hperm : rows'.Perm rows) :
    ∃ points', buildExposurePoints texts issuerMap dimensions rows' = .ok points' ∧
      points'.map ExposurePoint.weighedKey = points.map ExposurePoint.weighedKey := by
  obtain ⟨aggregation, haggregation, hitems, rfl⟩ := buildExposurePoints_spec.1 h
  obtain ⟨hread, haggregates⟩ := aggregates_of_rows haggregation
  have hpositions : (positionValues texts rows').Perm (positionValues texts rows) :=
    hperm.filterMap _
  have hread' : ∀ row ∈ rows', ReadableRow texts row :=
    fun row hrow => hread row (hperm.mem_iff.1 hrow)
  have hcustom' : positionValues texts rows' ≠ [] → .custom ∉ dimensions := by
    intro hne
    apply haggregates.supported
    intro hnil
    rw [hnil] at hpositions
    exact hne hpositions.eq_nil
  have hexists : ∃ aggregation', rows'.foldlM (addPositionRow texts issuerMap dimensions)
      ExposureAggregation.empty = .ok aggregation' := exists_aggregation hread' hcustom'
  obtain ⟨aggregation', haggregation'⟩ := hexists
  obtain ⟨-, haggregates'⟩ := aggregates_of_rows haggregation'
  have hsame : aggregation'.groupedValues.items.Perm aggregation.groupedValues.items := by
    rw [haggregates'.grouped, haggregates.grouped]
    exact Dict.items_tally_perm (hpositions.flatMap_right _)
  have htotals : ∀ date, aggregation.totalsByDate.getD date 0 =
      aggregation'.totalsByDate.getD date 0 := by
    intro date
    rw [haggregates.totals, haggregates'.totals, Dict.getD_tally, Dict.getD_tally]
    exact Dict.sumAt_perm (hpositions.symm.map _) date
  have hcongr : ∀ item ∈ aggregation'.groupedValues.items,
      exposurePoint aggregation' item = .ok (pointOf aggregation' item) ∧
        (pointOf aggregation item).map ExposurePoint.weighedKey =
          (pointOf aggregation' item).map ExposurePoint.weighedKey :=
    fun item hitem => exposurePoint_congr (htotals item.1.1) (hitems item (hsame.mem_iff.1 hitem))
  refine ⟨_, buildExposurePoints_spec.2 ⟨aggregation', haggregation',
    fun item hitem => (hcongr item hitem).1, rfl⟩, ?_⟩
  apply weighedKeys_eq rowKeys_distinct
  rw [List.map_filterMap, List.map_filterMap]
  rw [List.filterMap_congr (fun item hitem => (hcongr item hitem).2.symm)]
  exact hsame.filterMap _

/-- The points weigh the groups of each date whose total is not zero: they add up to one in each
requested dimension, one point for each group with every row of the date in one group, sorted, and
the same in whichever order the rows come. -/
structure ExposureGrouping (texts : PyTexts K) (issuerMap : Dict String (String × Option String))
    (dimensions : List GroupingDimension) (rows : List (List (String × PyValue K)))
    (points : List (ExposurePoint K)) : Prop where
  sums_to_one : ∀ date, dateTotal (positionValues texts rows) date ≠ .finite 0 →
    ∀ dimension ∈ dimensions, (weightsOf points date dimension).sum = 1
  one_point : (points.map ExposurePoint.rowKey).Nodup
  covers : ∀ position ∈ positionValues texts rows,
    dateTotal (positionValues texts rows) position.date ≠ .finite 0 →
    ∀ dimension ∈ dimensions, ∃ point ∈ points, point.rowKey =
      (position.date, dimension, groupKeyOf texts issuerMap position.row dimension)
  counted_once : ∀ point ∈ points, point.groupingDimension ∈ dimensions ∧ ∃ value total,
    groupTotal texts issuerMap (positionValues texts rows) point.date point.groupingDimension
      point.groupKey = .finite value ∧
    dateTotal (positionValues texts rows) point.date = .finite total ∧ total ≠ 0 ∧
    point.weight = value / total
  sorted : points.Pairwise (fun p q => p.sortKey ≤ q.sortKey)
  order_independent : ∀ rows', rows'.Perm rows → ∃ points',
    buildExposurePoints texts issuerMap dimensions rows' = .ok points' ∧
      points'.map ExposurePoint.weighedKey = points.map ExposurePoint.weighedKey

theorem weights_sum (h : buildExposurePoints texts issuerMap dimensions rows = .ok points)
    (hdimension : dimension ∈ dimensions)
    (hne : dateTotal (positionValues texts rows) date ≠ .finite 0) :
    (weightsOf points date dimension).sum = dimensions.count dimension := by
  obtain ⟨aggregation, haggregation, hitems, rfl⟩ := buildExposurePoints_spec.1 h
  obtain ⟨-, haggregates⟩ := aggregates_of_rows haggregation
  rw [(weightsOf_perm (sortExposurePoints_perm _)).sum_eq]
  exact sum_weights haggregates hitems hdimension hne

theorem points_distinct (h : buildExposurePoints texts issuerMap dimensions rows = .ok points) :
    (points.map ExposurePoint.rowKey).Nodup := by
  obtain ⟨aggregation, -, -, rfl⟩ := buildExposurePoints_spec.1 h
  exact ((sortExposurePoints_perm _).map _).nodup_iff.2 rowKeys_distinct

theorem points_sorted (h : buildExposurePoints texts issuerMap dimensions rows = .ok points) :
    points.Pairwise (fun p q => p.sortKey ≤ q.sortKey) := by
  obtain ⟨aggregation, -, -, rfl⟩ := buildExposurePoints_spec.1 h
  exact sortExposurePoints_sorted _

theorem points_cover (h : buildExposurePoints texts issuerMap dimensions rows = .ok points)
    (hposition : position ∈ positionValues texts rows)
    (hne : dateTotal (positionValues texts rows) position.date ≠ .finite 0)
    (hdimension : dimension ∈ dimensions) : ∃ point ∈ points, point.rowKey =
      (position.date, dimension, groupKeyOf texts issuerMap position.row dimension) := by
  obtain ⟨aggregation, haggregation, hitems, rfl⟩ := buildExposurePoints_spec.1 h
  obtain ⟨-, haggregates⟩ := aggregates_of_rows haggregation
  have hitem := haggregates.mem_items.2
    ⟨⟨position, hposition, rfl, hdimension, rfl⟩, rfl⟩
  rw [← haggregates.total] at hne
  obtain ⟨total, number, -, -, -, hpoint⟩ := pointOf_eq_some (hitems _ hitem) hne
  refine ⟨_, (sortExposurePoints_perm _).mem_iff.2 (List.mem_filterMap.2 ⟨_, hitem, hpoint⟩), rfl⟩

/-- A point weighs its group as often as its dimension is listed. -/
theorem points_weigh (h : buildExposurePoints texts issuerMap dimensions rows = .ok points)
    (hpoint : point ∈ points) : point.groupingDimension ∈ dimensions ∧ ∃ value total,
      dimensions.count point.groupingDimension •
        groupTotal texts issuerMap (positionValues texts rows) point.date point.groupingDimension
          point.groupKey = .finite value ∧
      dateTotal (positionValues texts rows) point.date = .finite total ∧ total ≠ 0 ∧
      point.weight = value / total := by
  obtain ⟨aggregation, haggregation, hitems, rfl⟩ := buildExposurePoints_spec.1 h
  obtain ⟨-, haggregates⟩ := aggregates_of_rows haggregation
  rw [(sortExposurePoints_perm _).mem_iff, List.mem_filterMap] at hpoint
  obtain ⟨⟨⟨date, dimension, key⟩, value⟩, hitem, hpoint⟩ := hpoint
  obtain ⟨⟨position, -, -, hdimension, -⟩, hvalue⟩ := haggregates.mem_items.1 hitem
  rcases exposurePoint_eq_ok.1 (hitems _ hitem) with
    ⟨-, hnone⟩ | ⟨total, number, htotal, hne, hnumber, hsome⟩
  · rw [hpoint] at hnone
    cases hnone
  · rw [hpoint] at hsome
    cases hsome
    rw [haggregates.total] at htotal
    exact ⟨hdimension, number, total, hvalue.symm.trans hnumber, htotal, hne, rfl⟩

/-- The points group the rows exactly where no dimension is requested twice, or no date has a
total. -/
theorem exposure_grouping_iff [CharZero K]
    (h : buildExposurePoints texts issuerMap dimensions rows = .ok points) :
    ExposureGrouping texts issuerMap dimensions rows points ↔
      dimensions.Nodup ∨ ∀ date, dateTotal (positionValues texts rows) date = .finite 0 := by
  constructor
  · intro hgrouping
    by_contra hneither
    rw [not_or, not_forall] at hneither
    obtain ⟨hdup, date, hne⟩ := hneither
    apply hdup
    rw [List.nodup_iff_count_eq_one]
    intro dimension hdimension
    have hsum := hgrouping.sums_to_one date hne dimension hdimension
    rw [weights_sum h hdimension hne] at hsum
    exact_mod_cast hsum
  · intro hor
    have hcount : ∀ date, dateTotal (positionValues texts rows) date ≠ .finite 0 →
        ∀ dimension ∈ dimensions, dimensions.count dimension = 1 := by
      intro date hne dimension hdimension
      rcases hor with hnodup | hzero
      · exact List.count_eq_one_of_mem hnodup hdimension
      · exact absurd (hzero date) hne
    refine ⟨?_, points_distinct h, ?_, ?_, points_sorted h, fun rows' hperm => build_perm h hperm⟩
    · intro date hne dimension hdimension
      rw [weights_sum h hdimension hne, hcount date hne dimension hdimension, Nat.cast_one]
    · intro position hposition hne dimension hdimension
      exact points_cover h hposition hne hdimension
    · intro point hpoint
      obtain ⟨hdimension, value, total, hvalue, htotal, hne, hweight⟩ := points_weigh h hpoint
      have hdate : dateTotal (positionValues texts rows) point.date ≠ .finite 0 := by
        rw [htotal]
        intro heq
        cases heq
        exact hne rfl
      rw [hcount _ hdate _ hdimension, one_nsmul] at hvalue
      exact ⟨hdimension, value, total, hvalue, htotal, hne, hweight⟩

end Rows

section SectorRows

/-- A position of a sector. -/
def sectorRow (securityId valuationDate sector marketValue : String) :
    List (String × PyValue ℚ) :=
  [("security_id", .str securityId), ("valuation_date", .str valuationDate),
    ("dimensions", .dict [("sector", .str sector)]),
    ("ending_market_value_portfolio_currency", .str marketValue)]

/-- Two positions on the first Monday of 2026 and one of them on the next day. -/
def sectorRows : List (List (String × PyValue ℚ)) :=
  [sectorRow "SEC_1" "2026-01-05" "TECH" "100", sectorRow "SEC_2" "2026-01-05" "HEALTH" "300",
    sectorRow "SEC_1" "2026-01-06" "TECH" "250"]

theorem exposure_grouping_sectors : ∃ points,
    buildExposurePoints plainTexts Table.empty [.sector, .position] sectorRows = .ok points ∧
      points.map ExposurePoint.weight = [1 / 4, 3 / 4, 3 / 4, 1 / 4, 1, 1] ∧
      ExposureGrouping plainTexts Table.empty [.sector, .position] sectorRows points := by
  obtain ⟨points, h⟩ := ok_of_isSome
    (x := buildExposurePoints plainTexts Table.empty [.sector, .position] sectorRows)
    (by decide +kernel)
  have hweights : (buildExposurePoints plainTexts Table.empty [.sector, .position] sectorRows).map
      (List.map ExposurePoint.weight) = .ok [1 / 4, 3 / 4, 3 / 4, 1 / 4, 1, 1] := by
    decide +kernel
  rw [h] at hweights
  exact ⟨points, h, Except.ok.inj hweights, (exposure_grouping_iff h).2 (.inl (by decide))⟩

theorem firstRow_total :
    dateTotal (positionValues plainTexts (sectorRows.take 1)) firstMonday ≠ .finite 0 := by
  decide +kernel

/-- A sector requested twice weighs its only group twice. -/
theorem sector_twice : ∃ points,
    buildExposurePoints plainTexts Table.empty [.sector, .sector] (sectorRows.take 1) = .ok points ∧
      ¬ ExposureGrouping plainTexts Table.empty [.sector, .sector] (sectorRows.take 1) points := by
  obtain ⟨points, h⟩ := ok_of_isSome
    (x := buildExposurePoints plainTexts Table.empty [.sector, .sector] (sectorRows.take 1))
    (by decide +kernel)
  refine ⟨points, h, ?_⟩
  intro hgrouping
  have hone := hgrouping.sums_to_one firstMonday firstRow_total .sector List.mem_cons_self
  have htwo := weights_sum h List.mem_cons_self firstRow_total
  rw [hone] at htwo
  exact absurd htwo (by decide)

end SectorRows

end LotusRisk
