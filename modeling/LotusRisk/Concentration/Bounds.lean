import LotusRisk.Concentration.Metrics
import LotusRisk.Concentration.Snapshot
import LotusRisk.Lib.Shares

/-! Bounds of the concentration measures, and what merging positions into issuers does to them. -/

namespace LotusRisk
set_option autoImplicit true

open Relational
open Shares

section Weights

variable {values : List ℚ}

theorem exposureTotal_eq (h : ∀ v ∈ values, 0 ≤ v) : exposureTotal values = values.sum := by
  change (values.map fun v => |v|).sum = _
  rw [List.map_congr_left (fun v hv => abs_of_nonneg (h v hv)), List.map_id']

theorem computeHhi_eq (h : ∀ v ∈ values, 0 ≤ v) (hpos : 0 < values.sum) :
    computeHhi values = sumSquares values / values.sum ^ 2 * 10000 := by
  have hsquare : ∀ v ∈ values, |v| / values.sum * (|v| / values.sum) =
      v * v * (values.sum ^ 2)⁻¹ := by
    intro v hv
    rw [abs_of_nonneg (h v hv), div_mul_div_comm, div_eq_mul_inv, pow_two]
  simp only [computeHhi, exposureTotal_eq h, rat_le, rat_zero, decide_eq_true_eq,
    if_neg hpos.not_ge, List.map_map]
  change (values.map fun v => |v| / values.sum * (|v| / values.sum)).sum * 10000 = _
  rw [List.map_congr_left hsquare, List.sum_map_mul_right, ← div_eq_mul_inv, sumSquares]

/-- The weights of the positions, from the greatest on. -/
def sortedWeights (values : List ℚ) : List ℚ :=
  (values.map fun v => |v| / exposureTotal values).insertionSort (· ≥ ·)

theorem singlePositionMetrics_eq (h : ∀ v ∈ values, 0 ≤ v) (hpos : 0 < values.sum) (topN : Nat) :
    singlePositionMetrics values topN =
      ((sortedWeights values).headD 0, ((sortedWeights values).take topN).sum) := by
  simp only [singlePositionMetrics, exposureTotal_eq h, rat_le, rat_zero, decide_eq_true_eq,
    if_neg hpos.not_ge, sortedWeights]
  rfl

theorem mem_sortedWeights (h : ∀ v ∈ values, 0 ≤ v) :
    w ∈ sortedWeights values ↔ ∃ v ∈ values, v / values.sum = w := by
  rw [sortedWeights, (List.perm_insertionSort _ _).mem_iff, List.mem_map, exposureTotal_eq h]
  apply exists_congr
  intro v
  apply and_congr_right
  intro hv
  rw [abs_of_nonneg (h v hv)]

theorem sortedWeights_nonneg (h : ∀ v ∈ values, 0 ≤ v) : ∀ w ∈ sortedWeights values, 0 ≤ w := by
  intro w hw
  obtain ⟨v, hv, rfl⟩ := (mem_sortedWeights h).1 hw
  exact div_nonneg (h v hv) (sum_nonneg h)

theorem sum_sortedWeights (h : ∀ v ∈ values, 0 ≤ v) (hpos : 0 < values.sum) :
    (sortedWeights values).sum = 1 := by
  have hweights : ∀ v ∈ values, |v| / values.sum = v * values.sum⁻¹ := by
    intro v hv
    rw [abs_of_nonneg (h v hv), div_eq_mul_inv]
  rw [sortedWeights, (List.perm_insertionSort _ _).sum_eq, exposureTotal_eq h,
    List.map_congr_left hweights, List.sum_map_mul_right, List.map_id']
  exact mul_inv_cancel₀ hpos.ne'

/-- The greatest weight is that of a greatest position. -/
theorem exists_top (h : ∀ v ∈ values, 0 ≤ v) (hpos : 0 < values.sum) :
    ∃ m ∈ values, (∀ v ∈ values, v ≤ m) ∧
      (sortedWeights values).headD 0 = m / values.sum := by
  cases hsorted : sortedWeights values with
  | nil =>
    have hsum := sum_sortedWeights h hpos
    rw [hsorted] at hsum
    exact absurd hsum (by decide)
  | cons w ws =>
    have hdesc : (sortedWeights values).Pairwise (· ≥ ·) := List.pairwise_insertionSort _ _
    rw [hsorted, List.pairwise_cons] at hdesc
    have hall : ∀ x ∈ sortedWeights values, x ≤ w := by
      intro x hx
      rw [hsorted] at hx
      cases List.mem_cons.1 hx with
      | inl heq => exact heq.le
      | inr hmem => exact hdesc.1 x hmem
    have hw : w ∈ sortedWeights values := by
      rw [hsorted]
      exact List.mem_cons_self
    obtain ⟨m, hm, rfl⟩ := (mem_sortedWeights h).1 hw
    refine ⟨m, hm, ?_, rfl⟩
    intro v hv
    have hle := hall _ ((mem_sortedWeights h).2 ⟨v, hv, rfl⟩)
    exact (div_le_div_iff_of_pos_right hpos).1 hle

end Weights

section Bounds

/-- The bounds of the measures of a list of exposures. -/
structure ConcentrationBounds (values : List ℚ) : Prop where
  hhi_lower : 10000 / values.length ≤ computeHhi values
  hhi_upper : computeHhi values ≤ 10000
  top_le_topN : ∀ k, 1 ≤ k → (singlePositionMetrics values k).1 ≤ (singlePositionMetrics values k).2
  topN_le_one : ∀ k, (singlePositionMetrics values k).2 ≤ 1
  topN_mono : ∀ j k, j ≤ k → (singlePositionMetrics values j).2 ≤ (singlePositionMetrics values k).2
  top_sq_le_hhi : ∀ k, 10000 * (singlePositionMetrics values k).1 ^ 2 ≤ computeHhi values
  hhi_le_top : ∀ k, computeHhi values ≤ 10000 * (singlePositionMetrics values k).1

theorem hhi_bounds {values : List ℚ} (h : ∀ v ∈ values, 0 ≤ v) (hpos : 0 < values.sum) :
    10000 / values.length ≤ computeHhi values ∧ computeHhi values ≤ 10000 := by
  have hsquare : 0 < values.sum ^ 2 := pow_pos hpos 2
  have hlength : 0 < (values.length : ℚ) := by
    apply Nat.cast_pos.2
    apply List.length_pos_of_ne_nil
    intro hnil
    rw [hnil] at hpos
    exact lt_irrefl _ hpos
  rw [computeHhi_eq h hpos]
  constructor
  · rw [div_le_iff₀ hlength, div_mul_eq_mul_div, div_mul_eq_mul_div, le_div_iff₀ hsquare]
    have hcauchy := sum_sq_le values
    linarith
  · have hle := sumSquares_le_sq h
    rw [← pow_two] at hle
    have hone := (div_le_one hsquare).2 hle
    linarith

theorem top_bounds {values : List ℚ} (h : ∀ v ∈ values, 0 ≤ v) (hpos : 0 < values.sum) (k : Nat) :
    10000 * (singlePositionMetrics values k).1 ^ 2 ≤ computeHhi values ∧
      computeHhi values ≤ 10000 * (singlePositionMetrics values k).1 := by
  have hsquare : 0 < values.sum ^ 2 := pow_pos hpos 2
  obtain ⟨m, hm, hmax, htop⟩ := exists_top h hpos
  rw [computeHhi_eq h hpos, singlePositionMetrics_eq h hpos, htop]
  constructor
  · have hle := div_le_div_of_nonneg_right (sq_le_sumSquares hm) hsquare.le
    rw [div_pow, pow_two m]
    linarith
  · have hle := div_le_div_of_nonneg_right (sumSquares_le_mul_sum h hmax) hsquare.le
    rw [pow_two values.sum, mul_div_mul_right _ _ hpos.ne', ← pow_two] at hle
    linarith

theorem topN_mono {values : List ℚ} (h : ∀ v ∈ values, 0 ≤ v) (hpos : 0 < values.sum)
    (hjk : j ≤ k) : (singlePositionMetrics values j).2 ≤ (singlePositionMetrics values k).2 := by
  rw [singlePositionMetrics_eq h hpos, singlePositionMetrics_eq h hpos]
  exact sum_take_mono (sortedWeights_nonneg h) hjk

theorem top_le_topN {values : List ℚ} (h : ∀ v ∈ values, 0 ≤ v) (hpos : 0 < values.sum)
    (hk : 1 ≤ k) : (singlePositionMetrics values k).1 ≤ (singlePositionMetrics values k).2 := by
  have hfirst : (singlePositionMetrics values k).1 = (singlePositionMetrics values 1).2 := by
    rw [singlePositionMetrics_eq h hpos, singlePositionMetrics_eq h hpos]
    cases sortedWeights values with
    | nil => rfl
    | cons w ws => exact (add_zero w).symm
  rw [hfirst]
  exact topN_mono h hpos hk

theorem topN_le_one {values : List ℚ} (h : ∀ v ∈ values, 0 ≤ v) (hpos : 0 < values.sum) (k : Nat) :
    (singlePositionMetrics values k).2 ≤ 1 := by
  rw [singlePositionMetrics_eq h hpos, ← sum_sortedWeights h hpos]
  exact List.Sublist.sum_le_sum (List.take_sublist k _) (sortedWeights_nonneg h)

theorem concentrationBounds {values : List ℚ} (h : ∀ v ∈ values, 0 ≤ v) (hpos : 0 < values.sum) :
    ConcentrationBounds values where
  hhi_lower := (hhi_bounds h hpos).1
  hhi_upper := (hhi_bounds h hpos).2
  top_le_topN _ hk := top_le_topN h hpos hk
  topN_le_one k := topN_le_one h hpos k
  topN_mono _ _ hjk := topN_mono h hpos hjk
  top_sq_le_hhi k := (top_bounds h hpos k).1
  hhi_le_top k := (top_bounds h hpos k).2

end Bounds

section Merging

/-- The issuer of a row with the value of the row. -/
def issuerValue (issuerBySecurity : Dict String IssuerIdentity) (row : PositionEntry ℚ) :
    Option (String × ℚ) :=
  (issuerOfRow issuerBySecurity row).map fun issuer => (issuer.issuerId, row.value)

/-- The issuer totals are a tally of the values of the covered rows. -/
theorem issuerTotals_eq (rows : List (PositionEntry ℚ))
    (issuerBySecurity : Dict String IssuerIdentity) :
    (toWeightedValues rows issuerBySecurity).issuerTotals.items.map (fun m => (m.1, m.2.value)) =
      (Dict.tally (rows.filterMap (issuerValue issuerBySecurity))).items := by
  induction rows using List.reverseRecOn with
  | nil => rfl
  | append_singleton rows row ih =>
    rw [toWeightedValues, List.foldl_append, List.foldl_cons, List.foldl_nil, ← toWeightedValues,
      List.filterMap_append, Dict.tally, List.foldl_append, ← Dict.tally]
    cases hissuer : issuerOfRow issuerBySecurity row with
    | none =>
      have hnone : issuerValue issuerBySecurity row = none := by
        rw [issuerValue, hissuer]
        rfl
      simp only [weighRow, hissuer, List.filterMap_cons, hnone, List.filterMap_nil, List.foldl_nil]
      exact ih
    | some issuer =>
      have hsome : issuerValue issuerBySecurity row = some (issuer.issuerId, row.value) := by
        rw [issuerValue, hissuer]
        rfl
      have hvalue : ((Dict.tally (rows.filterMap (issuerValue issuerBySecurity))).get?
          issuer.issuerId) = ((toWeightedValues rows issuerBySecurity).issuerTotals.get?
            issuer.issuerId).map IssuerEntry.value := by
        rw [Dict.get?_of_items_map ih]
      simp only [weighRow, hissuer, List.filterMap_cons, hsome, List.filterMap_nil,
        List.foldl_cons, List.foldl_nil, Dict.add]
      rw [Dict.items_set_map ih, Dict.getD, hvalue]
      cases (toWeightedValues rows issuerBySecurity).issuerTotals.get? issuer.issuerId with
      | none => simp
      | some existing => rfl

theorem issuers_values (rows : List (PositionEntry ℚ))
    (issuerBySecurity : Dict String IssuerIdentity) :
    (toWeightedValues rows issuerBySecurity).issuers.map IssuerEntry.value =
      (Dict.tally (rows.filterMap (issuerValue issuerBySecurity))).items.map Prod.snd := by
  rw [← issuerTotals_eq, IssuerTally.issuers, List.map_map, List.map_map]
  rfl

/-- Every row has an issuer. -/
def CoversPositions (issuerBySecurity : Dict String IssuerIdentity) (rows : List (PositionEntry ℚ)) :
    Prop := ∀ row ∈ rows, (issuerOfRow issuerBySecurity row).isSome = true

instance (issuerBySecurity : Dict String IssuerIdentity) (rows : List (PositionEntry ℚ)) :
    Decidable (CoversPositions issuerBySecurity rows) :=
  inferInstanceAs (Decidable (∀ row ∈ rows, _))

theorem covered_values {rows : List (PositionEntry ℚ)} (h : CoversPositions issuerBySecurity rows) :
    (rows.filterMap (issuerValue issuerBySecurity)).map Prod.snd = rows.map PositionEntry.value := by
  induction rows with
  | nil => rfl
  | cons row rows ih =>
    obtain ⟨hrow, hrows⟩ := List.forall_mem_cons.1 h
    obtain ⟨issuer, hissuer⟩ := Option.isSome_iff_exists.1 hrow
    have hsome : issuerValue issuerBySecurity row = some (issuer.issuerId, row.value) := by
      rw [issuerValue, hissuer]
      rfl
    rw [List.filterMap_cons_some hsome, List.map_cons, List.map_cons, ih hrows]

/-- What merging positions into issuers keeps, and what it can only raise. -/
structure MergesPositions (positions issuers : List ℚ) : Prop where
  total : issuers.sum = positions.sum
  hhi : computeHhi positions ≤ computeHhi issuers
  top : ∀ j k, (singlePositionMetrics positions j).1 ≤ (singlePositionMetrics issuers k).1

theorem merges_tally {entries : List (String × ℚ)} (h : ∀ entry ∈ entries, 0 ≤ entry.2)
    (hpos : 0 < (entries.map Prod.snd).sum) :
    MergesPositions (entries.map Prod.snd) ((Dict.tally entries).items.map Prod.snd) := by
  have hvalues : ∀ v ∈ entries.map Prod.snd, 0 ≤ v := List.forall_mem_map.2 h
  have hissuers := tally_nonneg h
  have htotal := sum_tally entries
  have hpos' : 0 < ((Dict.tally entries).items.map Prod.snd).sum := by
    rw [htotal]
    exact hpos
  refine ⟨htotal, ?_, ?_⟩
  · rw [computeHhi_eq hvalues hpos, computeHhi_eq hissuers hpos', htotal]
    have hle := div_le_div_of_nonneg_right (sumSquares_le_tally h) (pow_pos hpos 2).le
    linarith
  · intro j k
    obtain ⟨m, hm, _, htop⟩ := exists_top hvalues hpos
    obtain ⟨m', _, hmax, htop'⟩ := exists_top hissuers hpos'
    obtain ⟨entry, hentry, rfl⟩ := List.mem_map.1 hm
    obtain ⟨v, hv, hle⟩ := exists_tally_ge h hentry
    rw [singlePositionMetrics_eq hvalues hpos, singlePositionMetrics_eq hissuers hpos', htop, htop',
      htotal]
    exact div_le_div_of_nonneg_right (hle.trans (hmax v hv)) hpos.le

/-- The measures of a state are within their bounds, and those of its issuers are at least as
great, whether its rows come from a payload or a snapshot. -/
theorem concentration_bounds_and_merge (positions : List (PositionEntry ℚ))
    (hvalues : ∀ position ∈ positions, 0 ≤ position.value)
    (htotal : 0 < (positions.map PositionEntry.value).sum) :
    ConcentrationBounds (positions.map PositionEntry.value) ∧
    ∀ issuerBySecurity, CoversPositions issuerBySecurity positions →
      MergesPositions (positions.map PositionEntry.value)
        ((toWeightedValues positions issuerBySecurity).issuers.map IssuerEntry.value) ∧
      ∀ texts rows tally,
        extractValuesWithIssuerFromSnapshot texts rows issuerBySecurity = .ok (positions, tally) →
        MergesPositions (positions.map PositionEntry.value)
          (tally.issuers.map IssuerEntry.value) := by
  have hall : ∀ v ∈ positions.map PositionEntry.value, 0 ≤ v := List.forall_mem_map.2 hvalues
  refine ⟨concentrationBounds hall htotal, ?_⟩
  intro issuerBySecurity hcovers
  have hmerge : MergesPositions (positions.map PositionEntry.value)
      ((toWeightedValues positions issuerBySecurity).issuers.map IssuerEntry.value) := by
    rw [issuers_values, ← covered_values hcovers]
    apply merges_tally
    · intro entry hentry
      apply hall
      rw [← covered_values hcovers]
      exact List.mem_map_of_mem hentry
    · rw [covered_values hcovers]
      exact htotal
  refine ⟨hmerge, ?_⟩
  intro texts rows tally hsnapshot
  rw [snapshot_tally hsnapshot]
  exact hmerge

/-- Two positions in securities of one issuer. -/
def sameIssuerPair : List (PositionEntry ℚ) := [⟨some "A", none, 1⟩, ⟨some "B", none, 3⟩]

def oneIssuer : Dict String IssuerIdentity := Dict.ofList [("A", ⟨"I", none⟩), ("B", ⟨"I", none⟩)]

theorem concentration_bounds_and_merge_pair :
    (toWeightedValues sameIssuerPair oneIssuer).issuers.map IssuerEntry.value = [4] ∧
    ConcentrationBounds [1, 3] ∧ MergesPositions [1, 3] [4] := by
  have hissuers :
      (toWeightedValues sameIssuerPair oneIssuer).issuers.map IssuerEntry.value = [4] := by
    decide +kernel
  obtain ⟨hbounds, hmerge⟩ := concentration_bounds_and_merge sameIssuerPair (by decide)
    (by decide +kernel)
  have hpair := (hmerge oneIssuer (by decide)).1
  rw [hissuers] at hpair
  exact ⟨hissuers, hbounds, hpair⟩

end Merging

end LotusRisk
