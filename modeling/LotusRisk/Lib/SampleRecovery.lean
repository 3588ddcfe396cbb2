import LotusRisk.Lib.OrderStatistics
import Mathlib.Tactic.FieldSimp

/-! A sorted sample is recovered from its interpolated quantiles and the averages of its tails,
unless it is constant. -/

namespace OrderStatistics
set_option autoImplicit true

variable {K : Type u} [Field K] [LinearOrder K] [IsStrictOrderedRing K]

section Tails

/-- An element above one level and within another counts in the second tail only. -/
theorem sum_tail_sub_lt {l : List K} (hmv : m ≤ v) (hvw : v ≤ w) (hz : z ∈ l) (hv : v < z)
    (hw : z ≤ w) :
    ((tail l v).map (fun x => x - m)).sum < ((tail l w).map (fun x => x - m)).sum := by
  induction l with
  | nil => cases hz
  | cons x l ih =>
    have hle := sum_tail_sub_le l hmv hvw
    rw [tail, tail] at hle ih ⊢
    rw [List.filter_cons, List.filter_cons]
    rcases List.mem_cons.1 hz with rfl | hz
    · rw [if_neg (by simpa using hv), if_pos (decide_eq_true hw), List.map_cons, List.sum_cons]
      have hpos : 0 < z - m := by linarith
      linarith
    · have hlt := ih hz
      by_cases hxv : x ≤ v
      · rw [if_pos (decide_eq_true hxv), if_pos (decide_eq_true (hxv.trans hvw)), List.map_cons,
          List.map_cons, List.sum_cons, List.sum_cons]
        linarith
      · rw [if_neg (by simpa using hxv)]
        by_cases hxw : x ≤ w
        · rw [if_pos (decide_eq_true hxw), List.map_cons, List.sum_cons]
          have hpos : v < x := not_le.1 hxv
          linarith
        · rw [if_neg (by simpa using hxw)]
          exact hlt

/-- The average of a tail is strictly higher when the tail takes in another element. -/
theorem average_tail_lt {l : List K} (hvw : v ≤ w) (hne : tail l v ≠ []) (hz : z ∈ l) (hv : v < z)
    (hw : z ≤ w) : average (tail l v) < average (tail l w) := by
  have hm : average (tail l v) ≤ v := average_le hne (fun y hy => (mem_tail.1 hy).2)
  have hsum := sum_tail_sub_lt hm hvw hz hv hw
  have hlen : 0 < ((tail l w).length : K) := by
    rw [Nat.cast_pos]
    exact List.length_pos_of_mem (mem_tail.2 ⟨hz, hw⟩)
  rw [sum_sub_average hne, sum_sub_const, sub_pos] at hsum
  rw [average.eq_1 (tail l w), lt_div_iff₀ hlen, mul_comm]
  exact hsum

end Tails

section Pieces

variable [FloorRing K]

/-- Between two neighbours the interpolation is linear. -/
theorem interpolate_piece {l : List K} (hk : k + 1 < l.length) (h₀ : (k : K) ≤ t)
    (h₁ : t ≤ k + 1) :
    interpolate l t = l.getD k 0 + (l.getD (k + 1) 0 - l.getD k 0) * (t - k) := by
  rcases h₁.lt_or_eq with hlt | rfl
  · have hfloor : ⌊t⌋ = (k : ℤ) := by
      rw [Int.floor_eq_iff]
      exact ⟨by exact_mod_cast h₀, by exact_mod_cast hlt⟩
    have hmin : min (k + 1) (l.length - 1) = k + 1 := by omega
    rw [interpolate, hfloor, Int.toNat_natCast, hmin]
  · have hfloor : ⌊(k : K) + 1⌋ = ((k + 1 : ℕ) : ℤ) := by
      rw [Int.floor_eq_iff]
      push_cast
      exact ⟨le_rfl, lt_add_one _⟩
    rw [interpolate, hfloor, Int.toNat_natCast]
    push_cast
    ring

/-- The quantile at a level, for a list that is sorted. -/
def atLevel (l : List K) (q : K) : K := interpolate l (((l.length : K) - 1) * q)

omit [LinearOrder K] [IsStrictOrderedRing K] [FloorRing K] in
theorem cast_length_sub_one {l : List K} (h : l.length = n + 1) : (l.length : K) - 1 = n := by
  rw [h, Nat.cast_succ, add_sub_cancel_right]

theorem atLevel_piece {l : List K} (hl : l.length = n + 1) (hk : k < n) (h₀ : (k : K) ≤ n * q)
    (h₁ : n * q ≤ k + 1) :
    atLevel l q = l.getD k 0 + (l.getD (k + 1) 0 - l.getD k 0) * (n * q - k) := by
  rw [atLevel, cast_length_sub_one hl]
  exact interpolate_piece (by omega) h₀ h₁

/-- Both samples have the same quantile, and the same average up to it, at every inner level. -/
structure SameMeasures (x y : List K) : Prop where
  value : ∀ q, 0 < q → q < 1 → atLevel x q = atLevel y q
  shortfall : ∀ q, 0 < q → q < 1 →
    average (tail x (atLevel x q)) = average (tail y (atLevel y q))

omit [IsStrictOrderedRing K] in
theorem SameMeasures.symm {x y : List K} (h : SameMeasures x y) : SameMeasures y x :=
  ⟨fun q h₀ h₁ => (h.value q h₀ h₁).symm, fun q h₀ h₁ => (h.shortfall q h₀ h₁).symm⟩

end Pieces

section Recovery

variable [FloorRing K] {x y : List K}

omit [IsStrictOrderedRing K] [FloorRing K] in
theorem tail_eq_of_gap (hs : x.Pairwise (· ≤ ·)) (hk : k + 1 < x.length)
    (hv : x.getD k 0 ≤ v) (hv' : v < x.getD (k + 1) 0) (hw : x.getD k 0 ≤ w)
    (hw' : w < x.getD (k + 1) 0) : tail x v = tail x w := by
  apply List.filter_congr
  intro z hz
  obtain ⟨i, hi, rfl⟩ := List.getElem_of_mem hz
  rw [decide_eq_decide, ← List.getD_eq_getElem x 0 hi]
  rcases Nat.lt_or_ge k i with hlt | hge
  · have hle := getD_le_getD hs (Nat.succ_le_of_lt hlt) hi
    exact iff_of_false (not_le.2 (hv'.trans_le hle)) (not_le.2 (hw'.trans_le hle))
  · have hle := getD_le_getD hs hge (by omega)
    exact iff_of_true (hle.trans hv) (hle.trans hw)

section Rise

variable (hlx : x.length = n + 1) (hk : k < n) (hrise : x.getD k 0 < x.getD (k + 1) 0)

include hlx hk hrise in
theorem atLevel_on_rise (h₀ : (k : K) ≤ n * q) (h₁ : n * q < k + 1) :
    x.getD k 0 ≤ atLevel x q ∧ atLevel x q < x.getD (k + 1) 0 := by
  rw [atLevel_piece hlx hk h₀ h₁.le]
  have hslope := sub_pos.2 hrise
  have hlow := mul_nonneg hslope.le (sub_nonneg.2 h₀)
  have hhigh := mul_pos hslope (sub_pos.2 h₁)
  constructor
  · linarith
  · linarith

include hlx hk hrise in
theorem atLevel_lt_on_rise (h₀ : (k : K) ≤ n * p) (hpq : (n : K) * p < n * q)
    (h₁ : n * q ≤ k + 1) : atLevel x p < atLevel x q := by
  rw [atLevel_piece hlx hk h₀ (hpq.le.trans h₁), atLevel_piece hlx hk (h₀.trans hpq.le) h₁]
  have hprod := mul_pos (sub_pos.2 hrise) (sub_pos.2 hpq)
  linarith

end Rise

/-- An element stands at its own level. -/
theorem atLevel_element (hly : y.length = m + 1) (hj : j < m) :
    atLevel y ((j : K) / m) = y.getD j 0 := by
  have hm : (m : K) ≠ 0 := Nat.cast_ne_zero.2 (Nat.ne_zero_of_lt hj)
  have hlevel : (m : K) * (j / m) = j := mul_div_cancel₀ _ hm
  rw [atLevel_piece hly hj hlevel.ge (by rw [hlevel]; exact (lt_add_one _).le), hlevel, sub_self,
    mul_zero, add_zero]

theorem tail_atLevel_ne_nil (hy : y.Pairwise (· ≤ ·)) (hly : y.length = m + 1) (h₀ : 0 ≤ q)
    (h₁ : q ≤ 1) : tail y (atLevel y q) ≠ [] := by
  have hm : (0 : K) ≤ m := Nat.cast_nonneg m
  have hcast := cast_length_sub_one (K := K) hly
  have hbelow : ((y.length : K) - 1) * q ≤ (y.length : K) - 1 := by
    rw [hcast]
    exact mul_le_of_le_one_right hm h₁
  obtain ⟨⟨z, hz, hle⟩, _⟩ :=
    interpolate_between hy (by rw [hcast]; exact mul_nonneg hm h₀) hbelow
  exact List.ne_nil_of_mem (mem_tail.2 ⟨hz, hle⟩)

/-- Where one sample rises, the other one has no element on the way. -/
theorem SameMeasures.no_element_inside (h : SameMeasures x y) (hx : x.Pairwise (· ≤ ·))
    (hy : y.Pairwise (· ≤ ·)) (hlx : x.length = n + 1) (hly : y.length = m + 1) (hk : k < n)
    (hrise : x.getD k 0 < x.getD (k + 1) 0) (hj : k * m < j * n) : (k + 1) * m ≤ j * n := by
  by_contra hinside
  have hj' : j * n < (k + 1) * m := not_le.1 hinside
  have hn : (0 : K) < n := Nat.cast_pos.2 (Nat.zero_lt_of_lt hk)
  have hmpos : 0 < m := Nat.pos_of_mul_pos_left (Nat.zero_lt_of_lt hj')
  have hm : (0 : K) < m := Nat.cast_pos.2 hmpos
  have hjm : j < m := by
    have hle : (k + 1) * m ≤ n * m := Nat.mul_le_mul_right m hk
    exact Nat.lt_of_mul_lt_mul_right ((hj'.trans_le hle).trans_eq (Nat.mul_comm n m))
  -- the level of the element of `y`, and one below it on the same rise of `x`
  have hlow : (k : K) < n * (j / m) := by
    have hcast : (k : K) * m < j * n := by exact_mod_cast hj
    rw [mul_div_assoc', lt_div_iff₀ hm, mul_comm (n : K)]
    exact hcast
  have hhigh : (n : K) * (j / m) < k + 1 := by
    have hcast : (j : K) * n < (k + 1) * m := by exact_mod_cast hj'
    rw [mul_div_assoc', div_lt_iff₀ hm, mul_comm (n : K)]
    exact hcast
  obtain ⟨t, hkt, htj⟩ := exists_between hlow
  have hnq : (n : K) * (t / n) = t := mul_div_cancel₀ _ hn.ne'
  have hq₀ : 0 < t / n := div_pos ((Nat.cast_nonneg k).trans_lt hkt) hn
  have hqj : t / n < j / m := (div_lt_iff₀' hn).2 htj
  have hj₁ : (j : K) / m < 1 := (div_lt_one hm).2 (Nat.cast_lt.2 hjm)
  have hlower := atLevel_on_rise hlx hk hrise (hkt.le.trans_eq hnq.symm)
    (hnq.trans_lt (htj.trans hhigh))
  have hupper := atLevel_on_rise hlx hk hrise hlow.le hhigh
  have hlt := atLevel_lt_on_rise hlx hk hrise (hkt.le.trans_eq hnq.symm) (hnq.trans_lt htj) hhigh.le
  have htails : tail x (atLevel x (t / n)) = tail x (atLevel x (j / m)) :=
    tail_eq_of_gap hx (by omega) hlower.1 hlower.2 hupper.1 hupper.2
  -- the element adds to the tail of `y`, and nothing to that of `x`
  have hjump : average (tail y (atLevel y (t / n))) < average (tail y (atLevel y (j / m))) := by
    rw [h.value _ hq₀ (hqj.trans hj₁), h.value _ (hq₀.trans hqj) hj₁] at hlt
    apply average_tail_lt hlt.le
      (tail_atLevel_ne_nil hy hly hq₀.le (hqj.trans hj₁).le) _ _ (atLevel_element hly hjm).ge
    · rw [List.getD_eq_getElem y 0 (by omega)]
      exact List.getElem_mem _
    · rw [← atLevel_element hly hjm]
      exact hlt
  rw [← h.shortfall _ hq₀ (hqj.trans hj₁), ← h.shortfall _ (hq₀.trans hqj) hj₁, htails] at hjump
  exact lt_irrefl _ hjump

/-- Two inner levels of one piece. -/
theorem exists_levels {k n : ℕ} (hk : k < n) :
    ∃ p q : K, 0 < p ∧ q < 1 ∧ k < n * p ∧ (n : K) * p < n * q ∧ n * q < k + 1 := by
  have hn : (0 : K) < n := Nat.cast_pos.2 (Nat.zero_lt_of_lt hk)
  have hk' : (k : K) + 1 ≤ n := by exact_mod_cast hk
  obtain ⟨s, hks, hs⟩ := exists_between (lt_add_one (k : K))
  obtain ⟨t, hst, ht⟩ := exists_between hs
  have hsn : (n : K) * (s / n) = s := mul_div_cancel₀ _ hn.ne'
  have htn : (n : K) * (t / n) = t := mul_div_cancel₀ _ hn.ne'
  refine ⟨s / n, t / n, div_pos ((Nat.cast_nonneg k).trans_lt hks) hn,
    (div_lt_one hn).2 (ht.trans_le hk'), hks.trans_eq hsn.symm, ?_, htn.trans_lt ht⟩
  rw [hsn, htn]
  exact hst

/-- A piece of one sample that lies in a piece of the other one has its levels there. -/
theorem level_within {j k m n : ℕ} (hn : 0 < n) (hjle : j * n ≤ k * m)
    (hend : (k + 1) * m ≤ (j + 1) * n) (h₀ : (k : K) ≤ n * q) (h₁ : n * q ≤ k + 1) :
    (j : K) ≤ m * q ∧ m * q ≤ j + 1 := by
  have hn : (0 : K) < n := Nat.cast_pos.2 hn
  have hm : (0 : K) ≤ m := Nat.cast_nonneg m
  have hjle : (j : K) * n ≤ k * m := by exact_mod_cast hjle
  have hend : ((k : K) + 1) * m ≤ (j + 1) * n := by exact_mod_cast hend
  have hlow := mul_le_mul_of_nonneg_right h₀ hm
  have hhigh := mul_le_mul_of_nonneg_right h₁ hm
  constructor
  · apply le_of_mul_le_mul_right _ hn
    linarith
  · apply le_of_mul_le_mul_right _ hn
    linarith

/-- Where one sample rises, so does the other one. -/
theorem SameMeasures.rise (h : SameMeasures x y) (hy : y.Pairwise (· ≤ ·))
    (hlx : x.length = n + 1) (hly : y.length = m + 1) (hk : k < n)
    (hrise : x.getD k 0 < x.getD (k + 1) 0) (hj : j < m) (hjle : j * n ≤ k * m)
    (hend : (k + 1) * m ≤ (j + 1) * n) : y.getD j 0 < y.getD (j + 1) 0 := by
  apply lt_of_le_of_ne (getD_le_getD hy (Nat.le_succ j) (by omega))
  intro hflat
  have hn : 0 < n := Nat.zero_lt_of_lt hk
  obtain ⟨p, q, hp, hq, hkp, hpq, hqk⟩ := exists_levels (K := K) hk
  have hlt : p < q := lt_of_mul_lt_mul_left hpq (Nat.cast_nonneg n)
  have hyp := level_within hn hjle hend hkp.le (hpq.trans hqk).le
  have hyq := level_within hn hjle hend (hkp.trans hpq).le hqk.le
  have hsame : atLevel y p = atLevel y q := by
    rw [atLevel_piece hly hj hyp.1 hyp.2, atLevel_piece hly hj hyq.1 hyq.2, hflat, sub_self,
      zero_mul, zero_mul]
  have hrises := atLevel_lt_on_rise hlx hk hrise hkp.le hpq hqk.le
  rw [h.value p hp (hlt.trans hq), h.value q (hp.trans hlt) hq, hsame] at hrises
  exact lt_irrefl _ hrises

/-- Samples with the same measures have as many elements, if one of them rises. -/
theorem SameMeasures.length_eq (h : SameMeasures x y) (hx : x.Pairwise (· ≤ ·))
    (hy : y.Pairwise (· ≤ ·)) (hlx : x.length = n + 1) (hly : y.length = m + 1) (hm : 0 < m)
    (hk : k < n) (hrise : x.getD k 0 < x.getD (k + 1) 0) : n = m := by
  have hn : 0 < n := Nat.zero_lt_of_lt hk
  -- the piece of `y` in which the rise of `x` begins
  obtain ⟨j, hjle, hjlt⟩ : ∃ j, j * n ≤ k * m ∧ k * m < (j + 1) * n :=
    ⟨k * m / n, Nat.div_mul_le_self _ _, Nat.lt_mul_of_div_lt (Nat.lt_succ_self _) hn⟩
  have hend := h.no_element_inside hx hy hlx hly hk hrise hjlt
  have hjm : j < m := by
    have hlt : k * m < n * m := Nat.mul_lt_mul_of_pos_right hk hm
    exact Nat.lt_of_mul_lt_mul_right ((hjle.trans_lt hlt).trans_eq (Nat.mul_comm n m))
  have hjrise := h.rise hy hlx hly hk hrise hjm hjle hend
  -- neither end of the rise of `x` lies inside that of `y`, so they are the same
  have hstart : k * m ≤ j * n := by
    apply Nat.le_of_not_lt
    intro hlt
    exact absurd (h.symm.no_element_inside hy hx hly hlx hjm hjrise hlt) (Nat.not_le.2 hjlt)
  have hstop : (j + 1) * n ≤ (k + 1) * m := by
    apply h.symm.no_element_inside hy hx hly hlx hjm hjrise
    rw [Nat.succ_mul]
    exact (hjle.trans_lt (Nat.lt_add_of_pos_right hm))
  rw [Nat.succ_mul, Nat.succ_mul] at hstop hend
  omega

/-- Samples of the same length are told apart by their quantiles. -/
theorem eq_of_atLevel_eq (hlx : x.length = n + 1) (hly : y.length = n + 1) (hn : 0 < n)
    (h : ∀ q, 0 < q → q < 1 → atLevel x q = atLevel y q) : x = y := by
  have hpiece : ∀ k < n, x.getD k 0 = y.getD k 0 ∧ x.getD (k + 1) 0 = y.getD (k + 1) 0 := by
    intro k hk
    obtain ⟨p, q, hp, hq, hkp, hpq, hqk⟩ := exists_levels (K := K) hk
    have hlt : p < q := lt_of_mul_lt_mul_left hpq (Nat.cast_nonneg n)
    have hlow := h p hp (hlt.trans hq)
    have hhigh := h q (hp.trans hlt) hq
    rw [atLevel_piece hlx hk hkp.le (hpq.trans hqk).le,
      atLevel_piece hly hk hkp.le (hpq.trans hqk).le] at hlow
    rw [atLevel_piece hlx hk (hkp.trans hpq).le hqk.le,
      atLevel_piece hly hk (hkp.trans hpq).le hqk.le] at hhigh
    have hslope : x.getD (k + 1) 0 - x.getD k 0 = y.getD (k + 1) 0 - y.getD k 0 := by
      apply mul_right_cancel₀ (sub_pos.2 hpq).ne'
      linarith
    rw [hslope] at hlow
    have hfirst := add_right_cancel hlow
    rw [hfirst, sub_left_inj] at hslope
    exact ⟨hfirst, hslope⟩
  apply List.ext_getElem (hlx.trans hly.symm)
  intro i hi hi'
  rw [← List.getD_eq_getElem x 0 hi, ← List.getD_eq_getElem y 0 hi']
  rcases Nat.lt_or_ge i n with hlt | hge
  · exact (hpiece i hlt).1
  · have hlast := (hpiece (n - 1) (by omega)).2
    rw [Nat.sub_add_cancel hn] at hlast
    have hin : i = n := by omega
    rw [hin]
    exact hlast

omit [LinearOrder K] [IsStrictOrderedRing K] [FloorRing K] in
/-- A sorted sample that never rises is constant. -/
theorem eq_replicate_of_flat (hlx : x.length = n + 1)
    (hflat : ∀ k < n, x.getD (k + 1) 0 = x.getD k 0) : x = List.replicate (n + 1) (x.getD 0 0) := by
  have hall : ∀ k ≤ n, x.getD k 0 = x.getD 0 0 := by
    intro k
    induction k with
    | zero => exact fun _ => rfl
    | succ k ih => exact fun hk => (hflat k hk).trans (ih (Nat.le_of_succ_le hk))
  rw [List.eq_replicate_iff]
  refine ⟨hlx, ?_⟩
  intro z hz
  obtain ⟨i, hi, rfl⟩ := List.getElem_of_mem hz
  rw [← List.getD_eq_getElem x 0 hi]
  exact hall i (by omega)

theorem atLevel_replicate (n : ℕ) (c : K) (h₀ : 0 < q) (h₁ : q < 1) :
    atLevel (List.replicate (n + 2) c) q = c := by
  have hlength : ((List.replicate (n + 2) c).length : K) - 1 = (n + 1 : ℕ) :=
    cast_length_sub_one List.length_replicate
  have hnonneg : (0 : K) ≤ (n + 1 : ℕ) := Nat.cast_nonneg _
  obtain ⟨⟨z, hz, hle⟩, w, hw, hge⟩ :=
    interpolate_between (List.pairwise_replicate_of_refl (n := n + 2) (a := c))
      (t := ((List.replicate (n + 2) c).length - 1) * q)
      (by rw [hlength]; exact mul_nonneg hnonneg h₀.le)
      (by rw [hlength]; exact mul_le_of_le_one_right hnonneg h₁.le)
  rw [List.eq_of_mem_replicate hz] at hle
  rw [List.eq_of_mem_replicate hw] at hge
  exact le_antisymm hge hle

/-- Samples with the same measures are the same, or they are constant. -/
theorem SameMeasures.recovered (h : SameMeasures x y) (hx : x.Pairwise (· ≤ ·))
    (hy : y.Pairwise (· ≤ ·)) (hlx : 2 ≤ x.length) (hly : 2 ≤ y.length) :
    x = y ∨ ∃ c, x = List.replicate x.length c ∧ y = List.replicate y.length c := by
  obtain ⟨n, hlx'⟩ : ∃ n, x.length = n + 2 := ⟨x.length - 2, by omega⟩
  obtain ⟨m, hly'⟩ : ∃ m, y.length = m + 2 := ⟨y.length - 2, by omega⟩
  have hrises : ∀ l : List K, l.Pairwise (· ≤ ·) → ∀ n, l.length = n + 2 →
      (∃ k < n + 1, l.getD k 0 < l.getD (k + 1) 0) ∨ l = List.replicate (n + 2) (l.getD 0 0) := by
    intro l hl n hln
    by_cases hrise : ∃ k < n + 1, l.getD k 0 < l.getD (k + 1) 0
    · exact .inl hrise
    · right
      apply eq_replicate_of_flat hln
      intro k hk
      apply le_antisymm
      · exact not_lt.1 (fun hlt => hrise ⟨k, hk, hlt⟩)
      · exact getD_le_getD hl (Nat.le_succ k) (by omega)
  rcases hrises x hx n hlx' with ⟨k, hk, hrise⟩ | hconst
  · left
    have hlength := h.length_eq hx hy hlx' hly' (Nat.succ_pos m) hk hrise
    obtain rfl : n = m := Nat.succ.inj hlength
    exact eq_of_atLevel_eq hlx' hly' (Nat.succ_pos _) h.value
  · rcases hrises y hy m hly' with ⟨k, hk, hrise⟩ | hconst'
    · left
      have hlength := h.symm.length_eq hy hx hly' hlx' (Nat.succ_pos n) hk hrise
      obtain rfl : m = n := Nat.succ.inj hlength
      exact eq_of_atLevel_eq hlx' hly' (Nat.succ_pos _) h.value
    · right
      have hmid := h.value (1 / 2) (by norm_num) (by norm_num)
      rw [hconst, hconst', atLevel_replicate n _ (by norm_num) (by norm_num),
        atLevel_replicate m _ (by norm_num) (by norm_num)] at hmid
      rw [hlx', hly']
      refine ⟨x.getD 0 0, hconst, ?_⟩
      rw [hmid]
      exact hconst'

end Recovery

end OrderStatistics
