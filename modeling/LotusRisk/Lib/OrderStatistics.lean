import Mathlib.Algebra.BigOperators.Group.List.Basic
import Mathlib.Algebra.Order.Floor.Ring
import Mathlib.Algebra.Order.Field.Basic
import Mathlib.Data.List.GetD
import Mathlib.Tactic.Linarith
import Mathlib.Tactic.Positivity
import Mathlib.Tactic.Ring

/-! Interpolated order statistics of a sorted list, and the means of lower tails. -/

namespace OrderStatistics
set_option autoImplicit true

variable {K : Type u} [Field K] [LinearOrder K] [IsStrictOrderedRing K]

section Interpolation

variable [FloorRing K]

omit [IsStrictOrderedRing K] in
/-- The value at a position between the elements of a list. -/
def interpolate (l : List K) (t : K) : K :=
  let i := ⌊t⌋.toNat
  let lower := l.getD i 0
  let upper := l.getD (min (i + 1) (l.length - 1)) 0
  lower + (upper - lower) * (t - i)

omit [IsStrictOrderedRing K] [FloorRing K] in
theorem getD_le_getD {l : List K} (hs : l.Pairwise (· ≤ ·)) (hij : i ≤ j) (hj : j < l.length) :
    l.getD i 0 ≤ l.getD j 0 := by
  rw [List.getD_eq_getElem l 0 hj, List.getD_eq_getElem l 0 (hij.trans_lt hj)]
  rcases hij.lt_or_eq with hlt | rfl
  · exact List.pairwise_iff_getElem.1 hs i j _ hj hlt
  · exact le_rfl

/-- A position within a list lies between an element and the next one. -/
structure Located (l : List K) (t : K) (i : ℕ) : Prop where
  below : i < l.length
  floor : (i : K) ≤ t
  next : t ≤ i + 1
  eq : interpolate l t = l.getD i 0 +
    (l.getD (min (i + 1) (l.length - 1)) 0 - l.getD i 0) * (t - i)
  index : i = ⌊t⌋.toNat

theorem exists_located {l : List K} (h₀ : 0 ≤ t) (h₁ : t ≤ (l.length : K) - 1) :
    Located l t ⌊t⌋.toNat := by
  have hfloor : (⌊t⌋.toNat : ℤ) = ⌊t⌋ := Int.toNat_of_nonneg (Int.floor_nonneg.2 h₀)
  have hcast : ((⌊t⌋.toNat : ℕ) : K) = (⌊t⌋ : K) := by
    exact_mod_cast congrArg (fun z : ℤ => (z : K)) hfloor
  have hle : ((⌊t⌋.toNat : ℕ) : K) ≤ t := by
    rw [hcast]
    exact Int.floor_le t
  refine ⟨?_, hle, ?_, rfl, rfl⟩
  · have hlt : ((⌊t⌋.toNat : ℕ) : K) < (l.length : K) := by linarith
    exact_mod_cast hlt
  · rw [hcast]
    exact (Int.lt_floor_add_one t).le

theorem Located.upper {l : List K} (h : Located l t i) (hs : l.Pairwise (· ≤ ·)) :
    l.getD i 0 ≤ interpolate l t ∧
      interpolate l t ≤ l.getD (min (i + 1) (l.length - 1)) 0 := by
  have hbelow := h.below
  have hfloor := h.floor
  have hnext := h.next
  have hstep : l.getD i 0 ≤ l.getD (min (i + 1) (l.length - 1)) 0 :=
    getD_le_getD hs (by omega) (by omega)
  rw [h.eq]
  constructor
  · have hprod := mul_nonneg (sub_nonneg.2 hstep) (sub_nonneg.2 hfloor)
    linarith
  · have hprod := mul_nonneg (sub_nonneg.2 hstep) (sub_nonneg.2 hnext)
    linarith [hprod]

/-- Interpolation is monotone in the position. -/
theorem interpolate_mono {l : List K} (hs : l.Pairwise (· ≤ ·)) (h₀ : 0 ≤ s) (hst : s ≤ t)
    (h₁ : t ≤ (l.length : K) - 1) : interpolate l s ≤ interpolate l t := by
  have hsl := exists_located h₀ (hst.trans h₁)
  have htl := exists_located (h₀.trans hst) h₁
  have hfloors : ⌊s⌋.toNat ≤ ⌊t⌋.toNat := Int.toNat_le_toNat (Int.floor_mono hst)
  rcases hfloors.lt_or_eq with hlt | heq
  · have hbelow := htl.below
    exact ((hsl.upper hs).2.trans (getD_le_getD hs (by omega) hbelow)).trans (htl.upper hs).1
  · have hstep : l.getD ⌊t⌋.toNat 0 ≤ l.getD (min (⌊t⌋.toNat + 1) (l.length - 1)) 0 := by
      have hbelow := htl.below
      exact getD_le_getD hs (by omega) (by omega)
    have hprod := mul_nonneg (sub_nonneg.2 hstep) (sub_nonneg.2 hst)
    rw [hsl.eq, htl.eq, heq]
    linarith

/-- An interpolated value lies between two elements. -/
theorem interpolate_between {l : List K} (hs : l.Pairwise (· ≤ ·)) (h₀ : 0 ≤ t)
    (h₁ : t ≤ (l.length : K) - 1) :
    (∃ x ∈ l, x ≤ interpolate l t) ∧ ∃ y ∈ l, interpolate l t ≤ y := by
  have hl := exists_located h₀ h₁
  have hbelow := hl.below
  have hmem : ∀ i < l.length, l.getD i 0 ∈ l := by
    intro i hi
    rw [List.getD_eq_getElem l 0 hi]
    exact List.getElem_mem hi
  exact ⟨⟨_, hmem _ hbelow, (hl.upper hs).1⟩, ⟨_, hmem _ (by omega), (hl.upper hs).2⟩⟩

end Interpolation

section Tails

/-- The elements up to a level. -/
def tail (l : List K) (v : K) : List K := l.filter (fun x => x ≤ v)

omit [Field K] [IsStrictOrderedRing K] in
theorem mem_tail {l : List K} : x ∈ tail l v ↔ x ∈ l ∧ x ≤ v := by
  rw [tail, List.mem_filter, decide_eq_true_iff]

/-- The average of a list; zero for the empty list. -/
def average (l : List K) : K := l.sum / l.length

omit [LinearOrder K] [IsStrictOrderedRing K] in
theorem sum_sub_const (l : List K) (c : K) :
    (l.map (fun x => x - c)).sum = l.sum - l.length * c := by
  induction l with
  | nil => simp
  | cons x l ih =>
    rw [List.map_cons, List.sum_cons, ih, List.sum_cons, List.length_cons, Nat.cast_succ]
    ring

theorem sum_sub_average {l : List K} (hne : l ≠ []) :
    (l.map (fun x => x - average l)).sum = 0 := by
  have hlen : (l.length : K) ≠ 0 := by
    rw [Nat.cast_ne_zero]
    exact fun h => hne (List.length_eq_zero_iff.1 h)
  rw [sum_sub_const, average, mul_div_cancel₀ _ hlen, sub_self]

theorem average_le {l : List K} (hne : l ≠ []) (h : ∀ x ∈ l, x ≤ v) : average l ≤ v := by
  have hlen : 0 < (l.length : K) := by
    rw [Nat.cast_pos]
    exact List.length_pos_of_ne_nil hne
  rw [average, div_le_iff₀ hlen, mul_comm]
  have hsum := List.sum_le_card_nsmul l v h
  rwa [nsmul_eq_mul] at hsum

theorem le_average {l : List K} (hne : l ≠ []) (h : ∀ x ∈ l, v ≤ x) : v ≤ average l := by
  have hlen : 0 < (l.length : K) := by
    rw [Nat.cast_pos]
    exact List.length_pos_of_ne_nil hne
  rw [average, le_div_iff₀ hlen, mul_comm]
  have hsum := List.card_nsmul_le_sum l v h
  rwa [nsmul_eq_mul] at hsum

/-- Deviations above a level only add to the sum over a tail. -/
theorem sum_tail_sub_le (l : List K) (hmv : m ≤ v) (hvw : v ≤ w) :
    ((tail l v).map (fun x => x - m)).sum ≤ ((tail l w).map (fun x => x - m)).sum := by
  induction l with
  | nil => exact le_rfl
  | cons x l ih =>
    rw [tail, tail, List.filter_cons, List.filter_cons]
    by_cases hv : x ≤ v
    · rw [if_pos (decide_eq_true hv), if_pos (decide_eq_true (hv.trans hvw)), List.map_cons,
        List.map_cons, List.sum_cons, List.sum_cons]
      exact add_le_add_right ih (x - m)
    · rw [if_neg (by simpa using hv)]
      by_cases hw : x ≤ w
      · have hpos : 0 ≤ x - m := by
          have hlt := not_le.1 hv
          linarith
        rw [if_pos (decide_eq_true hw), List.map_cons, List.sum_cons]
        exact ih.trans (le_add_of_nonneg_left hpos)
      · rw [if_neg (by simpa using hw)]
        exact ih

/-- The average of a tail is monotone in its level. -/
theorem average_tail_mono {l : List K} (hvw : v ≤ w) (hne : tail l v ≠ []) :
    average (tail l v) ≤ average (tail l w) := by
  obtain ⟨x, hx⟩ := List.exists_mem_of_ne_nil _ hne
  have hxw : x ∈ tail l w := mem_tail.2 ⟨(mem_tail.1 hx).1, (mem_tail.1 hx).2.trans hvw⟩
  have hnew : tail l w ≠ [] := List.ne_nil_of_mem hxw
  have hm : average (tail l v) ≤ v := average_le hne (fun y hy => (mem_tail.1 hy).2)
  have hsum := sum_tail_sub_le l hm hvw
  have hlen : 0 < ((tail l w).length : K) := by
    rw [Nat.cast_pos]
    exact List.length_pos_of_ne_nil hnew
  rw [sum_sub_average hne, sum_sub_const, sub_nonneg] at hsum
  rw [average.eq_1 (tail l w), le_div_iff₀ hlen, mul_comm]
  exact hsum

end Tails

end OrderStatistics
