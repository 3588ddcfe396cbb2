import LotusRisk.Lib.SampleCovariance
import LotusRisk.Lib.Tally

/-! Sums of squares of values that are not negative, and of such values merged by key. -/

namespace Shares
set_option autoImplicit true

open Relational

variable {K : Type u} [Field K] [LinearOrder K] [IsStrictOrderedRing K]

section Squares

omit [LinearOrder K] [IsStrictOrderedRing K] in
def sumSquares (l : List K) : K := (l.map (fun x => x * x)).sum

omit [LinearOrder K] [IsStrictOrderedRing K] in
@[simp] theorem sumSquares_cons (x : K) (l : List K) :
    sumSquares (x :: l) = x * x + sumSquares l := rfl

theorem sumSquares_nonneg (l : List K) : 0 ≤ sumSquares l := by
  apply List.sum_nonneg
  intro y hy
  obtain ⟨x, _, rfl⟩ := List.mem_map.1 hy
  exact mul_self_nonneg x

theorem sum_nonneg {l : List K} (h : ∀ x ∈ l, 0 ≤ x) : 0 ≤ l.sum := List.sum_nonneg h

/-- The Cauchy-Schwarz inequality against ones. -/
theorem sum_sq_le (l : List K) : l.sum ^ 2 ≤ l.length * sumSquares l := by
  have hcauchy := Sampling.sum_mul_sq_le l (fun x => x) (fun _ => 1)
  have hones : (l.map (fun _ => (1 : K) * 1)).sum = l.length := by
    rw [List.map_const', List.sum_replicate, mul_one, nsmul_eq_mul, mul_one]
  simp only [mul_one, List.map_id_fun', id_eq] at hcauchy hones
  rw [hones] at hcauchy
  rw [mul_comm]
  exact hcauchy

theorem sumSquares_le_mul_sum {l : List K} (h : ∀ x ∈ l, 0 ≤ x) (hm : ∀ x ∈ l, x ≤ m) :
    sumSquares l ≤ m * l.sum := by
  induction l with
  | nil => simp [sumSquares]
  | cons x l ih =>
    obtain ⟨hx, hl⟩ := List.forall_mem_cons.1 h
    obtain ⟨hxm, hlm⟩ := List.forall_mem_cons.1 hm
    rw [sumSquares_cons, List.sum_cons, mul_add]
    exact add_le_add (mul_le_mul_of_nonneg_right hxm hx) (ih hl hlm)

theorem sq_le_sumSquares {l : List K} (h : x ∈ l) : x * x ≤ sumSquares l := by
  induction l with
  | nil => cases h
  | cons y l ih =>
    rw [sumSquares_cons]
    cases List.mem_cons.1 h with
    | inl heq =>
      rw [heq]
      exact le_add_of_nonneg_right (sumSquares_nonneg l)
    | inr hmem => exact (ih hmem).trans (le_add_of_nonneg_left (mul_self_nonneg y))

theorem le_sum_of_mem {l : List K} (h : ∀ x ∈ l, 0 ≤ x) (hx : x ∈ l) : x ≤ l.sum :=
  List.single_le_sum h x hx

/-- A square of a sum holds the squares of what is summed. -/
theorem sumSquares_le_sq {l : List K} (h : ∀ x ∈ l, 0 ≤ x) : sumSquares l ≤ l.sum * l.sum :=
  sumSquares_le_mul_sum h (fun _ hx => le_sum_of_mem h hx)

theorem sum_take_mono {l : List K} (h : ∀ x ∈ l, 0 ≤ x) (hjk : j ≤ k) :
    (l.take j).sum ≤ (l.take k).sum := by
  apply List.Sublist.sum_le_sum (List.take_sublist_take_left hjk)
  intro x hx
  exact h x (List.mem_of_mem_take hx)

end Squares

section Merging

variable {κ : Type v} [DecidableEq κ]

theorem sumAt_squares_le {entries : List (κ × K)}
    (h : ∀ entry ∈ entries, 0 ≤ entry.2) (k : κ) :
    Dict.sumAt (entries.map (fun entry => (entry.1, entry.2 * entry.2))) k ≤
      Dict.sumAt entries k * Dict.sumAt entries k := by
  have hsquares : Dict.sumAt (entries.map (fun entry => (entry.1, entry.2 * entry.2))) k =
      sumSquares ((entries.filter (fun entry => entry.1 = k)).map Prod.snd) := by
    rw [Dict.sumAt, sumSquares, List.filter_map, List.map_map, List.map_map]
    rfl
  rw [hsquares]
  apply sumSquares_le_sq
  intro x hx
  obtain ⟨entry, hentry, rfl⟩ := List.mem_map.1 hx
  exact h entry (List.mem_of_mem_filter hentry)

omit [LinearOrder K] [IsStrictOrderedRing K] in
/-- What is added up by key still adds up to the whole. -/
theorem sum_tally (entries : List (κ × K)) :
    ((Dict.tally entries).items.map Prod.snd).sum = (entries.map Prod.snd).sum := by
  have h := Dict.sum_items_tally entries (fun _ => true)
  rw [List.filter_true, List.filter_true] at h
  exact h

omit [LinearOrder K] [IsStrictOrderedRing K] in
theorem sum_items_map (d : Dict κ K) (f : K → K) :
    ((d.items.map Prod.snd).map f).sum = ∑ k ∈ d.keys.toFinset, f (d.getD k 0) := by
  rw [Dict.sum_keys d (fun _ v => f v) 0, List.map_map]
  rfl

/-- Merging by key raises the sum of the squares. -/
theorem sumSquares_le_tally {entries : List (κ × K)} (h : ∀ entry ∈ entries, 0 ≤ entry.2) :
    sumSquares (entries.map Prod.snd) ≤ sumSquares ((Dict.tally entries).items.map Prod.snd) := by
  have hcover : ∀ entry ∈ entries.map (fun entry => (entry.1, entry.2 * entry.2)),
      entry.1 ∈ (Dict.tally entries).keys.toFinset := by
    intro entry hentry
    obtain ⟨source, hsource, rfl⟩ := List.mem_map.1 hentry
    rw [List.mem_toFinset, Dict.mem_keys_tally]
    exact List.mem_map.2 ⟨source, hsource, rfl⟩
  have hsplit := Dict.sum_sumAt _ (fun _ => true) _ hcover
  simp only [if_true, List.map_map] at hsplit
  calc sumSquares (entries.map Prod.snd)
      = ∑ k ∈ (Dict.tally entries).keys.toFinset,
          Dict.sumAt (entries.map (fun entry => (entry.1, entry.2 * entry.2))) k := by
        rw [hsplit, sumSquares, List.map_map]
        rfl
    _ ≤ ∑ k ∈ (Dict.tally entries).keys.toFinset,
          Dict.sumAt entries k * Dict.sumAt entries k :=
        Finset.sum_le_sum (fun k _ => sumAt_squares_le h k)
    _ = sumSquares ((Dict.tally entries).items.map Prod.snd) := by
        rw [sumSquares, sum_items_map]
        simp only [Dict.getD_tally]

/-- Every value is part of the value of its key. -/
theorem exists_tally_ge {entries : List (κ × K)} (h : ∀ entry ∈ entries, 0 ≤ entry.2)
    (hentry : entry ∈ entries) : ∃ v ∈ (Dict.tally entries).items.map Prod.snd, entry.2 ≤ v := by
  refine ⟨Dict.sumAt entries entry.1, ?_, ?_⟩
  · apply List.mem_map.2
    exact ⟨(entry.1, _), Dict.mem_items_tally.2 ⟨List.mem_map_of_mem hentry, rfl⟩, rfl⟩
  · apply le_sum_of_mem
    · intro x hx
      obtain ⟨other, hother, rfl⟩ := List.mem_map.1 hx
      exact h other (List.mem_of_mem_filter hother)
    · apply List.mem_map_of_mem
      exact List.mem_filter.2 ⟨hentry, decide_eq_true rfl⟩

theorem tally_nonneg {entries : List (κ × K)} (h : ∀ entry ∈ entries, 0 ≤ entry.2) :
    ∀ v ∈ (Dict.tally entries).items.map Prod.snd, 0 ≤ v := by
  intro v hv
  obtain ⟨⟨k, v⟩, hmem, rfl⟩ := List.mem_map.1 hv
  rw [(Dict.mem_items_tally.1 hmem).2]
  apply sum_nonneg
  intro x hx
  obtain ⟨entry, hentry, rfl⟩ := List.mem_map.1 hx
  exact h entry (List.mem_of_mem_filter hentry)

end Merging

end Shares
