import Mathlib.Data.List.Basic
import Mathlib.Data.List.Sort
import Mathlib.Order.Lattice
import Mathlib.Tactic.Common

/-! Values over a strictly ascending index, and the first least element of a list. -/

set_option autoImplicit true

/-- A data series whose index is unique and sorted. -/
structure Series (ι : Type u) (α : Type v) [LT ι] where
  index : List ι
  values : List α
  length_values : values.length = index.length
  ascending : index.Pairwise (· < ·)

namespace Series

section FirstLeast

variable {α : Type u} [LinearOrder α]

/-- The position of the first least element; the length of an empty list. -/
def argmin (l : List α) : Nat := l.findIdx (fun x => l.all (fun y => decide (x ≤ y)))

theorem exists_least {l : List α} (hl : l ≠ []) : ∃ x ∈ l, ∀ y ∈ l, x ≤ y := by
  induction l with
  | nil => exact absurd rfl hl
  | cons a l ih =>
    by_cases hnil : l = []
    · subst hnil
      exact ⟨a, List.mem_singleton.2 rfl, fun y hy => (List.mem_singleton.1 hy).ge⟩
    · obtain ⟨x, hx, hle⟩ := ih hnil
      rcases le_total a x with hax | hxa
      · refine ⟨a, List.mem_cons_self, ?_⟩
        intro y hy
        rcases List.mem_cons.1 hy with hy | hy
        · exact hy.ge
        · exact hax.trans (hle y hy)
      · refine ⟨x, List.mem_cons_of_mem _ hx, ?_⟩
        intro y hy
        rcases List.mem_cons.1 hy with hy | hy
        · exact hy ▸ hxa
        · exact hle y hy

theorem argmin_lt_length {l : List α} (hl : l ≠ []) : argmin l < l.length := by
  obtain ⟨x, hx, hle⟩ := exists_least hl
  apply List.findIdx_lt_length_of_exists
  exact ⟨x, hx, by simpa using hle⟩

theorem getElem_argmin_le {l : List α} (h : argmin l < l.length) (hy : y ∈ l) :
    l[argmin l] ≤ y := by
  have hp := List.findIdx_getElem (w := h)
  rw [List.all_eq_true] at hp
  exact of_decide_eq_true (hp y hy)

theorem lt_of_lt_argmin {l : List α} (h : argmin l < l.length) (hi : i < argmin l) :
    l[argmin l] < l[i] := by
  have hp := List.not_of_lt_findIdx hi
  obtain ⟨y, hy, hyi⟩ : ∃ y ∈ l, ¬ l[i] ≤ y := by simpa using hp
  exact lt_of_le_of_lt (getElem_argmin_le h hy) (not_le.1 hyi)

/-- The position is the only one that is least and first. -/
theorem argmin_eq {l : List α} (h : i < l.length) (hle : ∀ y ∈ l, l[i] ≤ y)
    (hfirst : ∀ j (hj : j < i), l[i] < l[j]) : argmin l = i := by
  have hlt : argmin l < l.length := argmin_lt_length (List.ne_nil_of_length_pos (by omega))
  rcases Nat.lt_trichotomy (argmin l) i with hc | hc | hc
  · have hlow := hfirst _ hc
    have hhigh := getElem_argmin_le hlt (List.getElem_mem h)
    exact absurd hlow (not_lt.2 hhigh)
  · exact hc
  · have hlow := lt_of_lt_argmin hlt hc
    exact absurd hlow (not_lt.2 (hle _ (List.getElem_mem hlt)))

/-- The first element with the least key. -/
def minBy (key : β → α) (l : List β) : Option β := l[argmin (l.map key)]?

theorem exists_minBy {l : List β} (key : β → α) (hl : l ≠ []) : ∃ k, ∃ hk : k < l.length,
    minBy key l = some l[k] ∧ (∀ j (hj : j < l.length), key l[k] ≤ key l[j]) ∧
      ∀ j (hj : j < k), key l[k] < key l[j] := by
  have hk : argmin (l.map key) < (l.map key).length := argmin_lt_length (by simpa using hl)
  have hk' : argmin (l.map key) < l.length := by simpa using hk
  refine ⟨argmin (l.map key), hk', List.getElem?_eq_getElem hk', ?_, ?_⟩
  · intro j hj
    have hle := getElem_argmin_le hk (List.mem_map.2 ⟨l[j], List.getElem_mem hj, rfl⟩)
    rwa [List.getElem_map] at hle
  · intro j hj
    have hlt := lt_of_lt_argmin hk hj
    rwa [List.getElem_map, List.getElem_map] at hlt

end FirstLeast

section Index

variable {ι : Type u} {α : Type v} {β : Type w} [LinearOrder ι]

def isEmpty (s : Series ι α) : Bool := s.index.isEmpty

/-- No points. -/
def empty : Series ι α := ⟨[], [], rfl, List.Pairwise.nil⟩

/-- New values over the same index. -/
def withValues (s : Series ι α) (values : List β) (h : values.length = s.values.length) :
    Series ι β where
  index := s.index
  values := values
  length_values := h.trans s.length_values
  ascending := s.ascending

@[simp] theorem index_withValues (s : Series ι α) (values : List β) (h) :
    (s.withValues values h).index = s.index := rfl

@[simp] theorem values_withValues (s : Series ι α) (values : List β) (h) :
    (s.withValues values h).values = values := rfl

def map (f : α → β) (s : Series ι α) : Series ι β := s.withValues (s.values.map f) (by simp)

def points (s : Series ι α) : List (ι × α) := s.index.zip s.values

/-- The series of points whose labels ascend. -/
def ofPoints (points : List (ι × α)) (h : (points.map Prod.fst).Pairwise (· < ·)) :
    Series ι α where
  index := points.map Prod.fst
  values := points.map Prod.snd
  length_values := by rw [List.length_map, List.length_map]
  ascending := h

@[simp] theorem points_ofPoints (points : List (ι × α)) (h) :
    (ofPoints points h).points = points := by
  induction points with
  | nil => rfl
  | cons p points ih => exact congrArg (p :: ·) (ih (List.Pairwise.of_cons h))

theorem ascending_filter (s : Series ι α) (p : ι × α → Bool) :
    ((s.points.filter p).map Prod.fst).Pairwise (· < ·) := by
  apply List.Pairwise.sublist (List.filter_sublist.map _)
  rw [points, List.map_fst_zip s.length_values.ge]
  exact s.ascending

/-- The points with labels between two. -/
def between (s : Series ι α) (low high : ι) : Series ι α :=
  ofPoints (s.points.filter (fun p => decide (low ≤ p.1) && decide (p.1 ≤ high)))
    (s.ascending_filter _)

theorem ascending_insertionSort {points : List (ι × α)} (h : (points.map Prod.fst).Nodup) :
    ((points.insertionSort (fun p q => p.1 ≤ q.1)).map Prod.fst).Pairwise (· < ·) := by
  have hperm := List.perm_insertionSort (fun p q : ι × α => p.1 ≤ q.1) points
  have hnodup := (hperm.map Prod.fst).nodup_iff.2 h
  have hsorted : (points.insertionSort (fun p q => p.1 ≤ q.1)).Pairwise
      (fun p q => p.1 ≤ q.1) := by
    have htotal : Std.Total (fun p q : ι × α => p.1 ≤ q.1) := ⟨fun p q => le_total p.1 q.1⟩
    have htrans : IsTrans (ι × α) (fun p q => p.1 ≤ q.1) := ⟨fun _ _ _ => le_trans⟩
    exact List.pairwise_insertionSort _ points
  rw [List.pairwise_map]
  apply (hsorted.and (List.pairwise_map.1 hnodup)).imp
  intro p q hpq
  exact lt_of_le_of_ne hpq.1 hpq.2

/-- Points with distinct labels, in the order of the labels. -/
def sorted (points : List (ι × α)) (h : (points.map Prod.fst).Nodup) : Series ι α :=
  ofPoints (points.insertionSort (fun p q => p.1 ≤ q.1)) (ascending_insertionSort h)

/-- The label of the first least value. -/
def idxmin [LinearOrder α] (s : Series ι α) : Option ι := s.index[argmin s.values]?

/-- The value at a label. -/
def loc (s : Series ι α) (label : ι) : Option α :=
  (s.points.find? (fun p => p.1 = label)).map Prod.snd

/-- The points from a label on. -/
def locFrom (s : Series ι α) (label : ι) : List (ι × α) := s.points.filter (fun p => label ≤ p.1)

/-- The points up to and with a label. -/
def locTo (s : Series ι α) (label : ι) : List (ι × α) := s.points.filter (fun p => p.1 ≤ label)

variable {s : Series ι α}

@[simp] theorem length_points (s : Series ι α) : s.points.length = s.index.length := by
  simp [points, s.length_values]

theorem isEmpty_iff_points {s : Series ι α} : s.isEmpty = true ↔ s.points = [] := by
  rw [isEmpty, List.isEmpty_iff, ← List.length_eq_zero_iff, ← List.length_eq_zero_iff,
    length_points]

theorem map_fst_points (s : Series ι α) : s.points.map Prod.fst = s.index :=
  List.map_fst_zip s.length_values.ge

theorem map_snd_points (s : Series ι α) : s.points.map Prod.snd = s.values :=
  List.map_snd_zip s.length_values.le

theorem mem_index {s : Series ι α} (h : p ∈ s.points) : p.1 ∈ s.index := by
  rw [← s.map_fst_points]
  exact List.mem_map_of_mem h

theorem exists_mem_points {s : Series ι α} (h : i ∈ s.index) : ∃ p ∈ s.points, p.1 = i := by
  rw [← s.map_fst_points] at h
  exact List.mem_map.1 h

theorem ext_points {s t : Series ι α} (h : s.points = t.points) : s = t := by
  have hindex := congrArg (List.map Prod.fst) h
  have hvalues := congrArg (List.map Prod.snd) h
  rw [map_fst_points, map_fst_points] at hindex
  rw [map_snd_points, map_snd_points] at hvalues
  cases s
  cases t
  cases hindex
  cases hvalues
  rfl

/-- A series is the set of its points. -/
theorem ext_mem {s t : Series ι α} (h : ∀ p, p ∈ s.points ↔ p ∈ t.points) : s = t := by
  have hasc : ∀ u : Series ι α, u.points.Pairwise (fun p q => p.1 < q.1) := by
    intro u
    rw [← List.pairwise_map, map_fst_points]
    exact u.ascending
  have hne : ∀ p q : ι × α, p.1 < q.1 → p ≠ q := by
    intro p q hlt heq
    rw [heq] at hlt
    exact lt_irrefl _ hlt
  have hperm := (List.perm_ext_iff_of_nodup ((hasc s).imp (hne _ _)) ((hasc t).imp (hne _ _))).2 h
  apply ext_points
  exact hperm.eq_of_pairwise
    (fun _ _ _ _ hpq hqp => absurd (lt_trans hpq hqp) (lt_irrefl _)) (hasc s) (hasc t)

theorem mem_between {s : Series ι α} :
    p ∈ (s.between low high).points ↔ p ∈ s.points ∧ low ≤ p.1 ∧ p.1 ≤ high := by
  rw [between, points_ofPoints, List.mem_filter, Bool.and_eq_true, decide_eq_true_iff,
    decide_eq_true_iff]

theorem points_between_of_isEmpty {s : Series ι α} (h : s.isEmpty = true) (low high : ι) :
    (s.between low high).points = [] := by
  rw [between, points_ofPoints, isEmpty_iff_points.1 h]
  rfl

theorem mem_sorted {points : List (ι × α)} {h : (points.map Prod.fst).Nodup} :
    p ∈ (sorted points h).points ↔ p ∈ points := by
  rw [sorted, points_ofPoints]
  exact (List.perm_insertionSort _ points).mem_iff

theorem points_map (f : α → β) (s : Series ι α) :
    (s.map f).points = s.points.map fun p => (p.1, f p.2) :=
  List.zip_map_right

theorem getElem_points (hi : i < s.index.length) (hv : i < s.values.length)
    (h : i < s.points.length) : s.points[i] = (s.index[i], s.values[i]) := by
  simp [points]

theorem index_lt_iff (hi : i < s.index.length) (hj : j < s.index.length) :
    s.index[i] < s.index[j] ↔ i < j := by
  have hasc := List.pairwise_iff_getElem.1 s.ascending
  constructor
  · intro hlt
    apply Nat.lt_of_not_le
    intro hji
    rcases Nat.lt_or_eq_of_le hji with hji | hji
    · exact lt_asymm hlt (hasc j i hj hi hji)
    · subst hji
      exact lt_irrefl _ hlt
  · intro hij
    exact hasc i j hi hj hij

theorem index_le_iff (hi : i < s.index.length) (hj : j < s.index.length) :
    s.index[i] ≤ s.index[j] ↔ i ≤ j := by
  rw [← not_lt, index_lt_iff hj hi, Nat.not_lt]

/-- The points from one position to another. -/
theorem points_between_index {s : Series ι α} (hj : j < s.index.length) (hi : i < s.index.length) :
    (s.between s.index[j] s.index[i]).points = (s.points.take (i + 1)).drop j := by
  have hposition : ∀ k (hk : k < s.points.length), ∃ hk' : k < s.index.length,
      s.points[k].1 = s.index[k] := by
    intro k hk
    have hindex : k < s.index.length := by rwa [length_points] at hk
    refine ⟨hindex, ?_⟩
    rw [getElem_points hindex (s.length_values ▸ hindex)]
  have hlow : ∀ p ∈ s.points.take j, ¬ s.index[j] ≤ p.1 := by
    intro p hp
    obtain ⟨k, hk, rfl⟩ := List.getElem_of_mem hp
    rw [List.length_take] at hk
    obtain ⟨hk', heq⟩ := hposition k (by omega)
    rw [List.getElem_take, heq, index_le_iff hj hk']
    omega
  have hhigh : ∀ p ∈ s.points.drop (i + 1), ¬ p.1 ≤ s.index[i] := by
    intro p hp
    obtain ⟨k, hk, rfl⟩ := List.getElem_of_mem hp
    rw [List.length_drop] at hk
    obtain ⟨hk', heq⟩ := hposition (i + 1 + k) (by omega)
    rw [List.getElem_drop, heq, index_le_iff hk' hi]
    omega
  have hmid : ∀ p ∈ (s.points.take (i + 1)).drop j, s.index[j] ≤ p.1 ∧ p.1 ≤ s.index[i] := by
    intro p hp
    obtain ⟨k, hk, rfl⟩ := List.getElem_of_mem hp
    rw [List.length_drop, List.length_take] at hk
    obtain ⟨hk', heq⟩ := hposition (j + k) (by omega)
    rw [List.getElem_drop, List.getElem_take, heq, index_le_iff hj hk', index_le_iff hk' hi]
    omega
  have hfirst : ((s.points.take (i + 1)).take j).filter
      (fun p => decide (s.index[j] ≤ p.1) && decide (p.1 ≤ s.index[i])) = [] := by
    rw [List.filter_eq_nil_iff]
    intro p hp h
    rw [List.take_take] at hp
    apply hlow p ((List.take_sublist_take_left (Nat.min_le_left _ _)).subset hp)
    exact of_decide_eq_true (Bool.and_eq_true_iff.1 h).1
  have hlast : (s.points.drop (i + 1)).filter
      (fun p => decide (s.index[j] ≤ p.1) && decide (p.1 ≤ s.index[i])) = [] := by
    rw [List.filter_eq_nil_iff]
    intro p hp h
    exact hhigh p hp (of_decide_eq_true (Bool.and_eq_true_iff.1 h).2)
  have hall : ((s.points.take (i + 1)).drop j).filter
      (fun p => decide (s.index[j] ≤ p.1) && decide (p.1 ≤ s.index[i])) =
        (s.points.take (i + 1)).drop j := by
    rw [List.filter_eq_self]
    intro p hp
    exact Bool.and_eq_true_iff.2 ⟨decide_eq_true (hmid p hp).1, decide_eq_true (hmid p hp).2⟩
  rw [between, points_ofPoints]
  nth_rewrite 1 [← List.take_append_drop (i + 1) s.points]
  nth_rewrite 1 [← List.take_append_drop j (s.points.take (i + 1))]
  rw [List.filter_append, List.filter_append, hfirst, hlast, hall, List.nil_append, List.append_nil]

theorem index_inj (hi : i < s.index.length) (hj : j < s.index.length)
    (h : s.index[i] = s.index[j]) : i = j :=
  Nat.le_antisymm ((index_le_iff hi hj).1 h.le) ((index_le_iff hj hi).1 h.ge)

theorem loc_index (hi : i < s.index.length) :
    s.loc s.index[i] = s.values[i]? := by
  have hv : i < s.values.length := s.length_values ▸ hi
  have hp : i < s.points.length := by simpa using hi
  have hfind : s.points.find? (fun p => p.1 = s.index[i]) = some s.points[i] := by
    rw [List.find?_eq_some_iff_getElem]
    refine ⟨by simp [getElem_points hi hv], i, hp, rfl, ?_⟩
    intro j hj
    have hji : j < s.index.length := by omega
    have hjv : j < s.values.length := by omega
    have hne : s.index[j] ≠ s.index[i] := fun h => by
      have heq := index_inj hji hi h
      omega
    simpa [getElem_points hji hjv] using hne
  rw [loc, hfind, List.getElem?_eq_getElem hv, Option.map_some, getElem_points hi hv]

theorem loc_of_mem (h : p ∈ s.points) : s.loc p.1 = some p.2 := by
  obtain ⟨i, hi, rfl⟩ := List.getElem_of_mem h
  have hindex : i < s.index.length := by simpa using hi
  have hvalue : i < s.values.length := s.length_values ▸ hindex
  rw [getElem_points hindex hvalue, loc_index hindex, List.getElem?_eq_getElem hvalue]

theorem loc_eq_some : s.loc label = some value ↔ (label, value) ∈ s.points := by
  constructor
  · intro h
    obtain ⟨p, hfind, rfl⟩ := Option.map_eq_some_iff.1 h
    have hlabel : p.1 = label := of_decide_eq_true (List.find?_some hfind :)
    rw [← hlabel]
    exact List.mem_of_find?_eq_some hfind
  · exact loc_of_mem

theorem loc_map (f : α → β) (s : Series ι α) (label : ι) :
    (s.map f).loc label = (s.loc label).map f := by
  apply Option.ext
  intro value
  rw [loc_eq_some, points_map, Option.map_eq_some_iff, List.mem_map]
  constructor
  · rintro ⟨p, hp, heq⟩
    cases heq
    exact ⟨p.2, loc_of_mem hp, rfl⟩
  · rintro ⟨old, hold, rfl⟩
    exact ⟨(label, old), loc_eq_some.1 hold, rfl⟩

/-- The first point that passes a test, by its position. -/
theorem head?_filter_eq_some {p : ι × α → Bool} (hi : i < s.points.length)
    (h : p s.points[i] = true) (hfirst : ∀ j (hj : j < i), p s.points[j] = false) :
    (s.points.filter p).head? = some s.points[i] := by
  rw [List.head?_filter, List.find?_eq_some_iff_getElem]
  refine ⟨h, i, hi, rfl, ?_⟩
  intro j hj
  simp [hfirst j hj]

theorem head?_filter_eq_none {p : ι × α → Bool}
    (h : ∀ i (hi : i < s.points.length), p s.points[i] = false) :
    (s.points.filter p).head? = none := by
  rw [List.head?_filter, List.find?_eq_none]
  intro x hx
  obtain ⟨i, hi, hxi⟩ := List.getElem_of_mem hx
  rw [← hxi, h i hi]
  decide

end Index

section Selection

variable {ι : Type u} {α : Type v} {β : Type w} [LinearOrder ι]

/-- What becomes of a point; it keeps its label. -/
def selectPoint (g : ι → α → Option β) (p : ι × α) : Option (ι × β) :=
  (g p.1 p.2).map fun b => (p.1, b)

omit [LinearOrder ι] in
theorem map_fst_selectPoint_sublist (g : ι → α → Option β) (l : List (ι × α)) :
    ((l.filterMap (selectPoint g)).map Prod.fst).Sublist (l.map Prod.fst) := by
  induction l with
  | nil => exact .slnil
  | cons p l ih =>
    cases hg : g p.1 p.2 with
    | none =>
      have hnone : selectPoint g p = none := by rw [selectPoint, hg, Option.map_none]
      rw [List.filterMap_cons_none hnone, List.map_cons]
      exact ih.cons p.1
    | some b =>
      have hsome : selectPoint g p = some (p.1, b) := by rw [selectPoint, hg, Option.map_some]
      rw [List.filterMap_cons_some hsome, List.map_cons, List.map_cons]
      exact ih.cons_cons p.1

theorem ascending_selectPoint (g : ι → α → Option β) (s : Series ι α) :
    ((s.points.filterMap (selectPoint g)).map Prod.fst).Pairwise (· < ·) := by
  apply List.Pairwise.sublist (map_fst_selectPoint_sublist g s.points)
  rw [map_fst_points]
  exact s.ascending

/-- The points whose label and value give a new value. -/
def selected (g : ι → α → Option β) (s : Series ι α) : Series ι β :=
  ofPoints (s.points.filterMap (selectPoint g)) (ascending_selectPoint g s)

theorem index_selected_sublist (g : ι → α → Option β) (s : Series ι α) :
    (s.selected g).index.Sublist s.index := by
  rw [← map_fst_points s]
  exact map_fst_selectPoint_sublist g s.points

/-- The points that hold a value. -/
def dropna (s : Series ι (Option α)) : Series ι α := s.selected fun _ value => value

theorem length_dropna (s : Series ι (Option α)) :
    s.dropna.values.length = s.values.countP Option.isSome := by
  rw [← map_snd_points s, List.countP_map, dropna, selected, ofPoints, List.length_map,
    List.length_filterMap_eq_countP]
  apply List.countP_congr
  intro p _
  rw [selectPoint, Option.isSome_map, Function.comp_apply]

/-- The inner join on the labels. -/
def innerJoin (s : Series ι α) (t : Series ι β) : Series ι (α × β) :=
  s.selected fun label a => (t.loc label).map fun b => (a, b)

theorem mem_innerJoin {s : Series ι α} {t : Series ι β} {p : ι × α × β} :
    p ∈ (s.innerJoin t).points ↔ (p.1, p.2.1) ∈ s.points ∧ (p.1, p.2.2) ∈ t.points := by
  rw [innerJoin, selected, points_ofPoints, List.mem_filterMap]
  constructor
  · rintro ⟨q, hq, heq⟩
    obtain ⟨r, hr, rfl⟩ := Option.map_eq_some_iff.1 heq
    obtain ⟨b, hb, rfl⟩ := Option.map_eq_some_iff.1 hr
    exact ⟨hq, loc_eq_some.1 hb⟩
  · rintro ⟨hs, ht⟩
    refine ⟨(p.1, p.2.1), hs, ?_⟩
    rw [selectPoint, loc_eq_some.2 ht]
    rfl

/-- The points of a join with labels between two. -/
theorem between_innerJoin (s : Series ι α) (t : Series ι β) (low high : ι) :
    (s.innerJoin t).between low high = (s.between low high).innerJoin (t.between low high) := by
  apply ext_mem
  intro p
  rw [mem_between, mem_innerJoin, mem_innerJoin, mem_between, mem_between]
  constructor
  · rintro ⟨⟨hs, ht⟩, hlabel⟩
    exact ⟨⟨hs, hlabel⟩, ht, hlabel⟩
  · rintro ⟨⟨hs, hlabel⟩, ht, _⟩
    exact ⟨⟨hs, ht⟩, hlabel⟩

theorem innerJoin_map (f : α → γ) (g : β → δ) (s : Series ι α) (t : Series ι β) :
    (s.map f).innerJoin (t.map g) = (s.innerJoin t).map fun p => (f p.1, g p.2) := by
  apply ext_mem
  rintro ⟨label, c, d⟩
  rw [mem_innerJoin, points_map, points_map, points_map, List.mem_map, List.mem_map, List.mem_map]
  constructor
  · rintro ⟨⟨p, hp, hpeq⟩, ⟨_, b⟩, hq, hqeq⟩
    cases hpeq
    cases hqeq
    exact ⟨(p.1, p.2, b), mem_innerJoin.2 ⟨hp, hq⟩, rfl⟩
  · rintro ⟨p, hp, heq⟩
    cases heq
    obtain ⟨hs, ht⟩ := mem_innerJoin.1 hp
    exact ⟨⟨_, hs, rfl⟩, _, ht, rfl⟩

/-- A range within a range. -/
theorem between_between (s : Series ι α) (hlow : low ≤ low') (hhigh : high' ≤ high) :
    (s.between low high).between low' high' = s.between low' high' := by
  apply ext_mem
  intro p
  rw [mem_between, mem_between, mem_between]
  constructor
  · rintro ⟨⟨hp, _⟩, hlabel⟩
    exact ⟨hp, hlabel⟩
  · rintro ⟨hp, hlabel⟩
    exact ⟨⟨hp, hlow.trans hlabel.1, hlabel.2.trans hhigh⟩, hlabel⟩

theorem index_between_sublist (s : Series ι α) (low high : ι) :
    (s.between low high).index.Sublist s.index := by
  rw [← map_fst_points s]
  exact List.filter_sublist.map Prod.fst

end Selection

end Series
