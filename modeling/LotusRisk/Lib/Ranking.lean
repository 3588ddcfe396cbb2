import Mathlib.Data.List.Infix
import LotusRisk.Lib.Series

/-! The first elements of a list by a key, down to a bound; equal keys keep their order. -/

namespace Ranking
set_option autoImplicit true

variable {α : Type u} {κ : Type v} [LinearOrder κ]

/-- The elements in the order of their keys. -/
def ranked (key : α → κ) (l : List α) : List α := l.insertionSort fun a b => key a ≤ key b

/-- The first `n` elements with keys up to a bound. -/
def top (key : α → κ) (bound : κ) (n : Nat) (l : List α) : List α :=
  (ranked key (l.filter fun a => decide (key a ≤ bound))).take n

variable {key : α → κ} {l : List α}

section Order

theorem ranked_perm (key : α → κ) (l : List α) : (ranked key l).Perm l :=
  List.perm_insertionSort _ l

theorem pairwise_ranked (key : α → κ) (l : List α) :
    (ranked key l).Pairwise fun a b => key a ≤ key b := by
  have htotal : Std.Total fun a b : α => key a ≤ key b := ⟨fun a b => le_total (key a) (key b)⟩
  have htrans : IsTrans α fun a b => key a ≤ key b := ⟨fun _ _ _ => le_trans⟩
  exact List.pairwise_insertionSort _ l

theorem filter_orderedInsert (p : α → Bool) (a : α)
    (h : l.Pairwise fun b c => key b ≤ key c) :
    (l.orderedInsert (fun b c => key b ≤ key c) a).filter p =
      if p a then (l.filter p).orderedInsert (fun b c => key b ≤ key c) a else l.filter p := by
  induction l with
  | nil =>
    rw [List.orderedInsert_nil, List.filter_cons, List.filter_nil, List.orderedInsert_nil]
  | cons b l ih =>
    obtain ⟨hb, hl⟩ := List.pairwise_cons.1 h
    rw [List.orderedInsert_cons]
    by_cases hab : key a ≤ key b
    · rw [if_pos hab, List.filter_cons]
      -- no later key is below that of `b`, so `a` goes first among those that pass too
      have hfirst : (( b :: l).filter p).orderedInsert (fun b c => key b ≤ key c) a =
          a :: (b :: l).filter p := by
        cases hfilter : (b :: l).filter p with
        | nil => rfl
        | cons c rest =>
          have hc : c ∈ b :: l :=
            List.mem_of_mem_filter (hfilter ▸ List.mem_cons_self)
          have hbc : key b ≤ key c := by
            rcases List.mem_cons.1 hc with rfl | hc
            · exact le_rfl
            · exact hb c hc
          rw [List.orderedInsert_cons, if_pos (hab.trans hbc)]
      rw [hfirst]
    · rw [if_neg hab, List.filter_cons, ih hl, List.filter_cons]
      cases hpa : p a <;> cases hpb : p b <;> simp [hab]

theorem ranked_filter (key : α → κ) (p : α → Bool) (l : List α) :
    ranked key (l.filter p) = (ranked key l).filter p := by
  induction l with
  | nil => rfl
  | cons a l ih =>
    change _ = ((ranked key l).orderedInsert (fun b c => key b ≤ key c) a).filter p
    rw [filter_orderedInsert p a (pairwise_ranked key l), ← ih, List.filter_cons]
    cases p a <;> rfl

/-- What passes a bound comes first. -/
theorem filter_prefix (bound : κ) (h : l.Pairwise fun a b => key a ≤ key b) :
    (l.filter fun a => decide (key a ≤ bound)) <+: l := by
  induction l with
  | nil => exact List.prefix_rfl
  | cons a l ih =>
    obtain ⟨ha, hl⟩ := List.pairwise_cons.1 h
    by_cases hle : key a ≤ bound
    · rw [List.filter_cons, if_pos (decide_eq_true hle)]
      exact List.cons_prefix_cons.2 ⟨rfl, ih hl⟩
    · have hnone : (a :: l).filter (fun b => decide (key b ≤ bound)) = [] := by
        rw [List.filter_eq_nil_iff]
        intro b hb hpass
        have hbound : key b ≤ bound := of_decide_eq_true hpass
        rcases List.mem_cons.1 hb with rfl | hb
        · exact hle hbound
        · exact hle ((ha b hb).trans hbound)
      rw [hnone]
      exact List.nil_prefix

theorem minBy_cons (key : α → κ) (a : α) (l : List α) : Series.minBy key (a :: l) =
    some (match Series.minBy key l with
      | none => a
      | some b => if key a ≤ key b then a else b) := by
  by_cases hl : l = []
  · subst hl
    have hargmin : Series.argmin ([a].map key) = 0 :=
      Series.argmin_eq Nat.zero_lt_one (fun _ hy => (List.mem_singleton.1 hy).ge)
        (fun _ hj => absurd hj (Nat.not_lt_zero _))
    rw [Series.minBy, hargmin]
    rfl
  · obtain ⟨k, hk, hmin, hpositions, hbefore⟩ := Series.exists_minBy key hl
    have hleast : ∀ b ∈ l, key l[k] ≤ key b := by
      intro b hb
      obtain ⟨j, hj, rfl⟩ := List.getElem_of_mem hb
      exact hpositions j hj
    have hlength : k < (l.map key).length := by rwa [List.length_map]
    rw [hmin]
    by_cases hle : key a ≤ key l[k]
    · have hargmin : Series.argmin ((a :: l).map key) = 0 := by
        apply Series.argmin_eq (Nat.zero_lt_succ _)
        · intro y hy
          obtain ⟨b, hb, rfl⟩ := List.mem_map.1 hy
          rcases List.mem_cons.1 hb with rfl | hb
          · exact le_rfl
          · exact hle.trans (hleast b hb)
        · intro j hj
          exact absurd hj (Nat.not_lt_zero _)
      rw [Series.minBy, hargmin]
      simp only [if_pos hle]
      rfl
    · have hargmin : Series.argmin ((a :: l).map key) = k + 1 := by
        apply Series.argmin_eq (Nat.succ_lt_succ hlength)
        · intro y hy
          rw [List.getElem_map, List.getElem_cons_succ]
          obtain ⟨b, hb, rfl⟩ := List.mem_map.1 hy
          rcases List.mem_cons.1 hb with rfl | hb
          · exact (not_le.1 hle).le
          · exact hleast b hb
        · intro j hj
          rw [List.getElem_map, List.getElem_map, List.getElem_cons_succ]
          cases j with
          | zero => exact not_le.1 hle
          | succ j => exact hbefore j (Nat.lt_of_succ_lt_succ hj)
      rw [Series.minBy, hargmin]
      simp only [if_neg hle]
      exact List.getElem?_eq_getElem hk

/-- The first of the ranked elements is the first one with the least key. -/
theorem head?_ranked (key : α → κ) (l : List α) :
    (ranked key l).head? = Series.minBy key l := by
  induction l with
  | nil => rfl
  | cons a l ih =>
    change ((ranked key l).orderedInsert (fun b c => key b ≤ key c) a).head? = _
    rw [minBy_cons, ← ih]
    cases ranked key l with
    | nil => rfl
    | cons b rest =>
      rw [List.orderedInsert_cons]
      by_cases hle : key a ≤ key b
      · simp only [if_pos hle, List.head?_cons]
      · simp only [if_neg hle, List.head?_cons]

end Order

section Top

theorem top_eq (key : α → κ) (bound : κ) (n : Nat) (l : List α) :
    top key bound n l = ((ranked key l).filter fun a => decide (key a ≤ bound)).take n := by
  rw [top, ranked_filter]

/-- A lower bound and fewer elements leave a prefix. -/
theorem top_prefix (key : α → κ) {bound bound' : κ} (hbound : bound ≤ bound') (hn : n ≤ n')
    (l : List α) :
    top key bound n l <+: top key bound' n' l := by
  have hstricter : ((ranked key l).filter fun a => decide (key a ≤ bound)) <+:
      (ranked key l).filter fun a => decide (key a ≤ bound') := by
    have hsame : ((ranked key l).filter fun a => decide (key a ≤ bound)) =
        ((ranked key l).filter fun a => decide (key a ≤ bound')).filter
          fun a => decide (key a ≤ bound) := by
      rw [List.filter_filter]
      apply List.filter_congr
      intro a _
      by_cases h : key a ≤ bound
      · rw [decide_eq_true h, decide_eq_true (h.trans hbound)]
        rfl
      · rw [decide_eq_false h]
        rfl
    rw [hsame]
    exact filter_prefix bound ((pairwise_ranked key l).filter _)
  rw [top_eq, top_eq]
  exact (List.IsPrefix.take hstricter n).trans (List.take_prefix_take_left hn)

theorem mem_of_top (h : a ∈ top key bound n l) : a ∈ l ∧ key a ≤ bound := by
  have hmem := (ranked_perm key _).mem_iff.1 (List.mem_of_mem_take h)
  obtain ⟨ha, hle⟩ := List.mem_filter.1 hmem
  exact ⟨ha, of_decide_eq_true hle⟩

theorem pairwise_top (key : α → κ) (bound : κ) (n : Nat) (l : List α) :
    (top key bound n l).Pairwise fun a b => key a ≤ key b :=
  (pairwise_ranked key _).sublist (List.take_sublist n _)

theorem length_top (key : α → κ) (bound : κ) (n : Nat) (l : List α) :
    (top key bound n l).length = min n (l.countP fun a => decide (key a ≤ bound)) := by
  rw [top, List.length_take, (ranked_perm key _).length_eq, List.countP_eq_length_filter]

/-- What is left out ranks no higher than what is there, and there is no room for it. -/
theorem top_complete (ha : a ∈ l) (hle : key a ≤ bound) :
    a ∈ top key bound n l ∨ (top key bound n l).length = n ∧
      ∀ b ∈ top key bound n l, key b ≤ key a := by
  have hmem : a ∈ ranked key (l.filter fun a => decide (key a ≤ bound)) :=
    (ranked_perm key _).mem_iff.2 (List.mem_filter.2 ⟨ha, decide_eq_true hle⟩)
  rw [← List.take_append_drop n (ranked key _), List.mem_append] at hmem
  rcases hmem with hmem | hmem
  · exact .inl hmem
  · right
    have hsorted := pairwise_ranked key (l.filter fun a => decide (key a ≤ bound))
    rw [← List.take_append_drop n (ranked key _), List.pairwise_append] at hsorted
    constructor
    · have hlength := List.length_pos_of_mem hmem
      rw [List.length_drop] at hlength
      rw [top, List.length_take]
      omega
    · intro b hb
      exact hsorted.2.2 b hb a hmem

/-- The first element with the least key leads, where its key is within the bound. -/
theorem head?_top (hn : 0 < n) (hfirst : Series.minBy key l = some a) (hle : key a ≤ bound) :
    (top key bound n l).head? = some a := by
  rw [← head?_ranked] at hfirst
  obtain ⟨rest, hrest⟩ := List.head?_eq_some_iff.1 hfirst
  obtain ⟨m, rfl⟩ := Nat.exists_eq_add_of_lt hn
  rw [top_eq, hrest, List.filter_cons, if_pos (decide_eq_true hle), List.take_succ_cons]
  rfl

end Top

end Ranking
