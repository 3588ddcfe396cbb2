import Mathlib.Data.List.Basic

/-! The choice of the highest-ranked candidate, for a ranking given as a list. -/

namespace Precedence
set_option autoImplicit true

variable {α : Type u} [DecidableEq α] {ranking p q seen all candidates : List α}
  {a b r : α}

def pick (ranking candidates : List α) : Option α :=
  ranking.find? (fun a => decide (a ∈ candidates))

/-- The position in the ranking; what is not ranked comes after everything that is. -/
def rank (ranking : List α) (a : α) : Nat := ranking.idxOf a

/-- A ranked candidate that no other candidate is ranked above. -/
structure IsHighest (ranking candidates : List α) (a : α) : Prop where
  ranked : a ∈ ranking
  mem : a ∈ candidates
  le : ∀ b ∈ candidates, rank ranking a ≤ rank ranking b

theorem rank_cons_self (a : α) (ranking : List α) : rank (a :: ranking) a = 0 :=
  List.idxOf_cons_self

theorem rank_cons_ne (h : r ≠ a) (ranking : List α) :
    rank (r :: ranking) a = rank ranking a + 1 :=
  List.idxOf_cons_ne ranking h

theorem eq_of_rank_eq (ranking : List α) (ha : a ∈ ranking)
    (h : rank ranking a = rank ranking b) : a = b :=
  (List.idxOf_inj ha).1 h

theorem pick_eq_some_iff :
    pick ranking candidates = some a ↔ IsHighest ranking candidates a := by
  induction ranking with
  | nil =>
    constructor
    · intro h
      cases h
    · intro h
      cases h.ranked
  | cons r ranking ih =>
    unfold pick at ih ⊢
    by_cases hr : r ∈ candidates
    · rw [List.find?_cons_of_pos (by simpa using hr)]
      constructor
      · intro h
        cases h
        refine ⟨List.mem_cons_self, hr, ?_⟩
        intro b _
        rw [rank_cons_self]
        exact Nat.zero_le _
      · intro h
        have hle := h.le r hr
        rw [rank_cons_self] at hle
        have heq : r = a := by
          apply eq_of_rank_eq (r :: ranking) List.mem_cons_self
          rw [rank_cons_self]
          exact (Nat.le_zero.1 hle).symm
        rw [heq]
    · rw [List.find?_cons_of_neg (by simpa using hr), ih]
      have hne : ∀ b ∈ candidates, r ≠ b := by
        intro b hb he
        exact hr (he ▸ hb)
      constructor
      · intro h
        refine ⟨List.mem_cons_of_mem r h.ranked, h.mem, ?_⟩
        intro b hb
        rw [rank_cons_ne (hne a h.mem), rank_cons_ne (hne b hb)]
        exact Nat.succ_le_succ (h.le b hb)
      · intro h
        refine ⟨?_, h.mem, ?_⟩
        · exact (List.mem_cons.1 h.ranked).resolve_left (Ne.symm (hne a h.mem))
        · intro b hb
          have hle := h.le b hb
          rw [rank_cons_ne (hne a h.mem), rank_cons_ne (hne b hb)] at hle
          exact Nat.le_of_succ_le_succ hle

theorem exists_pick (hr : a ∈ ranking) (hc : a ∈ candidates) :
    ∃ b, pick ranking candidates = some b := by
  apply Option.isSome_iff_exists.1
  unfold pick
  rw [List.find?_isSome]
  exact ⟨a, hr, by simpa using hc⟩

/-- Only which candidates occur matters, not their order or how often they occur. -/
theorem pick_congr (h : ∀ a, a ∈ p ↔ a ∈ q) (ranking : List α) :
    pick ranking p = pick ranking q := by
  unfold pick
  congr 1
  funext a
  rw [decide_eq_decide]
  exact h a

/-- Choosing from what was chosen before is choosing from everything at once. -/
theorem IsHighest.append_left (hp : IsHighest ranking p b) (h : IsHighest ranking (q ++ [b]) a) :
    IsHighest ranking (q ++ p) a := by
  refine ⟨h.ranked, ?_, ?_⟩
  · rcases List.mem_append.1 h.mem with hq | hb
    · exact List.mem_append_left p hq
    · rw [List.mem_singleton.1 hb]
      exact List.mem_append_right q hp.mem
  · intro c hc
    rcases List.mem_append.1 hc with hq | hc
    · exact h.le c (List.mem_append_left _ hq)
    · have hb := h.le b (List.mem_append_right q (List.mem_singleton_self b))
      exact Nat.le_trans hb (hp.le c hc)

/-- The choice among the seen stands among all exactly when it covers the unseen. -/
theorem IsHighest.extend_iff (h : IsHighest ranking seen a) (hsub : seen ⊆ all) :
    IsHighest ranking all a ↔
      ∀ c ∈ all, c ∉ seen → ∃ b ∈ seen, rank ranking b ≤ rank ranking c := by
  constructor
  · intro ht c hc _
    exact ⟨a, h.mem, ht.le c hc⟩
  · intro hu
    refine ⟨h.ranked, hsub h.mem, ?_⟩
    intro c hc
    by_cases hs : c ∈ seen
    · exact h.le c hs
    · obtain ⟨b, hb, hle⟩ := hu c hc hs
      exact Nat.le_trans (h.le b hb) hle

theorem IsHighest.mono (hp : IsHighest ranking p a) (hq : IsHighest ranking q b) (h : p ⊆ q) :
    rank ranking b ≤ rank ranking a :=
  hq.le a (h hp.mem)

end Precedence
