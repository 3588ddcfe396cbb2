import Mathlib.Data.Nat.Basic
import Mathlib.Tactic.Common

/-! The maximal runs of a predicate on the indices below a bound, found by one scan. -/

namespace MaximalRuns
set_option autoImplicit true

/-- The indices from `s` up to `e` satisfy `q`, and their neighbours do not. -/
structure IsMaximalRun (q : Nat → Bool) (n s e : Nat) : Prop where
  nonempty : s < e
  inBounds : e ≤ n
  inside : ∀ i, s ≤ i → i < e → q i = true
  before : s = 0 ∨ q (s - 1) = false
  after : e = n ∨ q e = false

/-- The runs still to be closed from index `i` on, the one that is open starting at `s`. -/
def runsFrom (q : Nat → Bool) : Nat → Nat → Option Nat → List (Nat × Nat)
  | 0, _, none => []
  | 0, i, some s => [(s, i)]
  | k + 1, i, none => runsFrom q k (i + 1) (if q i then some i else none)
  | k + 1, i, some s =>
    if q i then runsFrom q k (i + 1) (some s) else (s, i) :: runsFrom q k (i + 1) none

/-- The maximal runs below `n`, in order. -/
def runs (q : Nat → Bool) (n : Nat) : List (Nat × Nat) := runsFrom q n 0 none

variable {q : Nat → Bool}

/-- What the scan knows at index `i`. -/
def Scanned (q : Nat → Bool) (i : Nat) : Option Nat → Prop
  | none => i = 0 ∨ q (i - 1) = false
  | some s => s < i ∧ (∀ j, s ≤ j → j < i → q j = true) ∧ (s = 0 ∨ q (s - 1) = false)

theorem Scanned.open_step (h : Scanned q i (some s)) (hq : q i = true) :
    Scanned q (i + 1) (some s) := by
  obtain ⟨hs, hin, hbefore⟩ := h
  refine ⟨by omega, ?_, hbefore⟩
  intro j hj hji
  rcases Nat.lt_or_ge j i with hlt | hge
  · exact hin j hj hlt
  · rw [show j = i by omega]
    exact hq

theorem Scanned.start (h : Scanned q i none) (hq : q i = true) :
    Scanned q (i + 1) (some i) := by
  refine ⟨by omega, ?_, h⟩
  intro j hj hji
  rw [show j = i by omega]
  exact hq

theorem Scanned.close (hq : q i = false) : Scanned q (i + 1) none :=
  .inr hq

/-- A maximal run that ends after `i` starts after `i` or is the open one. -/
theorem IsMaximalRun.start_eq (h : IsMaximalRun q n s e) (hopen : Scanned q i (some s₀))
    (he : i ≤ e) (hs : s < i) : s = s₀ := by
  obtain ⟨hs₀, hin, hbefore⟩ := hopen
  rcases Nat.lt_trichotomy s s₀ with hlt | heq | hgt
  · rcases hbefore with h0 | hprev
    · omega
    · have hq := h.inside (s₀ - 1) (by omega) (by omega)
      exact absurd (hq.symm.trans hprev) (by decide)
  · exact heq
  · rcases h.before with h0 | hprev
    · omega
    · have hq := hin (s - 1) (by omega) (by omega)
      exact absurd (hq.symm.trans hprev) (by decide)

theorem IsMaximalRun.le_start (h : IsMaximalRun q n s e) (hclosed : Scanned q i none)
    (he : i ≤ e) : i ≤ s := by
  apply Nat.le_of_not_lt
  intro hs
  rcases hclosed with h0 | hprev
  · omega
  · have hq := h.inside (i - 1) (by omega) (by omega)
    exact absurd (hq.symm.trans hprev) (by decide)

/-- The scan lists exactly the maximal runs that end at `i` or later. -/
theorem mem_runsFrom {o : Option Nat} (ho : Scanned q i o) :
    (s, e) ∈ runsFrom q k i o ↔ IsMaximalRun q (i + k) s e ∧ i ≤ e := by
  induction k generalizing i o with
  | zero =>
    cases o with
    | none =>
      constructor
      · intro h
        cases h
      · intro h
        have hs := h.1.le_start ho h.2
        have hne := h.1.nonempty
        have hle := h.1.inBounds
        omega
    | some s₀ =>
      have hmem : (s, e) ∈ runsFrom q 0 i (some s₀) ↔ s = s₀ ∧ e = i := by simp [runsFrom]
      rw [hmem]
      constructor
      · intro h
        obtain ⟨hs, he⟩ := h
        subst hs he
        exact ⟨⟨ho.1, Nat.le_refl _, ho.2.1, ho.2.2, .inl rfl⟩, Nat.le_refl _⟩
      · intro h
        have he : e = i := Nat.le_antisymm h.1.inBounds h.2
        exact ⟨h.1.start_eq ho h.2 (he ▸ h.1.nonempty), he⟩
  | succ k ih =>
    have hbound : i + (k + 1) = i + 1 + k := by omega
    rw [hbound]
    cases hq : q i with
    | true =>
      have hnext : ∀ {s e}, IsMaximalRun q (i + 1 + k) s e → i ≤ e → i + 1 ≤ e := by
        intro s e h he
        rcases Nat.lt_or_ge i e with hlt | hge
        · exact hlt
        · rcases h.after with hn | hafter
          · omega
          · rw [show e = i by omega, hq] at hafter
            cases hafter
      cases o with
      | none =>
        rw [runsFrom, hq, if_pos rfl, ih (Scanned.start ho hq)]
        exact ⟨fun h => ⟨h.1, by omega⟩, fun h => ⟨h.1, hnext h.1 h.2⟩⟩
      | some s₀ =>
        rw [runsFrom, hq, if_pos rfl, ih (Scanned.open_step ho hq)]
        exact ⟨fun h => ⟨h.1, by omega⟩, fun h => ⟨h.1, hnext h.1 h.2⟩⟩
    | false =>
      have hclosed : Scanned q (i + 1) none := Scanned.close hq
      cases o with
      | none =>
        rw [runsFrom, hq, if_neg (by decide), ih hclosed]
        refine ⟨fun h => ⟨h.1, by omega⟩, fun h => ⟨h.1, ?_⟩⟩
        have hs := h.1.le_start ho h.2
        have hne := h.1.nonempty
        omega
      | some s₀ =>
        rw [runsFrom, hq, if_neg (by decide), List.mem_cons, ih hclosed, Prod.mk.injEq]
        constructor
        · rintro (⟨hs, he⟩ | h)
          · subst hs he
            exact ⟨⟨ho.1, by omega, ho.2.1, ho.2.2, .inr hq⟩, Nat.le_refl _⟩
          · exact ⟨h.1, by omega⟩
        · intro h
          rcases Nat.lt_or_ge i e with hlt | hge
          · exact .inr ⟨h.1, hlt⟩
          · have he : e = i := Nat.le_antisymm hge h.2
            exact .inl ⟨h.1.start_eq ho h.2 (he ▸ h.1.nonempty), he⟩

/-- Consecutive runs are separated by an index outside both. -/
theorem pairwise_runsFrom {o : Option Nat} (ho : Scanned q i o) :
    (runsFrom q k i o).Pairwise (fun a b => a.2 < b.1) := by
  induction k generalizing i o with
  | zero =>
    cases o with
    | none => exact List.Pairwise.nil
    | some s₀ => exact List.pairwise_singleton _ _
  | succ k ih =>
    cases hq : q i with
    | true =>
      cases o with
      | none =>
        rw [runsFrom, hq, if_pos rfl]
        exact ih (Scanned.start ho hq)
      | some s₀ =>
        rw [runsFrom, hq, if_pos rfl]
        exact ih (Scanned.open_step ho hq)
    | false =>
      have hclosed : Scanned q (i + 1) none := Scanned.close hq
      cases o with
      | none =>
        rw [runsFrom, hq, if_neg (by decide)]
        exact ih hclosed
      | some s₀ =>
        rw [runsFrom, hq, if_neg (by decide), List.pairwise_cons]
        refine ⟨?_, ih hclosed⟩
        intro r hr
        have hr := (mem_runsFrom hclosed).1 hr
        exact hr.1.le_start hclosed hr.2

theorem Scanned.zero : Scanned q 0 none :=
  Or.inl rfl

theorem mem_runs : (s, e) ∈ runs q n ↔ IsMaximalRun q n s e := by
  rw [runs, mem_runsFrom Scanned.zero, Nat.zero_add]
  exact ⟨fun h => h.1, fun h => ⟨h, Nat.zero_le e⟩⟩

theorem pairwise_runs : (runs q n).Pairwise (fun a b => a.2 < b.1) :=
  pairwise_runsFrom Scanned.zero

/-- Every index that satisfies the predicate lies in a maximal run. -/
theorem exists_maximalRun (hi : i < n) (hq : q i = true) :
    ∃ s e, IsMaximalRun q n s e ∧ s ≤ i ∧ i < e := by
  have hleft : ∃ s, s ≤ i ∧ (∀ j, s ≤ j → j ≤ i → q j = true) ∧ (s = 0 ∨ q (s - 1) = false) := by
    induction i with
    | zero =>
      refine ⟨0, Nat.le_refl _, ?_, .inl rfl⟩
      intro j _ hj
      rw [show j = 0 by omega]
      exact hq
    | succ i ih =>
      cases hprev : q i with
      | false =>
        refine ⟨i + 1, Nat.le_refl _, ?_, .inr hprev⟩
        intro j hj hji
        rw [show j = i + 1 by omega]
        exact hq
      | true =>
        obtain ⟨s, hs, hin, hbefore⟩ := ih (by omega) hprev
        refine ⟨s, by omega, ?_, hbefore⟩
        intro j hj hji
        rcases Nat.lt_or_ge i j with hlt | hge
        · rw [show j = i + 1 by omega]
          exact hq
        · exact hin j hj hge
  have hright : ∃ e, i < e ∧ e ≤ n ∧ (∀ j, i ≤ j → j < e → q j = true) ∧
      (e = n ∨ q e = false) := by
    obtain ⟨k, rfl⟩ : ∃ k, n = i + 1 + k := ⟨n - (i + 1), by omega⟩
    clear hleft
    induction k generalizing i with
    | zero =>
      refine ⟨i + 1, by omega, by omega, ?_, .inl rfl⟩
      intro j hj hji
      rw [show j = i by omega]
      exact hq
    | succ k ih =>
      cases hnext : q (i + 1) with
      | false =>
        refine ⟨i + 1, by omega, by omega, ?_, .inr hnext⟩
        intro j hj hji
        rw [show j = i by omega]
        exact hq
      | true =>
        obtain ⟨e, he, hen, hin, hafter⟩ := ih (i := i + 1) hnext (by omega)
        refine ⟨e, by omega, by omega, ?_, ?_⟩
        · intro j hj hje
          rcases Nat.lt_or_ge i j with hlt | hge
          · exact hin j hlt hje
          · rw [show j = i by omega]
            exact hq
        · rcases hafter with h | h
          · exact .inl (by omega)
          · exact .inr h
  obtain ⟨s, hs, hinl, hbefore⟩ := hleft
  obtain ⟨e, he, hen, hinr, hafter⟩ := hright
  refine ⟨s, e, ⟨by omega, hen, ?_, hbefore, hafter⟩, hs, he⟩
  intro j hj hje
  rcases Nat.le_total j i with h | h
  · exact hinl j hj h
  · exact hinr j h hje

/-- The runs cover exactly the indices that satisfy the predicate. -/
theorem covered_iff (hi : i < n) : q i = true ↔ ∃ r ∈ runs q n, r.1 ≤ i ∧ i < r.2 := by
  constructor
  · intro hq
    obtain ⟨s, e, hrun, hs, he⟩ := exists_maximalRun hi hq
    exact ⟨(s, e), mem_runs.2 hrun, hs, he⟩
  · rintro ⟨⟨s, e⟩, hr, hs, he⟩
    exact (mem_runs.1 hr).inside i hs he

/-- Only the last run can reach the bound, and it does exactly when the last index satisfies the
predicate. -/
theorem end_lt_of_mem_dropLast (hr : r ∈ (runs q n).dropLast) : r.2 < n := by
  obtain ⟨last, hlast⟩ : ∃ last, runs q n = (runs q n).dropLast ++ [last] := by
    have hne : runs q n ≠ [] := by
      intro h
      rw [h] at hr
      cases hr
    exact ⟨_, (List.dropLast_concat_getLast hne).symm⟩
  have hpair := pairwise_runs (q := q) (n := n)
  rw [hlast, List.pairwise_append] at hpair
  have hsep := hpair.2.2 r hr last (List.mem_singleton.2 rfl)
  have hmem : last ∈ runs q n := hlast ▸ List.mem_append_right _ (List.mem_singleton.2 rfl)
  have hrun := mem_runs.1 hmem
  have hne := hrun.nonempty
  have hle := hrun.inBounds
  omega

theorem exists_end_eq_iff (hn : 0 < n) : (∃ r ∈ runs q n, r.2 = n) ↔ q (n - 1) = true := by
  constructor
  · rintro ⟨⟨s, e⟩, hr, he⟩
    have hrun := mem_runs.1 hr
    have hne := hrun.nonempty
    simp only at he
    exact hrun.inside (n - 1) (by omega) (by omega)
  · intro hq
    have hi : n - 1 < n := by omega
    obtain ⟨s, e, hrun, hs, he⟩ := exists_maximalRun hi hq
    have hle := hrun.inBounds
    have hlast : e = n := by omega
    exact ⟨(s, e), mem_runs.2 hrun, hlast⟩

end MaximalRuns
