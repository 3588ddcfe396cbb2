import Mathlib.Algebra.BigOperators.Group.Finset.Basic
import Mathlib.Data.List.Nodup
import Mathlib.Data.List.Perm.Subperm

/-! Rows written one after the other under a key: what a later row leaves of the earlier ones. -/

namespace Latest
set_option autoImplicit true

variable {α : Type u} {κ : Type v} [DecidableEq κ] (key : α → κ)

/-- The last row under a key. -/
def latest (rows : List α) (k : κ) : Option α :=
  rows.reverse.find? (fun a => decide (key a = k))

@[simp] theorem latest_nil (k : κ) : latest key [] k = none := rfl

theorem latest_snoc (rows : List α) (a : α) (k : κ) :
    latest key (rows ++ [a]) k = if key a = k then some a else latest key rows k := by
  simp only [latest, List.reverse_append, List.reverse_singleton, List.singleton_append]
  split
  · rename_i h
    exact List.find?_cons_of_pos (by simpa using h)
  · rename_i h
    exact List.find?_cons_of_neg (by simpa using h)

theorem mem_of_latest (h : latest key rows k = some a) : a ∈ rows ∧ key a = k := by
  refine ⟨List.mem_reverse.1 (List.mem_of_find?_eq_some h), ?_⟩
  simpa using List.find?_some h

theorem latest_eq_none (h : k ∉ rows.map key) : latest key rows k = none := by
  apply List.find?_eq_none.2
  intro a ha
  simp only [decide_eq_true_eq]
  intro he
  exact h (he ▸ List.mem_map_of_mem (List.mem_reverse.1 ha))

/-- No row is lost when no two have one key. -/
theorem latest_of_nodup (h : (rows.map key).Nodup) (ha : a ∈ rows) :
    latest key rows (key a) = some a := by
  cases hl : latest key rows (key a) with
  | none =>
    have hn := List.find?_eq_none.1 hl a (List.mem_reverse.2 ha)
    simp at hn
  | some b =>
    obtain ⟨hb, he⟩ := mem_of_latest key hl
    rw [List.inj_on_of_nodup_map h hb ha he]

/-- A row that is alone under its key. -/
theorem filter_eq_singleton_of_nodup {l : List α} {a : α} (h : (l.map key).Nodup) (ha : a ∈ l) :
    l.filter (fun b => decide (key b = key a)) = [a] := by
  induction l with
  | nil => cases ha
  | cons b l ih =>
    rw [List.map_cons, List.nodup_cons] at h
    rcases List.mem_cons.1 ha with rfl | ha
    · rw [List.filter_cons_of_pos (by simp)]
      congr 1
      apply List.filter_eq_nil_iff.2
      intro c hc hcf
      exact h.1 (of_decide_eq_true hcf ▸ List.mem_map_of_mem hc)
    · have hne : ¬key b = key a := fun he => h.1 (he ▸ List.mem_map_of_mem ha)
      rw [List.filter_cons_of_neg (by simpa using hne)]
      exact ih h.2 ha

omit [DecidableEq κ] in
/-- Rows that all have a place in a table have keys of their own. -/
theorem nodup_of_subperm {l m : List α} (h : l.Subperm m) (hm : (m.map key).Nodup) :
    (l.map key).Nodup := by
  obtain ⟨l', hperm, hsub⟩ := h
  exact (hperm.map key).nodup_iff.1 (hm.sublist (hsub.map key))

/-- What the rows add up to is then what the table of the last rows adds up to. -/
theorem sum_latest {R : Type w} [AddCommMonoid R] (f : α → R) {rows : List α} {ks : List κ}
    (hks : ks.Nodup) (h : (rows.map key).Nodup) (hsub : ∀ a ∈ rows, key a ∈ ks) :
    (ks.map (fun k => ((latest key rows k).map f).getD 0)).sum = (rows.map f).sum := by
  have hrows : rows.map f = (rows.map key).map (fun k => ((latest key rows k).map f).getD 0) := by
    rw [List.map_map]
    apply List.map_congr_left
    intro a ha
    simp only [Function.comp_apply, latest_of_nodup key h ha, Option.map_some, Option.getD_some]
  rw [hrows, ← List.sum_toFinset _ hks, ← List.sum_toFinset _ h]
  symm
  apply Finset.sum_subset
  · intro k hk
    obtain ⟨a, ha, rfl⟩ := List.mem_map.1 (List.mem_toFinset.1 hk)
    exact List.mem_toFinset.2 (hsub a ha)
  · intro k _ hk
    rw [latest_eq_none key (fun hmem => hk (List.mem_toFinset.2 hmem))]
    rfl

end Latest
