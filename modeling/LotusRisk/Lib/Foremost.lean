import Mathlib.Data.List.MinMax

/-! What the first element with the greatest rank says, and when the order of the elements does not
matter to it. -/

namespace Foremost
set_option autoImplicit true

variable {α : Type u} {κ : Type v} {β : Type w} [LinearOrder κ]

/-- The value of the first element of the greatest rank. -/
def choose (rank : α → κ) (value : α → β) (l : List α) : Option β := (l.argmax rank).map value

variable {rank : α → κ} {value : α → β} {l : List α}

/-- No element outranks it. -/
def Leads (rank : α → κ) (l : List α) (a : α) : Prop := a ∈ l ∧ ∀ b ∈ l, rank b ≤ rank a

theorem choose_eq_none : choose rank value l = none ↔ l = [] := by
  rw [choose, Option.map_eq_none_iff, List.argmax_eq_none]

theorem exists_leads (h : choose rank value l = some b) :
    ∃ a, Leads rank l a ∧ value a = b := by
  obtain ⟨a, ha, hb⟩ := Option.map_eq_some_iff.1 h
  exact ⟨a, ⟨List.argmax_mem ha, fun _ hc => List.le_of_mem_argmax hc ha⟩, hb⟩

theorem exists_leads_of_mem (rank : α → κ) (h : a ∈ l) : ∃ b, Leads rank l b := by
  cases hfirst : l.argmax rank with
  | none =>
    rw [List.argmax_eq_none.1 hfirst] at h
    cases h
  | some b =>
    exact ⟨b, List.argmax_mem hfirst, fun _ hc => List.le_of_mem_argmax hc hfirst⟩

/-- A leading element that comes first is chosen. -/
theorem choose_cons_of_leads (h : ∀ b ∈ l, rank b ≤ rank a) :
    choose rank value (a :: l) = some (value a) := by
  classical
  have hfirst : (a :: l).argmax rank = some a := by
    apply List.argmax_eq_some_iff.2
    refine ⟨List.mem_cons_self, ?_, ?_⟩
    · intro b hb
      cases List.mem_cons.1 hb with
      | inl heq => rw [heq]
      | inr hmem => exact h b hmem
    · intro b _ _
      rw [List.idxOf_cons_self]
      exact Nat.zero_le _
  rw [choose, hfirst, Option.map_some]

/-- Leading elements that say the same are chosen alike in any order. -/
theorem choose_perm {l' : List α} (hperm : l'.Perm l)
    (h : ∀ a b, Leads rank l a → Leads rank l b → value a = value b) :
    choose rank value l' = choose rank value l := by
  cases hchosen : choose rank value l with
  | none =>
    rw [choose_eq_none] at hchosen ⊢
    rw [hchosen] at hperm
    exact hperm.eq_nil
  | some v =>
    obtain ⟨a, ha, rfl⟩ := exists_leads hchosen
    cases hchosen' : choose rank value l' with
    | none =>
      rw [choose_eq_none.1 hchosen'] at hperm
      have hmem := ha.1
      rw [hperm.nil_eq.symm] at hmem
      cases hmem
    | some v' =>
      obtain ⟨b, hb, rfl⟩ := exists_leads hchosen'
      have hleads : Leads rank l b :=
        ⟨hperm.mem_iff.1 hb.1, fun c hc => hb.2 c (hperm.mem_iff.2 hc)⟩
      rw [h b a hleads ha]

end Foremost
