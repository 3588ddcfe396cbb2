import Mathlib.Data.List.Nodup
import Mathlib.Data.List.Sort

namespace Relational
set_option autoImplicit true

/-- A relation whose rows are identified by a key; no two rows share it. -/
structure Table (α : Type u) (κ : Type v) (key : α → κ) where
  rows : List α
  unique : (rows.map key).Nodup

variable {α : Type u} {κ : Type v} [DecidableEq κ] {key : α → κ}

def Table.empty : Table α κ key := ⟨[], .nil⟩

def Table.find? (t : Table α κ key) (k : κ) : Option α :=
  t.rows.find? (fun a => key a = k)

/-- Insertion fails on a key that is already present. -/
def Table.insert? (t : Table α κ key) (a : α) : Option (Table α κ key) :=
  if h : key a ∈ t.rows.map key then none
  else some ⟨t.rows ++ [a], by
    rw [List.map_append, List.map_singleton, List.nodup_append]
    refine ⟨t.unique, List.nodup_singleton _, fun x hx y hy he => h ?_⟩
    rw [← List.mem_singleton.1 hy, ← he]
    exact hx⟩

/-- All rows go in, or none does. -/
def Table.insertAll? (t : Table α κ key) : List α → Option (Table α κ key)
  | [] => some t
  | a :: as => (t.insert? a).bind (·.insertAll? as)

def Table.modify (t : Table α κ key) (k : κ) (f : α → α) (hf : ∀ a, key (f a) = key a) :
    Table α κ key :=
  ⟨t.rows.map (fun a => if key a = k then f a else a), by
    have he : key ∘ (fun a => if key a = k then f a else a) = key := by
      funext a
      by_cases h : key a = k
      · simp only [Function.comp_apply, if_pos h, hf]
      · simp only [Function.comp_apply, if_neg h]
    rw [List.map_map, he]
    exact t.unique⟩

def Table.deleteWhere (t : Table α κ key) (p : α → Bool) : Table α κ key :=
  ⟨t.rows.filter (fun a => !p a), t.unique.sublist (List.filter_sublist.map key)⟩

@[simp] theorem Table.find?_empty (k : κ) :
    (Table.empty : Table α κ key).find? k = none := rfl

theorem Table.find?_eq_some {t : Table α κ key} :
    t.find? k = some a ↔ a ∈ t.rows ∧ key a = k := by
  constructor
  · intro h
    exact ⟨List.mem_of_find?_eq_some h, by simpa using List.find?_some h⟩
  · rintro ⟨ha, hk⟩
    cases hf : t.find? k with
    | none =>
      have := List.find?_eq_none.1 hf a ha
      simp [hk] at this
    | some b =>
      have hb := List.mem_of_find?_eq_some hf
      have hkb : key b = k := by simpa using List.find?_some hf
      rw [List.inj_on_of_nodup_map t.unique hb ha (hkb.trans hk.symm)]

theorem Table.find?_eq_none {t : Table α κ key} :
    t.find? k = none ↔ ∀ a ∈ t.rows, key a ≠ k := by
  simp [Table.find?]

theorem Table.find?_isSome {t : Table α κ key} :
    (t.find? k).isSome ↔ k ∈ t.rows.map key := by
  simp [Table.find?]

theorem Table.find?_key (t : Table α κ key) (ha : a ∈ t.rows) : t.find? (key a) = some a :=
  Table.find?_eq_some.2 ⟨ha, rfl⟩

theorem Table.key_of_find? {t : Table α κ key} (h : t.find? k = some a) : key a = k :=
  (Table.find?_eq_some.1 h).2

theorem Table.insert?_eq_some {t t' : Table α κ key} :
    t.insert? a = some t' ↔ key a ∉ t.rows.map key ∧ t'.rows = t.rows ++ [a] := by
  unfold Table.insert?
  split
  · rename_i h
    simp [h]
  · rename_i h
    cases t' with
    | mk rows unique => simp only [Option.some.injEq, mk.injEq, h, not_false_eq_true, true_and,
        eq_comm]

theorem Table.insert?_eq_none {t : Table α κ key} :
    t.insert? a = none ↔ key a ∈ t.rows.map key := by
  unfold Table.insert?
  split <;> simp_all

theorem Table.find?_insert? {t t' : Table α κ key} (h : t.insert? a = some t') (k : κ) :
    t'.find? k = if key a = k then some a else t.find? k := by
  obtain ⟨hk, hr⟩ := Table.insert?_eq_some.1 h
  split
  · rename_i he
    exact Table.find?_eq_some.2 ⟨by simp [hr], he⟩
  · rename_i he
    unfold Table.find?
    rw [hr, List.find?_append]
    cases t.rows.find? (fun a => key a = k) <;> simp [he]

theorem Table.insertAll?_eq_some {t t' : Table α κ key} {as : List α} :
    t.insertAll? as = some t' ↔
      (as.map key).Nodup ∧ (∀ a ∈ as, key a ∉ t.rows.map key) ∧ t'.rows = t.rows ++ as := by
  induction as generalizing t with
  | nil =>
    cases t with
    | mk rows unique =>
      cases t' with
      | mk rows' unique' => simp [Table.insertAll?, eq_comm]
  | cons a as ih =>
    simp only [Table.insertAll?, Option.bind_eq_some_iff]
    constructor
    · rintro ⟨u, hu, hr⟩
      obtain ⟨ha, hur⟩ := Table.insert?_eq_some.1 hu
      obtain ⟨hn, hd, he⟩ := ih.1 hr
      simp only [hur, List.map_append, List.map_cons, List.map_nil, List.mem_append,
        List.mem_singleton, not_or] at hd
      refine ⟨?_, ?_, by rw [he, hur, List.append_assoc, List.singleton_append]⟩
      · rw [List.map_cons, List.nodup_cons]
        refine ⟨fun hm => ?_, hn⟩
        obtain ⟨b, hb, hk⟩ := List.mem_map.1 hm
        exact (hd b hb).2 hk
      · intro b hb
        rcases List.mem_cons.1 hb with rfl | hb
        · exact ha
        · exact (hd b hb).1
    · rintro ⟨hn, hd, he⟩
      rw [List.map_cons, List.nodup_cons] at hn
      have ha := hd a List.mem_cons_self
      cases hu : t.insert? a with
      | none => exact absurd (Table.insert?_eq_none.1 hu) ha
      | some u =>
        have hur := (Table.insert?_eq_some.1 hu).2
        refine ⟨u, rfl, ih.2 ⟨hn.2, fun b hb hm => ?_, ?_⟩⟩
        · rw [hur, List.map_append, List.mem_append] at hm
          rcases hm with hm | hm
          · exact hd b (List.mem_cons_of_mem _ hb) hm
          · rw [List.map_singleton, List.mem_singleton] at hm
            exact hn.1 (List.mem_map.2 ⟨b, hb, hm⟩)
        · rw [he, hur, List.append_assoc, List.singleton_append]

/-- Rows with new and distinct keys go in. -/
theorem Table.insertAll?_ne_none {t : Table α κ key} {as : List α} (hn : (as.map key).Nodup)
    (hd : ∀ a ∈ as, key a ∉ t.rows.map key) : t.insertAll? as ≠ none := by
  induction as generalizing t with
  | nil => exact Option.some_ne_none t
  | cons a as ih =>
    rw [List.map_cons, List.nodup_cons] at hn
    unfold Table.insertAll?
    cases hu : t.insert? a with
    | none => exact absurd (Table.insert?_eq_none.1 hu) (hd a List.mem_cons_self)
    | some u =>
      refine ih hn.2 (fun b hb hm => ?_)
      rw [(Table.insert?_eq_some.1 hu).2, List.map_append, List.mem_append, List.map_singleton,
        List.mem_singleton] at hm
      rcases hm with hm | hm
      · exact hd b (List.mem_cons_of_mem _ hb) hm
      · exact hn.1 (List.mem_map.2 ⟨b, hb, hm⟩)

theorem Table.find?_modify (t : Table α κ key) (f : α → α) (hf : ∀ a, key (f a) = key a)
    (k k' : κ) :
    (t.modify k f hf).find? k' = if k = k' then (t.find? k').map f else t.find? k' := by
  have hp : (fun a => decide (key a = k')) ∘ (fun a => if key a = k then f a else a) =
      fun a => decide (key a = k') := by
    funext a
    by_cases h : key a = k <;> simp [h, hf]
  unfold Table.find? Table.modify
  rw [List.find?_map, hp]
  split
  · rename_i he
    subst he
    cases hb : t.rows.find? (fun a => key a = k) with
    | none => rfl
    | some b =>
      have hk : key b = k := by simpa using List.find?_some hb
      simp only [Option.map_some, if_pos hk]
  · rename_i he
    cases hb : t.rows.find? (fun a => key a = k') with
    | none => rfl
    | some b =>
      have hk : key b = k' := by simpa using List.find?_some hb
      have hne : key b ≠ k := fun h => he (h.symm.trans hk)
      simp only [Option.map_some, if_neg hne]

/-- An update that keeps a column keeps that column of the whole relation. -/
theorem Table.map_modify (t : Table α κ key) (f : α → α) (hf : ∀ a, key (f a) = key a)
    (k : κ) (g : α → γ) (hg : ∀ a, g (f a) = g a) :
    (t.modify k f hf).rows.map g = t.rows.map g := by
  have he : g ∘ (fun a => if key a = k then f a else a) = g := by
    funext a
    by_cases h : key a = k <;> simp [h, hg]
  rw [Table.modify, List.map_map, he]

theorem Table.find?_deleteWhere (t : Table α κ key) (p : α → Bool) (k : κ) :
    (t.deleteWhere p).find? k = (t.find? k).filter (fun a => !p a) := by
  cases hf : t.find? k with
  | none =>
    rw [Option.filter_none]
    rw [Table.find?_eq_none] at hf ⊢
    intro a ha
    exact hf a (List.mem_of_mem_filter ha)
  | some a =>
    obtain ⟨ha, hk⟩ := Table.find?_eq_some.1 hf
    cases hp : p a with
    | false =>
      simp only [Option.filter_some, hp, Bool.not_false, if_true]
      exact Table.find?_eq_some.2 ⟨List.mem_filter.2 ⟨ha, by simp [hp]⟩, hk⟩
    | true =>
      simp only [Option.filter_some, hp, Bool.not_true, Bool.false_eq_true, if_false]
      rw [Table.find?_eq_none]
      intro b hb hkb
      obtain ⟨hbm, hbp⟩ := List.mem_filter.1 hb
      have he := List.inj_on_of_nodup_map t.unique hbm ha (hkb.trans hk.symm)
      rw [he, hp] at hbp
      cases hbp

section Select

variable (le : α → α → Prop) [DecidableRel le]

/-- `SELECT … WHERE p ORDER BY le LIMIT limit`. -/
def selectOrdered (rows : List α) (p : α → Bool) (limit : Nat) : List α :=
  ((rows.filter p).insertionSort le).take limit

theorem mem_insertionSort {l : List α} : a ∈ l.insertionSort le ↔ a ∈ l :=
  (List.perm_insertionSort le l).mem_iff

theorem mem_of_mem_selectOrdered {rows : List α} {p : α → Bool}
    (h : a ∈ selectOrdered le rows p limit) : a ∈ rows ∧ p a = true := by
  have hs := (mem_insertionSort le).1 (List.mem_of_mem_take h)
  exact List.mem_filter.1 hs

theorem length_selectOrdered_le (rows : List α) (p : α → Bool) (limit : Nat) :
    (selectOrdered le rows p limit).length ≤ limit :=
  List.length_take_le _ _

theorem selectOrdered_sublist (rows : List α) (p : α → Bool) (limit : Nat) :
    (selectOrdered le rows p limit).Sublist ((rows.filter p).insertionSort le) :=
  List.take_sublist _ _

variable [Std.Total le] [IsTrans α le]

/-- The first row of the answer is a least matching row. -/
theorem selectOrdered_head {rows : List α} {p : α → Bool}
    (h : (selectOrdered le rows p (limit + 1)).head? = some a) :
    a ∈ rows ∧ p a = true ∧ ∀ b ∈ rows, p b = true → a = b ∨ le a b := by
  unfold selectOrdered at h
  cases hs : (rows.filter p).insertionSort le with
  | nil => simp [hs] at h
  | cons c l =>
    simp only [hs, List.take_succ_cons, List.head?_cons, Option.some.injEq] at h
    subst h
    have hp := List.pairwise_insertionSort le (rows.filter p)
    rw [hs, List.pairwise_cons] at hp
    have hm (b : α) : b ∈ rows.filter p ↔ b ∈ c :: l := by
      rw [← hs, mem_insertionSort]
    obtain ⟨hc, hpc⟩ := List.mem_filter.1 ((hm c).2 List.mem_cons_self)
    refine ⟨hc, hpc, fun b hb hpb => ?_⟩
    rcases List.mem_cons.1 ((hm b).1 (List.mem_filter.2 ⟨hb, hpb⟩)) with rfl | hb
    · exact .inl rfl
    · exact .inr (hp.1 b hb)

omit [Std.Total le] [IsTrans α le] in
theorem selectOrdered_head_none {rows : List α} {p : α → Bool} :
    (selectOrdered le rows p (limit + 1)).head? = none ↔ ∀ a ∈ rows, ¬ p a = true := by
  unfold selectOrdered
  rw [List.head?_eq_none_iff, List.take_eq_nil_iff, or_iff_right (Nat.succ_ne_zero limit)]
  constructor
  · intro h a ha hp
    have := (mem_insertionSort le).2 (List.mem_filter.2 ⟨ha, hp⟩)
    rw [h] at this
    exact List.not_mem_nil this
  · intro h
    have hf : rows.filter p = [] := List.filter_eq_nil_iff.2 h
    rw [hf, List.insertionSort_nil]

end Select

/-- Rows listed group by group are found again by the key of their group. -/
theorem filter_flatMap_key {γ : Type w} {l : List γ} {f : γ → List α} {group : γ → κ} {k : α → κ}
    {c : γ} (hn : (l.map group).Nodup) (hk : ∀ c ∈ l, ∀ a ∈ f c, k a = group c) (hc : c ∈ l) :
    (l.flatMap f).filter (fun a => k a = group c) = f c := by
  induction l with
  | nil => cases hc
  | cons d l ih =>
    rw [List.map_cons, List.nodup_cons] at hn
    have hne (e : γ) (he : e ∈ l) : group e ≠ group d :=
      fun h => hn.1 (h ▸ List.mem_map.2 ⟨e, he, rfl⟩)
    rw [List.flatMap_cons, List.filter_append]
    rcases List.mem_cons.1 hc with rfl | hc
    · have hhead : (f c).filter (fun a => k a = group c) = f c := by
        apply List.filter_eq_self.2
        intro a ha
        simpa using hk c List.mem_cons_self a ha
      have htail : (l.flatMap f).filter (fun a => k a = group c) = [] := by
        apply List.filter_eq_nil_iff.2
        intro a ha
        obtain ⟨e, he, ha⟩ := List.mem_flatMap.1 ha
        simpa [hk e (List.mem_cons_of_mem _ he) a ha] using hne e he
      rw [hhead, htail, List.append_nil]
    · have hhead : (f d).filter (fun a => k a = group c) = [] := by
        apply List.filter_eq_nil_iff.2
        intro a ha
        simpa [hk d List.mem_cons_self a ha] using (hne c hc).symm
      rw [hhead, List.nil_append]
      exact ih hn.2 (fun e he => hk e (List.mem_cons_of_mem _ he)) hc

end Relational
