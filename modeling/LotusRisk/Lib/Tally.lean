import LotusRisk.Lib.Dict

/-! Values added up by key, in one pass over the entries. -/

namespace Relational
set_option autoImplicit true

namespace Dict

section Values

variable {κ : Type u} {α : Type v} [DecidableEq κ]

theorem items_set (d : Dict κ α) (k : κ) (v : α) : (d.set k v).items =
    if k ∈ d.keys then d.items.map (fun m => if m.1 = k then (m.1, v) else m)
    else d.items ++ [(k, v)] := by
  split_ifs with hk
  · rw [set, Table.insert?_eq_none.2 hk]
    rfl
  · exact set_of_not_mem hk v

section Mapped

variable {d : Dict κ α} {d' : Dict κ β} {f : α → β}

omit [DecidableEq κ] in
theorem keys_of_items_map (h : d.items.map (fun m => (m.1, f m.2)) = d'.items) :
    d'.keys = d.keys := by
  rw [keys, keys, show d'.rows = d.items.map (fun m => (m.1, f m.2)) from h.symm, List.map_map]
  rfl

theorem get?_of_items_map (h : d.items.map (fun m => (m.1, f m.2)) = d'.items) (k : κ) :
    d'.get? k = (d.get? k).map f := by
  cases hget : d.get? k with
  | some v =>
    rw [Option.map_some, get?_eq_some, ← h]
    exact List.mem_map.2 ⟨(k, v), get?_eq_some.1 hget, rfl⟩
  | none =>
    rw [Option.map_none, ← Option.not_isSome_iff_eq_none, get?_isSome, keys_of_items_map h,
      ← get?_isSome, hget]
    exact Bool.false_ne_true

/-- Assignment commutes with a function of the values. -/
theorem items_set_map (h : d.items.map (fun m => (m.1, f m.2)) = d'.items) (k : κ) (v : α) :
    (d.set k v).items.map (fun m => (m.1, f m.2)) = (d'.set k (f v)).items := by
  rw [items_set, items_set, keys_of_items_map h, ← h]
  split_ifs
  · rw [List.map_map, List.map_map]
    apply List.map_congr_left
    intro m _
    by_cases hm : m.1 = k
    · simp only [Function.comp_apply, if_pos hm]
    · simp only [Function.comp_apply, if_neg hm]
  · rw [List.map_append, List.map_singleton]

end Mapped

end Values

variable {κ : Type u} {M : Type v} [DecidableEq κ] [AddCommMonoid M]

/-- Adds to the value of a key, which counts from zero. -/
def add (d : Dict κ M) (entry : κ × M) : Dict κ M := d.set entry.1 (d.getD entry.1 0 + entry.2)

def tally (entries : List (κ × M)) : Dict κ M := entries.foldl add Table.empty

/-- What the entries of a key add up to. -/
def sumAt (entries : List (κ × M)) (k : κ) : M :=
  ((entries.filter (fun entry => entry.1 = k)).map Prod.snd).sum

theorem sumAt_cons (entry : κ × M) (entries : List (κ × M)) (k : κ) :
    sumAt (entry :: entries) k = (if entry.1 = k then entry.2 else 0) + sumAt entries k := by
  rw [sumAt, List.filter_cons]
  split_ifs with h h' h'
  · rw [List.map_cons, List.sum_cons]
    rfl
  · exact absurd (of_decide_eq_true h) h'
  · exact absurd (decide_eq_true h') h
  · rw [zero_add]
    rfl

theorem getD_add (d : Dict κ M) (entry : κ × M) (k : κ) :
    (d.add entry).getD k 0 = d.getD k 0 + if entry.1 = k then entry.2 else 0 := by
  rw [add, getD, get?_set]
  split_ifs with h
  · rw [← h]
    rfl
  · rw [add_zero]
    rfl

theorem getD_foldl_add (entries : List (κ × M)) (d : Dict κ M) (k : κ) :
    (entries.foldl add d).getD k 0 = d.getD k 0 + sumAt entries k := by
  induction entries generalizing d with
  | nil => exact (add_zero _).symm
  | cons entry entries ih => rw [List.foldl_cons, ih, getD_add, sumAt_cons, add_assoc]

theorem getD_tally (entries : List (κ × M)) (k : κ) :
    (tally entries).getD k 0 = sumAt entries k := by
  rw [tally, getD_foldl_add]
  exact zero_add _

theorem mem_keys_foldl_add (entries : List (κ × M)) (d : Dict κ M) :
    k ∈ (entries.foldl add d).keys ↔ k ∈ d.keys ∨ k ∈ entries.map Prod.fst := by
  induction entries generalizing d with
  | nil => simp
  | cons entry entries ih =>
    rw [List.foldl_cons, ih, add, mem_keys_set, List.map_cons, List.mem_cons, or_assoc,
      or_left_comm, eq_comm]

theorem mem_keys_tally {entries : List (κ × M)} :
    k ∈ (tally entries).keys ↔ k ∈ entries.map Prod.fst := by
  rw [tally, mem_keys_foldl_add]
  exact or_iff_right nofun

theorem mem_items_tally {entries : List (κ × M)} :
    (k, v) ∈ (tally entries).items ↔ k ∈ entries.map Prod.fst ∧ v = sumAt entries k := by
  rw [← getD_tally entries k, ← mem_keys_tally]
  constructor
  · intro h
    exact ⟨List.mem_map.2 ⟨(k, v), h, rfl⟩, (getD_of_mem h 0).symm⟩
  · rintro ⟨hk, rfl⟩
    obtain ⟨⟨k', v'⟩, hmem, rfl⟩ := List.mem_map.1 hk
    rw [getD_of_mem hmem 0]
    exact hmem

theorem sum_map_filter {ι : Type w} (l : List ι) (p : ι → Bool) (f : ι → M) :
    ((l.filter p).map f).sum = (l.map (fun i => if p i then f i else 0)).sum := by
  induction l with
  | nil => rfl
  | cons i l ih =>
    rw [List.filter_cons, List.map_cons, List.sum_cons]
    split_ifs with h
    · rw [List.map_cons, List.sum_cons, ih]
    · rw [ih, zero_add]

/-- Over keys that cover the entries, the sums of some keys add up to the entries of these keys. -/
theorem sum_sumAt (entries : List (κ × M)) (p : κ → Bool) (keys : Finset κ)
    (hkeys : ∀ entry ∈ entries, entry.1 ∈ keys) :
    ∑ k ∈ keys, (if p k then sumAt entries k else 0) =
      (entries.map (fun entry => if p entry.1 then entry.2 else 0)).sum := by
  induction entries with
  | nil =>
    apply Finset.sum_eq_zero
    intro k _
    split_ifs
    · rfl
    · rfl
  | cons entry entries ih =>
    have hrest := ih (fun entry hentry => hkeys entry (List.mem_cons_of_mem _ hentry))
    have hsplit : ∀ k, (if p k then sumAt (entry :: entries) k else 0) =
        (if entry.1 = k then (if p entry.1 then entry.2 else 0) else 0) +
          if p k then sumAt entries k else 0 := by
      intro k
      rw [sumAt_cons]
      by_cases hk : entry.1 = k
      · rw [if_pos hk, if_pos hk, hk]
        split_ifs
        · rfl
        · exact (add_zero 0).symm
      · rw [if_neg hk, if_neg hk, zero_add, zero_add]
    rw [Finset.sum_congr rfl (fun k _ => hsplit k), Finset.sum_add_distrib, Finset.sum_ite_eq,
      if_pos (hkeys entry List.mem_cons_self), hrest, List.map_cons, List.sum_cons]

/-- The values of some keys add up to those of their entries. -/
theorem sum_items_tally (entries : List (κ × M)) (p : κ → Bool) :
    (((tally entries).items.filter (fun item => p item.1)).map Prod.snd).sum =
      ((entries.filter (fun entry => p entry.1)).map Prod.snd).sum := by
  have hkeys : ∀ entry ∈ entries, entry.1 ∈ (tally entries).keys.toFinset := by
    intro entry hentry
    rw [List.mem_toFinset, mem_keys_tally]
    exact List.mem_map_of_mem hentry
  rw [sum_map_filter, sum_map_filter, ← sum_sumAt entries p _ hkeys,
    ← sum_keys (tally entries) (fun k v => if p k then v else 0) 0]
  apply Finset.sum_congr rfl
  intro k _
  rw [getD_tally]

theorem sumAt_perm {entries entries' : List (κ × M)} (h : entries.Perm entries') (k : κ) :
    sumAt entries k = sumAt entries' k := ((h.filter _).map Prod.snd).sum_eq

/-- The order of the entries orders the items, and changes none of them. -/
theorem items_tally_perm {entries entries' : List (κ × M)} (h : entries.Perm entries') :
    (tally entries).items.Perm (tally entries').items := by
  apply (List.perm_ext_iff_of_nodup _ _).2
  · rintro ⟨k, v⟩
    rw [mem_items_tally, mem_items_tally, sumAt_perm h, (h.map Prod.fst).mem_iff]
  · exact (tally entries).unique.of_map
  · exact (tally entries').unique.of_map

end Dict

end Relational
