import Mathlib.Algebra.BigOperators.Ring.Finset
import Mathlib.Data.Option.Defs
import LotusRisk.Lib.Table

/-! Insertion-ordered maps: a table of pairs identified by their first component. -/

namespace Relational
set_option autoImplicit true

abbrev Dict (κ : Type u) (α : Type v) := Table (κ × α) κ Prod.fst

namespace Dict

variable {κ : Type u} {α : Type v} [DecidableEq κ]

def items (d : Dict κ α) : List (κ × α) := d.rows

def keys (d : Dict κ α) : List κ := d.rows.map Prod.fst

def get? (d : Dict κ α) (k : κ) : Option α := (d.find? k).map Prod.snd

def getD (d : Dict κ α) (k : κ) (v : α) : α := (d.get? k).getD v

/-- Assignment replaces the value in place, or appends a new key. -/
def set (d : Dict κ α) (k : κ) (v : α) : Dict κ α :=
  match d.insert? (k, v) with
  | some d' => d'
  | none => d.modify k (fun m => (m.1, v)) (fun _ => rfl)

def ofList (l : List (κ × α)) : Dict κ α :=
  l.foldl (fun d m => d.set m.1 m.2) Table.empty

/-- `d.update(e)`. -/
def update (d e : Dict κ α) : Dict κ α := e.items.foldl (fun d m => d.set m.1 m.2) d

theorem get?_empty (k : κ) : get? (Table.empty : Dict κ α) k = none := rfl

theorem get?_eq_some {d : Dict κ α} : d.get? k = some v ↔ (k, v) ∈ d.items := by
  unfold get? items
  rw [Option.map_eq_some_iff]
  constructor
  · rintro ⟨⟨k', v'⟩, h, rfl⟩
    obtain ⟨hm, rfl⟩ := Table.find?_eq_some.1 h
    exact hm
  · intro h
    exact ⟨(k, v), Table.find?_eq_some.2 ⟨h, rfl⟩, rfl⟩

theorem get?_isSome {d : Dict κ α} : (d.get? k).isSome ↔ k ∈ d.keys := by
  unfold get? keys
  rw [Option.isSome_map, Table.find?_isSome]

theorem set_of_not_mem {d : Dict κ α} (h : k ∉ d.keys) (v : α) :
    (d.set k v).items = d.items ++ [(k, v)] := by
  unfold set
  cases hi : d.insert? (k, v) with
  | none => exact absurd (Table.insert?_eq_none.1 hi) h
  | some d' => exact (Table.insert?_eq_some.1 hi).2

theorem get?_set (d : Dict κ α) (k : κ) (v : α) (k' : κ) :
    (d.set k v).get? k' = if k = k' then some v else d.get? k' := by
  unfold set get?
  cases hi : d.insert? (k, v) with
  | some d' =>
    rw [Table.find?_insert? hi]
    split <;> rfl
  | none =>
    rw [Table.find?_modify]
    split
    · rename_i he
      subst he
      have hs := Table.find?_isSome.2 (Table.insert?_eq_none.1 hi)
      obtain ⟨m, hm⟩ := Option.isSome_iff_exists.1 hs
      rw [hm]
      rfl
    · rfl

theorem mem_keys_set (d : Dict κ α) (k : κ) (v : α) (k' : κ) :
    k' ∈ (d.set k v).keys ↔ k = k' ∨ k' ∈ d.keys := by
  rw [← get?_isSome, get?_set, ← get?_isSome]
  split
  · rename_i he
    simp [he]
  · rename_i he
    simp [he]

theorem mem_items_set {d : Dict κ α} (h : (k', v') ∈ (d.set k v).items) :
    (k' = k ∧ v' = v) ∨ (k', v') ∈ d.items := by
  rw [← get?_eq_some, get?_set] at h
  split at h
  · rename_i hk
    exact .inl ⟨hk.symm, (Option.some.inj h).symm⟩
  · exact .inr (get?_eq_some.1 h)

theorem items_foldl_set (l : List (κ × α)) (d : Dict κ α)
    (h : (d.keys ++ l.map Prod.fst).Nodup) :
    (l.foldl (fun d m => d.set m.1 m.2) d).items = d.items ++ l := by
  induction l generalizing d with
  | nil => simp
  | cons m l ih =>
    have hm : m.1 ∉ d.keys := by
      intro hk
      rw [List.nodup_append] at h
      exact h.2.2 _ hk _ (by simp) rfl
    have hi := set_of_not_mem hm m.2
    rw [List.foldl_cons, ih, hi, List.append_assoc, List.singleton_append]
    have hk : (d.set m.1 m.2).keys = d.keys ++ [m.1] := by
      unfold keys
      rw [show (d.set m.1 m.2).rows = d.rows ++ [(m.1, m.2)] from hi, List.map_append]
      rfl
    rw [hk, List.append_assoc, List.singleton_append]
    exact h

/-- Pairs with distinct keys are kept as they are. -/
theorem items_ofList {l : List (κ × α)} (h : (l.map Prod.fst).Nodup) :
    (ofList l).items = l := by
  rw [ofList, items_foldl_set]
  · rfl
  · exact h

theorem get?_ofList_of_mem {l : List (κ × α)} (h : (l.map Prod.fst).Nodup) (hmem : (k, v) ∈ l) :
    (ofList l).get? k = some v := by
  rw [get?_eq_some, items_ofList h]
  exact hmem

theorem mem_keys_foldl_set (l : List (κ × α)) (d : Dict κ α) (k : κ) :
    k ∈ (l.foldl (fun d m => d.set m.1 m.2) d).keys ↔ k ∈ d.keys ∨ k ∈ l.map Prod.fst := by
  induction l generalizing d with
  | nil => simp
  | cons m l ih =>
    rw [List.foldl_cons, ih, mem_keys_set, List.map_cons, List.mem_cons, or_assoc, or_left_comm,
      eq_comm]

theorem mem_keys_ofList {l : List (κ × α)} : k ∈ (ofList l).keys ↔ k ∈ l.map Prod.fst := by
  rw [ofList, mem_keys_foldl_set]
  exact or_iff_right nofun

/-- The last pair of a key is what remains of it. -/
theorem get?_foldl_set (l : List (κ × α)) (d : Dict κ α) (k : κ) :
    (l.foldl (fun d m => d.set m.1 m.2) d).get? k =
      ((l.filter (fun m => decide (m.1 = k))).getLast?.map Prod.snd).or (d.get? k) := by
  induction l generalizing d with
  | nil => rfl
  | cons m l ih =>
    rw [List.foldl_cons, ih, get?_set]
    by_cases hk : m.1 = k
    · rw [if_pos hk, List.filter_cons_of_pos (by simpa using hk), List.getLast?_cons]
      cases (l.filter (fun m => decide (m.1 = k))).getLast? with
      | none => rfl
      | some last => rfl
    · rw [if_neg hk, List.filter_cons_of_neg (by simpa using hk)]

/-- What is held is one of the pairs. -/
theorem mem_of_mem_items_ofList {l : List (κ × α)} (h : (k, v) ∈ (ofList l).items) :
    (k, v) ∈ l := by
  have hget := get?_eq_some.2 h
  rw [ofList, get?_foldl_set, get?_empty, Option.or_none] at hget
  obtain ⟨last, hlast, rfl⟩ := Option.map_eq_some_iff.1 hget
  obtain ⟨hmem, hkey⟩ := List.mem_filter.1 (List.mem_of_getLast? hlast)
  rw [← of_decide_eq_true hkey]
  exact hmem

/-- The last of all pairs remains. -/
theorem get?_ofList_concat (l : List (κ × α)) (m : κ × α) :
    (ofList (l ++ [m])).get? m.1 = some m.2 := by
  rw [ofList, List.foldl_append, List.foldl_cons, List.foldl_nil, get?_set, if_pos rfl]

/-- What a key reads depends on its own pairs only. -/
theorem get?_ofList_congr {l l' : List (κ × α)}
    (h : l.filter (fun m => decide (m.1 = k)) = l'.filter (fun m => decide (m.1 = k))) :
    (ofList l).get? k = (ofList l').get? k := by
  rw [ofList, ofList, get?_foldl_set, get?_foldl_set, h]

/-- A key whose pairs all have one value reads that value. -/
theorem get?_ofList_of_all {l : List (κ × α)} (hk : k ∈ l.map Prod.fst)
    (h : ∀ m ∈ l, m.1 = k → m.2 = v) : (ofList l).get? k = some v := by
  obtain ⟨m, hm, hkey⟩ := List.mem_map.1 hk
  have hne : l.filter (fun m => decide (m.1 = k)) ≠ [] :=
    List.ne_nil_of_mem (List.mem_filter.2 ⟨hm, decide_eq_true hkey⟩)
  obtain ⟨hlast, hlastKey⟩ := List.mem_filter.1 (List.getLast_mem hne)
  rw [ofList, get?_foldl_set, List.getLast?_eq_some_getLast hne, Option.map_some,
    h _ hlast (of_decide_eq_true hlastKey), Option.some_or]

/-- Pairs under the same keys, related where the key is `k`, leave related values under it. -/
theorem rel_get?_foldl_set {β : Type w} {R : α → β → Prop} {l : List (κ × α)} {l' : List (κ × β)}
    (h : List.Forall₂ (fun m m' => m.1 = m'.1 ∧ (m.1 = k → R m.2 m'.2)) l l')
    {d : Dict κ α} {d' : Dict κ β} (hd : Option.Rel R (d.get? k) (d'.get? k)) :
    Option.Rel R ((l.foldl (fun d m => d.set m.1 m.2) d).get? k)
      ((l'.foldl (fun d m => d.set m.1 m.2) d').get? k) := by
  induction h generalizing d d' with
  | nil => exact hd
  | cons hhead _ ih =>
    obtain ⟨hkey, hvalue⟩ := hhead
    rw [List.foldl_cons, List.foldl_cons]
    apply ih
    rw [get?_set, get?_set, ← hkey]
    split
    · rename_i hk
      exact .some (hvalue hk)
    · exact hd

theorem rel_get?_ofList {β : Type w} {R : α → β → Prop} {l : List (κ × α)} {l' : List (κ × β)}
    (h : List.Forall₂ (fun m m' => m.1 = m'.1 ∧ (m.1 = k → R m.2 m'.2)) l l') :
    Option.Rel R ((ofList l).get? k) ((ofList l').get? k) :=
  rel_get?_foldl_set h .none

theorem get?_update_congr {d d' : Dict κ α} (e : Dict κ α) (h : d.get? k = d'.get? k) :
    (d.update e).get? k = (d'.update e).get? k := by
  rw [update, update, get?_foldl_set, get?_foldl_set, h]

section Sums

variable {R : Type w}

theorem getD_of_mem {d : Dict κ α} (h : (k, v) ∈ d.items) (v' : α) : d.getD k v' = v := by
  unfold getD
  rw [get?_eq_some.2 h, Option.getD_some]

theorem getD_of_not_mem {d : Dict κ α} (h : k ∉ d.keys) (v' : α) : d.getD k v' = v' := by
  unfold getD
  cases hg : d.get? k with
  | none => rfl
  | some v => exact absurd (get?_isSome.1 (by rw [hg]; rfl)) h

theorem sum_keys [AddCommMonoid R] (d : Dict κ α) (φ : κ → α → R) (v : α) :
    ∑ b ∈ d.keys.toFinset, φ b (d.getD b v) = (d.items.map (fun m => φ m.1 m.2)).sum := by
  unfold keys
  rw [List.sum_toFinset _ d.unique, List.map_map]
  apply congrArg
  apply List.map_congr_left
  intro m hm
  simp only [Function.comp_apply]
  rw [getD_of_mem (v := m.2) hm]

/-- Adding to the value of one key adds to a weighed sum of the values. -/
theorem sum_keys_set [CommRing R] (d : Dict κ R) (f : κ → R) (k : κ) (v : R) :
    ∑ b ∈ (d.set k (d.getD k 0 + v)).keys.toFinset, (d.set k (d.getD k 0 + v)).getD b 0 * f b =
      ∑ b ∈ d.keys.toFinset, d.getD b 0 * f b + v * f k := by
  have hkeys : (d.set k (d.getD k 0 + v)).keys.toFinset = insert k (d.keys.toFinset.erase k) := by
    ext b
    rw [List.mem_toFinset, mem_keys_set, Finset.mem_insert, Finset.mem_erase, List.mem_toFinset]
    by_cases hb : b = k
    · simp [hb]
    · have hb' : ¬ k = b := fun h => hb h.symm
      simp [hb, hb']
  have hrest : ∑ b ∈ d.keys.toFinset.erase k, (d.set k (d.getD k 0 + v)).getD b 0 * f b =
      ∑ b ∈ d.keys.toFinset.erase k, d.getD b 0 * f b := by
    apply Finset.sum_congr rfl
    intro b hb
    unfold getD
    rw [get?_set, if_neg (Finset.ne_of_mem_erase hb).symm]
  have hold : ∑ b ∈ d.keys.toFinset, d.getD b 0 * f b =
      d.getD k 0 * f k + ∑ b ∈ d.keys.toFinset.erase k, d.getD b 0 * f b := by
    by_cases hk : k ∈ d.keys.toFinset
    · rw [Finset.add_sum_erase _ (fun b => d.getD b 0 * f b) hk]
    · rw [Finset.erase_eq_of_notMem hk, getD_of_not_mem (fun h => hk (List.mem_toFinset.2 h)),
        zero_mul, zero_add]
  have hnew : (d.set k (d.getD k 0 + v)).getD k 0 = d.getD k 0 + v := by
    unfold getD
    rw [get?_set, if_pos rfl, Option.getD_some]
  rw [hkeys, Finset.sum_insert (Finset.notMem_erase k _), hrest, hold, hnew, add_mul]
  rw [add_right_comm]

end Sums

end Dict

end Relational
