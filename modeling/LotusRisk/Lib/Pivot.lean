import Mathlib.Data.List.Nodup
import Mathlib.Data.List.Perm.Basic
import LotusRisk.Lib.Dict

/-! Entries of a row and a column, kept as a map of rows: a row is itself a map of columns. -/

namespace Relational
set_option autoImplicit true

abbrev Pivot (ρ : Type u) (κ : Type v) (α : Type w) := Dict ρ (Dict κ α)

namespace Pivot

variable {ρ : Type u} {κ : Type v} {α : Type w} [DecidableEq ρ] [DecidableEq κ]

/-- Writes one cell; a row begins with its first cell. -/
def put (t : Pivot ρ κ α) (entry : ρ × κ × α) : Pivot ρ κ α :=
  t.set entry.1 ((t.getD entry.1 Table.empty).set entry.2.1 entry.2.2)

def pivot (entries : List (ρ × κ × α)) : Pivot ρ κ α := entries.foldl put Table.empty

def cell (t : Pivot ρ κ α) (r : ρ) (c : κ) : Option α := (t.get? r).bind (fun row => row.get? c)

/-- The cells of a row. -/
def rowEntries (r : ρ) (row : Dict κ α) : List (ρ × κ × α) :=
  row.items.map fun m => (r, m.1, m.2)

def entries (t : Pivot ρ κ α) : List (ρ × κ × α) := t.items.flatMap fun m => rowEntries m.1 m.2

theorem mem_entries {t : Pivot ρ κ α} : (r, c, v) ∈ t.entries ↔ t.cell r c = some v := by
  rw [entries, List.mem_flatMap, cell, Option.bind_eq_some_iff]
  constructor
  · intro h
    obtain ⟨⟨r', row⟩, hrow, hcell⟩ := h
    obtain ⟨m, hm, heq⟩ := List.mem_map.1 hcell
    cases heq
    exact ⟨row, Dict.get?_eq_some.2 hrow, Dict.get?_eq_some.2 hm⟩
  · intro h
    obtain ⟨row, hrow, hcell⟩ := h
    refine ⟨(r, row), Dict.get?_eq_some.1 hrow, ?_⟩
    exact List.mem_map.2 ⟨(c, v), Dict.get?_eq_some.1 hcell, rfl⟩

/-- Writing a cell changes no other. -/
theorem cell_put (t : Pivot ρ κ α) (entry : ρ × κ × α) (r : ρ) (c : κ) :
    (t.put entry).cell r c =
      if (entry.1, entry.2.1) = (r, c) then some entry.2.2 else t.cell r c := by
  rw [put, cell, Dict.get?_set]
  by_cases hr : entry.1 = r
  · rw [if_pos hr, Option.bind_some, Dict.get?_set]
    by_cases hc : entry.2.1 = c
    · rw [if_pos hc, if_pos (by rw [hr, hc])]
    · rw [if_neg hc, if_neg (fun h => hc (congrArg Prod.snd h)), cell, Dict.getD, hr]
      cases t.get? r with
      | none => exact Dict.get?_empty c
      | some row => rfl
  · rw [if_neg hr, if_neg (fun h => hr (congrArg Prod.fst h)), cell]

/-- The map of rows reads as the flat map of the same entries does. -/
theorem cell_foldl_put (l : List (ρ × κ × α)) (t : Pivot ρ κ α) (d : Dict (ρ × κ) α)
    (h : ∀ r c, t.cell r c = d.get? (r, c)) (r : ρ) (c : κ) :
    (l.foldl put t).cell r c =
      ((l.map fun e => ((e.1, e.2.1), e.2.2)).foldl (fun d m => d.set m.1 m.2) d).get? (r, c) := by
  induction l generalizing t d with
  | nil => exact h r c
  | cons entry l ih =>
    rw [List.foldl_cons, List.map_cons, List.foldl_cons]
    apply ih
    intro r' c'
    rw [cell_put, Dict.get?_set, h]

theorem mem_entries_pivot {l : List (ρ × κ × α)} (h : (l.map fun e => (e.1, e.2.1)).Nodup) :
    e ∈ (pivot l).entries ↔ e ∈ l := by
  obtain ⟨r, c, v⟩ := e
  have hkeys : ((l.map fun e => ((e.1, e.2.1), e.2.2)).map Prod.fst).Nodup := by
    rw [List.map_map]
    exact h
  have hflat := cell_foldl_put l Table.empty Table.empty (fun _ _ => rfl) r c
  change (pivot l).cell r c = (Dict.ofList _).get? (r, c) at hflat
  rw [mem_entries, hflat, Dict.get?_eq_some, Dict.items_ofList hkeys, List.mem_map]
  constructor
  · intro hmem
    obtain ⟨⟨r', c', v'⟩, he, heq⟩ := hmem
    cases heq
    exact he
  · intro he
    exact ⟨(r, c, v), he, rfl⟩

omit [DecidableEq κ] in
/-- The entries are read row by row. -/
theorem entries_eq_keys (t : Pivot ρ κ α) :
    t.entries = t.keys.flatMap fun r => rowEntries r (t.getD r Table.empty) := by
  rw [Dict.keys, List.flatMap_map, entries]
  apply List.flatMap_congr
  intro m hm
  rw [Dict.getD_of_mem hm]

omit [DecidableEq ρ] [DecidableEq κ] in
theorem nodup_rowEntries (r : ρ) (row : Dict κ α) : (rowEntries r row).Nodup := by
  have hitems : row.items.Nodup := row.unique.of_map
  apply hitems.map
  intro m m' heq
  exact congrArg Prod.snd heq

omit [DecidableEq ρ] [DecidableEq κ] in
theorem nodup_entries (t : Pivot ρ κ α) : t.entries.Nodup := by
  rw [entries, List.nodup_flatMap]
  refine ⟨fun m _ => nodup_rowEntries m.1 m.2, ?_⟩
  apply (List.pairwise_map.1 t.unique).imp
  intro m m' hne
  rw [Function.onFun, List.disjoint_left]
  intro e he he'
  obtain ⟨_, _, rfl⟩ := List.mem_map.1 he
  obtain ⟨_, _, heq⟩ := List.mem_map.1 he'
  exact hne (congrArg Prod.fst heq).symm

/-- Entries with distinct cells are all kept, and nothing else. -/
theorem entries_pivot {l : List (ρ × κ × α)} (h : (l.map fun e => (e.1, e.2.1)).Nodup) :
    (pivot l).entries.Perm l :=
  (List.perm_ext_iff_of_nodup (nodup_entries _) h.of_map).2 fun _ => mem_entries_pivot h

theorem mem_keys_foldl_put (l : List (ρ × κ × α)) (t : Pivot ρ κ α) :
    r ∈ (l.foldl put t).keys ↔ r ∈ t.keys ∨ r ∈ l.map Prod.fst := by
  induction l generalizing t with
  | nil => simp
  | cons entry l ih =>
    rw [List.foldl_cons, ih, put, Dict.mem_keys_set, List.map_cons, List.mem_cons, or_assoc,
      or_left_comm, eq_comm]

theorem mem_keys_pivot {l : List (ρ × κ × α)} : r ∈ (pivot l).keys ↔ r ∈ l.map Prod.fst := by
  rw [pivot, mem_keys_foldl_put]
  exact or_iff_right (List.not_mem_nil)

end Pivot

end Relational
