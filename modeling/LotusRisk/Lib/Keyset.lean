import Mathlib.Data.List.Sort

/-! Keyset pagination: a page holds the rows after a cursor, and names the cursor of the next page
while more rows follow. -/

namespace Keyset
set_option autoImplicit true

section Traversal

variable {π : Type u} {γ : Type v}

/-- Pages are read until one names no next cursor; page `n` is read with the limit `limits n`. -/
inductive Traversal (answers : Option γ → Nat → π → Prop) (next : π → Option γ)
    (limits : Nat → Nat) : Nat → Option γ → List π → Prop where
  | last (found : answers cursor (limits n) page) (done : next page = none) :
      Traversal answers next limits n cursor [page]
  | more (found : answers cursor (limits n) page) (follow : next page = some c)
      (rest : Traversal answers next limits (n + 1) (some c) pages) :
      Traversal answers next limits n cursor (page :: pages)

variable {answers : Option γ → Nat → π → Prop} {next : π → Option γ} {limits : Nat → Nat}

/-- A reader that is a function traverses one way only. -/
theorem Traversal.unique
    (hf : ∀ cursor limit page page', answers cursor limit page → answers cursor limit page' →
      page = page')
    (h : Traversal answers next limits n cursor pages)
    (h' : Traversal answers next limits n cursor pages') : pages = pages' := by
  induction h generalizing pages' with
  | last found done =>
    cases h' with
    | last found' done' => rw [hf _ _ _ _ found found']
    | more found' follow' rest' =>
      rw [hf _ _ _ _ found found', follow'] at done
      cases done
  | more found follow rest ih =>
    cases h' with
    | last found' done' =>
      rw [hf _ _ _ _ found found', done'] at follow
      cases follow
    | more found' follow' rest' =>
      have hp := hf _ _ _ _ found found'
      rw [hp, follow'] at follow
      cases follow
      rw [hp, ih rest']

/-- Exactly the last page names no next cursor. -/
theorem Traversal.next_eq_none (h : Traversal answers next limits n cursor pages)
    (hi : pages[i]? = some page) : next page = none ↔ i + 1 = pages.length := by
  induction h generalizing i with
  | last found done =>
    cases i with
    | zero =>
      cases hi
      exact ⟨fun _ => rfl, fun _ => done⟩
    | succ i => cases hi
  | more found follow rest ih =>
    cases i with
    | zero =>
      cases hi
      rw [follow, List.length_cons]
      constructor
      · intro hn
        cases hn
      · intro hl
        cases rest <;> simp at hl
    | succ i =>
      rw [List.getElem?_cons_succ] at hi
      rw [ih hi, List.length_cons]
      omega

end Traversal

section Pages

variable {α : Type u} {κ : Type v} (lt : κ → κ → Prop) [DecidableRel lt] (key : α → κ)

/-- The rows after a cursor, all rows without one. -/
def rowsAfter (cursor : Option κ) (rows : List α) : List α :=
  rows.filter (fun a => cursor.all (fun k => lt k (key a)))

/-- The cursor after the first `limit` rows, when there are more. -/
def nextKey (limit : Nat) (rows : List α) : Option κ :=
  if limit < rows.length then (rows.take limit).getLast?.map key else none

variable {lt key}

section Sorting

variable {le : α → α → Prop} [DecidableRel le] [Std.Total le] [IsTrans α le]

omit [DecidableRel lt] in
/-- An order of rows by a key they do not share is strict in the key. -/
theorem strict_insertionSort (hle : ∀ a b, le a b → lt (key a) (key b) ∨ key a = key b)
    {rows : List α} (hn : (rows.map key).Nodup) :
    (rows.insertionSort le).Pairwise (fun a b => lt (key a) (key b)) := by
  have hs := List.pairwise_insertionSort le rows
  have hk : (rows.insertionSort le).Pairwise (fun a b => key a ≠ key b) :=
    List.pairwise_map.1 (((List.perm_insertionSort le rows).map key).nodup_iff.2 hn)
  exact (hs.and hk).imp (fun h => (hle _ _ h.1).resolve_right h.2)

omit [DecidableRel lt] in
/-- Selecting rows and ordering them commute. -/
theorem insertionSort_filter [IsTrans κ lt] [Std.Irrefl lt]
    (hle : ∀ a b, le a b → lt (key a) (key b) ∨ key a = key b) {rows : List α}
    (hn : (rows.map key).Nodup) (p : α → Bool) :
    (rows.filter p).insertionSort le = (rows.insertionSort le).filter p := by
  have hf : ((rows.filter p).map key).Nodup := hn.sublist (List.filter_sublist.map key)
  have hperm : ((rows.filter p).insertionSort le).Perm ((rows.insertionSort le).filter p) :=
    (List.perm_insertionSort le _).trans ((List.perm_insertionSort le rows).filter p).symm
  have hstrict : ((rows.insertionSort le).filter p).Pairwise (fun a b => lt (key a) (key b)) :=
    (strict_insertionSort hle hn).sublist List.filter_sublist
  apply hperm.eq_of_pairwise _ (strict_insertionSort hle hf) hstrict
  intro a b _ _ hab hba
  exact absurd (trans_of lt hab hba) (Std.Irrefl.irrefl _)

end Sorting

theorem rowsAfter_none (rows : List α) : rowsAfter lt key none rows = rows :=
  List.filter_eq_self.2 (fun _ _ => rfl)

theorem filter_after [IsTrans κ lt] [Std.Irrefl lt] {xs ys : List α} {a : α}
    (hs : (xs ++ a :: ys).Pairwise (fun a b => lt (key a) (key b))) :
    (xs ++ a :: ys).filter (fun b => lt (key a) (key b)) = ys := by
  obtain ⟨-, hys, hxs⟩ := List.pairwise_append.1 hs
  have hleft : xs.filter (fun b => lt (key a) (key b)) = [] := by
    apply List.filter_eq_nil_iff.2
    intro b hb h
    have hba := hxs b hb a List.mem_cons_self
    exact Std.Irrefl.irrefl _ (trans_of lt (of_decide_eq_true h) hba)
  have hself : ¬ lt (key a) (key a) := Std.Irrefl.irrefl _
  have hright : ys.filter (fun b => lt (key a) (key b)) = ys := by
    apply List.filter_eq_self.2
    intro b hb
    exact decide_eq_true ((List.pairwise_cons.1 hys).1 b hb)
  rw [List.filter_append, hleft, List.filter_cons_of_neg (by simpa using hself), hright,
    List.nil_append]

/-- The rows after one of the rows after a cursor. -/
theorem rowsAfter_some [IsTrans κ lt] (cursor : Option κ) (rows : List α) {a : α}
    (ha : a ∈ rowsAfter lt key cursor rows) :
    rowsAfter lt key (some (key a)) rows =
      (rowsAfter lt key cursor rows).filter (fun b => lt (key a) (key b)) := by
  unfold rowsAfter at ha ⊢
  rw [List.filter_filter]
  apply List.filter_congr
  intro b _
  have hc := (List.mem_filter.1 ha).2
  cases cursor with
  | none => simp
  | some k =>
    simp only [Option.all_some, decide_eq_true_eq] at hc ⊢
    by_cases hb : lt (key a) (key b)
    · simp [hb, trans_of lt hc hb]
    · simp [hb]

/-- The rows of a page that is not the last end in a row, and the rest come after its key. -/
theorem rowsAfter_split [IsTrans κ lt] [Std.Irrefl lt] {cursor : Option κ} {rows : List α}
    (hs : rows.Pairwise (fun a b => lt (key a) (key b))) (hl : 1 ≤ limit)
    (hmore : limit < (rowsAfter lt key cursor rows).length) :
    ∃ a ∈ rows, nextKey key limit (rowsAfter lt key cursor rows) = some (key a) ∧
      rowsAfter lt key (some (key a)) rows = (rowsAfter lt key cursor rows).drop limit := by
  have hne : (rowsAfter lt key cursor rows).take limit ≠ [] := by
    intro hnil
    have hlen := congrArg List.length hnil
    rw [List.length_take, List.length_nil] at hlen
    omega
  obtain ⟨xs, a, hxs⟩ := (List.eq_nil_or_concat _).resolve_left hne
  rw [List.concat_eq_append] at hxs
  have hsplit : rowsAfter lt key cursor rows =
      xs ++ a :: (rowsAfter lt key cursor rows).drop limit := by
    conv_lhs => rw [← List.take_append_drop limit (rowsAfter lt key cursor rows), hxs]
    rw [List.append_assoc, List.singleton_append]
  have hmem : a ∈ rowsAfter lt key cursor rows := by
    rw [hsplit]
    exact List.mem_append_right _ List.mem_cons_self
  have hsorted : (rowsAfter lt key cursor rows).Pairwise (fun a b => lt (key a) (key b)) :=
    hs.sublist List.filter_sublist
  refine ⟨a, (List.mem_filter.1 hmem).1, ?_, ?_⟩
  · rw [nextKey, if_pos hmore, hxs, List.getLast?_concat]
    rfl
  · rw [hsplit] at hsorted
    rw [rowsAfter_some cursor rows hmem]
    conv_lhs => rw [hsplit]
    exact filter_after hsorted

variable {π : Type w} {γ : Type x} {β : Type y} {answers : Option γ → Nat → π → Prop}
  {next : π → Option γ} {limits : Nat → Nat} {view : π → List β} {present : α → β}
  {encode : κ → γ} {rows : List α}

/-- A reader that answers each cursor of the rows, or none, with the rows after it. -/
def Reads (lt : κ → κ → Prop) [DecidableRel lt] (key : α → κ) (answers : Option γ → Nat → π → Prop)
    (next : π → Option γ) (view : π → List β) (present : α → β) (encode : κ → γ)
    (rows : List α) : Prop :=
  ∀ (cursor : Option κ) (limit : Nat), 1 ≤ limit → (∀ k ∈ cursor, ∃ a ∈ rows, key a = k) →
    ∃ page, answers (cursor.map encode) limit page ∧
      view page = ((rowsAfter lt key cursor rows).take limit).map present ∧
      next page = (nextKey key limit (rowsAfter lt key cursor rows)).map encode

/-- The induction is on a bound of the rows that are left. -/
theorem traversal_from [IsTrans κ lt] [Std.Irrefl lt]
    (hs : rows.Pairwise (fun a b => lt (key a) (key b))) (hl : ∀ n, 1 ≤ limits n)
    (hr : Reads lt key answers next view present encode rows) (m : Nat) (cursor : Option κ)
    (n : Nat) (hc : ∀ k ∈ cursor, ∃ a ∈ rows, key a = k)
    (hm : (rowsAfter lt key cursor rows).length ≤ m) :
    ∃ pages, Traversal answers next limits n (cursor.map encode) pages ∧
      (pages.map view).flatten = (rowsAfter lt key cursor rows).map present ∧
      ∀ i page, pages[i]? = some page → (view page).length ≤ limits (n + i) := by
  induction m generalizing cursor n with
  | zero =>
    obtain ⟨page, ha, hv, hn⟩ := hr cursor (limits n) (hl n) hc
    rw [List.length_eq_zero_iff.1 (Nat.le_zero.1 hm), List.take_nil, List.map_nil] at hv
    rw [List.length_eq_zero_iff.1 (Nat.le_zero.1 hm)] at hn ⊢
    refine ⟨[page], .last ha hn, ?_, ?_⟩
    · rw [List.map_singleton, List.flatten_singleton, hv, List.map_nil]
    · intro i p hi
      rw [List.getElem?_singleton] at hi
      split at hi
      · cases hi
        rw [hv]
        exact Nat.zero_le _
      · cases hi
  | succ m ih =>
    obtain ⟨page, ha, hv, hn⟩ := hr cursor (limits n) (hl n) hc
    have hlen : (view page).length ≤ limits n := by
      rw [hv, List.length_map]
      exact List.length_take_le _ _
    by_cases hmore : limits n < (rowsAfter lt key cursor rows).length
    · obtain ⟨a, hmem, hk, hafter⟩ := rowsAfter_split hs (hl n) hmore
      obtain ⟨pages, ht, hf, hb⟩ := ih (some (key a)) (n + 1)
        (fun k hk => ⟨a, hmem, Option.some.inj hk⟩)
        (by rw [hafter, List.length_drop]; have := hl n; omega)
      rw [hk, Option.map_some] at hn
      refine ⟨page :: pages, .more ha hn ht, ?_, ?_⟩
      · rw [List.map_cons, List.flatten_cons, hf, hv, hafter, ← List.map_append,
          List.take_append_drop]
      · intro i p hi
        cases i with
        | zero =>
          cases hi
          exact hlen
        | succ i =>
          rw [List.getElem?_cons_succ] at hi
          have := hb i p hi
          rwa [Nat.add_right_comm, Nat.add_assoc] at this
    · rw [nextKey, if_neg hmore] at hn
      rw [List.take_of_length_le (Nat.le_of_not_lt hmore)] at hv
      refine ⟨[page], .last ha hn, ?_, ?_⟩
      · rw [List.map_singleton, List.flatten_singleton, hv]
      · intro i p hi
        rw [List.getElem?_singleton] at hi
        split at hi
        · rename_i h0
          cases hi
          rw [h0]
          exact hlen
        · cases hi

/-- Following the cursors from the start reads every row once, in order, within the limits. -/
theorem traversal_complete [IsTrans κ lt] [Std.Irrefl lt]
    (hs : rows.Pairwise (fun a b => lt (key a) (key b))) (hl : ∀ n, 1 ≤ limits n)
    (hr : Reads lt key answers next view present encode rows) :
    ∃ pages, Traversal answers next limits 0 none pages ∧
      (pages.map view).flatten = rows.map present ∧
      ∀ i page, pages[i]? = some page → (view page).length ≤ limits i := by
  obtain ⟨pages, ht, hf, hb⟩ := traversal_from hs hl hr _ none 0 (fun _ hk => by cases hk)
    (Nat.le_refl _)
  rw [rowsAfter_none] at hf
  refine ⟨pages, ht, hf, ?_⟩
  intro i page hi
  have := hb i page hi
  rwa [Nat.zero_add] at this

end Pages

end Keyset
