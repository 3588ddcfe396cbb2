import Mathlib.Data.List.Basic
import Mathlib.Tactic.Common

/-! A function of the trailing windows of a list, and the points before it has enough values. -/

namespace TrailingWindows
set_option autoImplicit true

variable {α : Type u} {β : Type v} {γ : Type w} {δ : Type x}

/-- The last `width` values up to and with a position. -/
def window (width : Nat) (l : List α) (i : Nat) : List α := (l.take (i + 1)).drop (i + 1 - width)

theorem length_window {l : List α} (hi : i < l.length) :
    (window width l i).length = min width (i + 1) := by
  rw [window, List.length_drop, List.length_take]
  omega

/-- A window with fewer values than the minimum gives nothing. -/
def rolling (width minimum : Nat) (f : List α → Option β) (l : List α) : List (Option β) :=
  (List.range l.length).map fun i =>
    if (window width l i).length < minimum then none else f (window width l i)

@[simp] theorem length_rolling (width minimum : Nat) (f : List α → Option β) (l : List α) :
    (rolling width minimum f l).length = l.length := by
  rw [rolling, List.length_map, List.length_range]

section Fusion

theorem window_map (f : γ → α) (l : List γ) :
    window width (l.map f) i = (window width l i).map f := by
  rw [window, window, ← List.map_take, ← List.map_drop]

theorem getElem_rolling {width minimum : Nat} {f : List α → Option β} {l : List α}
    (hi : i < (rolling width minimum f l).length) : (rolling width minimum f l)[i] =
      if (window width l i).length < minimum then none else f (window width l i) := by
  simp only [rolling, List.getElem_map, List.getElem_range]

/-- A function of the windows of new values is one of the windows of the old ones. -/
theorem rolling_map (width minimum : Nat) (f : List α → Option β) (g : γ → α) (l : List γ) :
    rolling width minimum f (l.map g) = rolling width minimum (fun w => f (w.map g)) l := by
  rw [rolling, rolling, List.length_map]
  apply List.map_congr_left
  intro i _
  rw [window_map, List.length_map]

theorem map_rolling {f : List α → Option β} {g : Option β → Option γ} (hg : g none = none)
    (width minimum : Nat) (l : List α) : (rolling width minimum f l).map g =
      rolling width minimum (fun w => g (f w)) l := by
  rw [rolling, rolling, List.map_map]
  apply List.map_congr_left
  intro i _
  rw [Function.comp_apply]
  split
  · exact hg
  · rfl

theorem zipWith_rolling {f : List α → Option β} {g : List α → Option γ}
    {combine : Option β → Option γ → Option δ} (hnone : combine none none = none)
    (width minimum : Nat) (l : List α) :
    List.zipWith combine (rolling width minimum f l) (rolling width minimum g l) =
      rolling width minimum (fun w => combine (f w) (g w)) l := by
  rw [rolling, rolling, rolling, List.zipWith_map, List.zipWith_self]
  apply List.map_congr_left
  intro i _
  split
  · exact hnone
  · rfl

end Fusion

section Warmup

/-- The first `n` points hold nothing. -/
def WarmsUp (n : Nat) (l : List (Option β)) : Prop := ∀ x ∈ l.take n, x = none

theorem warmsUp_nil (n : Nat) : WarmsUp n ([] : List (Option β)) := by
  intro x hx
  rw [List.take_nil] at hx
  cases hx

/-- Before the minimum is reached no window is large enough, however wide windows are. -/
theorem warmsUp_rolling (width minimum : Nat) (f : List α → Option β) (l : List α) :
    WarmsUp (minimum - 1) (rolling width minimum f l) := by
  intro x hx
  obtain ⟨i, hi, rfl⟩ := List.getElem_of_mem hx
  rw [List.length_take, length_rolling] at hi
  have hlength : (window width l i).length < minimum := by
    rw [length_window (Nat.lt_of_lt_of_le hi (Nat.min_le_right _ _))]
    omega
  rw [List.getElem_take]
  simp only [rolling, List.getElem_map, List.getElem_range, if_pos hlength]

theorem WarmsUp.mono {l : List (Option β)} (h : WarmsUp n l) (hle : m ≤ n) : WarmsUp m l := by
  intro x hx
  exact h x ((List.take_sublist_take_left hle).subset hx)

theorem WarmsUp.map {l : List (Option β)} (h : WarmsUp n l) {f : Option β → Option γ}
    (hf : f none = none) : WarmsUp n (l.map f) := by
  intro x hx
  rw [← List.map_take] at hx
  obtain ⟨y, hy, rfl⟩ := List.mem_map.1 hx
  rw [h y hy, hf]

/-- A combination of two series waits for the second of them. -/
theorem WarmsUp.zipWith_right {l : List α} {l' : List (Option β)} (h : WarmsUp n l')
    {f : α → Option β → Option γ} (hf : ∀ a, f a none = none) :
    WarmsUp n (List.zipWith f l l') := by
  intro x hx
  rw [List.take_zipWith] at hx
  obtain ⟨i, hi, rfl⟩ := List.getElem_of_mem hx
  rw [List.getElem_zipWith, h _ (List.getElem_mem _), hf]

/-- The points without a value are those of the warm-up and those after it. -/
theorem WarmsUp.countP_none {l : List (Option β)} (h : WarmsUp n l) :
    l.countP Option.isNone = min l.length n + (l.drop n).countP Option.isNone := by
  have hlead : (l.take n).countP Option.isNone = (l.take n).length := by
    rw [List.countP_eq_length]
    intro x hx
    rw [h x hx]
    rfl
  calc
    l.countP Option.isNone
      = (l.take n ++ l.drop n).countP Option.isNone := by rw [List.take_append_drop]
    _ = (l.take n).length + (l.drop n).countP Option.isNone := by
      rw [List.countP_append, hlead]
    _ = min l.length n + (l.drop n).countP Option.isNone := by
      rw [List.length_take, Nat.min_comm]

end Warmup

end TrailingWindows
