import Mathlib.Algebra.Order.BigOperators.GroupWithZero.List
import Mathlib.Data.Rat.Floor
import LotusRisk.Lib.RunningPeak
import LotusRisk.Lib.Series

namespace LotusRisk
open RunningPeak
set_option autoImplicit true

section Model

variable {ι : Type u} {K : Type v} [LinearOrder ι] [Field K] [LinearOrder K]

/-- `(1 + returns / 100.0).cumprod()`, of returns in percentage points. -/
def cumulativeWealth (returns : Series ι K) : Series ι K :=
  returns.withValues (accumulate (· * ·) (returns.values.map (fun r => 1 + r / 100))) (by simp)

/-- A decimal value in percentage points. -/
def inPercent (value : K) : K := value * 100

/-- Percentage points as a decimal value. -/
def fromPercent (value : K) : K := value / 100

omit [LinearOrder K] in
theorem fromPercent_inPercent [CharZero K] (value : K) : fromPercent (inPercent value) = value := by
  rw [fromPercent, inPercent]
  exact mul_div_cancel_right₀ value (by norm_num)

/-- `wealth.cummax().clip(lower=1.0)`. -/
def runningPeak (wealth : Series ι K) : Series ι K :=
  wealth.withValues ((accumulate max wealth.values).map (fun p => max p 1)) (by simp)

/-- `wealth / running_peak - 1.0`. -/
def belowPeak (wealth peak : List K) : List K := List.zipWith (fun w p => w / p - 1) wealth peak

theorem length_belowPeak (wealth : Series ι K) :
    (belowPeak wealth.values (runningPeak wealth).values).length = wealth.values.length := by
  simp [belowPeak, runningPeak]

def drawdownFromReturns (returns : Series ι K) : Series ι K :=
  let wealth := cumulativeWealth returns
  wealth.withValues (belowPeak wealth.values (runningPeak wealth).values) (length_belowPeak wealth)

omit [LinearOrder K] in
@[simp] theorem cumulativeWealth_index (returns : Series ι K) :
    (cumulativeWealth returns).index = returns.index := rfl

@[simp] theorem drawdownFromReturns_index (returns : Series ι K) :
    (drawdownFromReturns returns).index = returns.index := rfl

/-- The rolling metric on one window of decimal returns; `np.min` raises on an empty window. -/
def rollingMaxDrawdown (windowDecimalReturns : List K) : Option K :=
  let wealth := accumulate (· * ·) (windowDecimalReturns.map (fun r => 1 + r))
  let runningPeak := accumulate max (wealth.map (fun w => max w 1))
  (belowPeak wealth runningPeak).min?

end Model

section Path

variable {ι : Type u} {K : Type v} [LinearOrder ι] [Field K]

/-- The wealth after the first `t` returns, starting from one. -/
def wealthAt (returns : List K) (t : Nat) : K :=
  ((returns.take t).map (fun r => 1 + r / 100)).prod

@[simp] theorem wealthAt_zero (returns : List K) : wealthAt returns 0 = 1 := by simp [wealthAt]

/-- No return is a return of zero. -/
theorem wealthAt_succ (returns : List K) (t : Nat) :
    wealthAt returns (t + 1) = wealthAt returns t * (1 + returns.getD t 0 / 100) := by
  unfold wealthAt
  rw [List.take_add_one, List.map_append, List.prod_append]
  rcases Nat.lt_or_ge t returns.length with h | h
  · simp [List.getElem?_eq_getElem h]
  · simp [List.getElem?_eq_none h]

theorem map_getD_range (l : List α) (f : α → β) (d : α) :
    (List.range l.length).map (fun i => f (l.getD i d)) = l.map f := by
  apply List.ext_getElem
  · simp
  · intro i hi hi'
    have h : i < l.length := by simpa using hi
    simp [List.getElem?_eq_getElem h]

variable [LinearOrder K]

theorem wealthAt_pos [IsStrictOrderedRing K] {returns : List K}
    (h : ∀ r ∈ returns, -100 < r) (t : Nat) : 0 < wealthAt returns t := by
  apply List.prod_pos
  intro g hg
  obtain ⟨r, hr, hgr⟩ := List.mem_map.1 hg
  have hlow := h r (List.mem_of_mem_take hr)
  rw [← hgr]
  linarith

omit [LinearOrder K] in
theorem cumulativeWealth_values (returns : Series ι K) : (cumulativeWealth returns).values =
    (List.range returns.values.length).map (fun i => wealthAt returns.values (i + 1)) := by
  have htab := accumulate_range (f := (· * ·))
    (fun i => 1 + returns.values.getD i 0 / 100)
    (fun i => wealthAt returns.values (i + 1)) (by simp [wealthAt_succ])
    (fun i => wealthAt_succ returns.values (i + 1)) returns.values.length
  rw [map_getD_range returns.values (fun r => 1 + r / 100) 0] at htab
  exact htab

/-- The clipped running maximum is the running peak of the path that starts at one. -/
theorem runningPeak_values (returns : Series ι K) :
    (runningPeak (cumulativeWealth returns)).values =
      (List.range returns.values.length).map
        (fun i => partialSups (wealthAt returns.values) (i + 1)) := by
  have htab := accumulate_range (f := max)
    (fun i => wealthAt returns.values (i + 1))
    (fun i => partialSups (fun i => wealthAt returns.values (i + 1)) i) rfl
    (fun i => partialSups_add_one _ i) returns.values.length
  rw [← cumulativeWealth_values] at htab
  rw [runningPeak, Series.values_withValues, htab, List.map_map]
  apply List.map_congr_left
  intro i _
  have hpeak := partialSups_add_one' (wealthAt returns.values) i
  rw [bot_eq_zero, wealthAt_zero, max_comm] at hpeak
  exact hpeak.symm

theorem zipWith_map_range (f : α → β → γ) (g : Nat → α) (h : Nat → β) (n : Nat) :
    List.zipWith f ((List.range n).map g) ((List.range n).map h) =
      (List.range n).map (fun i => f (g i) (h i)) := by
  rw [List.zipWith_map, List.zipWith_self]

/-- The drawdown of a series is the decline of its wealth path. -/
theorem drawdownFromReturns_values (returns : Series ι K) :
    (drawdownFromReturns returns).values =
      (List.range returns.values.length).map
        (fun i => decline (wealthAt returns.values) (i + 1)) := by
  rw [drawdownFromReturns, Series.values_withValues, runningPeak_values, cumulativeWealth_values]
  exact zipWith_map_range _ _ _ _

/-- Clipping before or after the running maximum is the same. -/
theorem rollingMaxDrawdown_eq (returns : Series ι K) :
    rollingMaxDrawdown (returns.values.map (fun r => r / 100)) =
      (drawdownFromReturns returns).values.min? := by
  have hclip := map_accumulate (f := max) (h := max) (fun p : K => max p 1)
    (fun a b => sup_sup_distrib_right a b 1) (cumulativeWealth returns).values
  have hwealth : accumulate (· * ·) ((returns.values.map (fun r => r / 100)).map
      (fun r => 1 + r)) = (cumulativeWealth returns).values := by
    rw [List.map_map]
    rfl
  simp only [rollingMaxDrawdown, hwealth, ← hclip]
  rfl

end Path

end LotusRisk
