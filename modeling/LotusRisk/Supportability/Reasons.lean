import Mathlib.Data.List.Sort
import Mathlib.Data.String.Basic
import LotusRisk.Lib.Precedence
import LotusRisk.Python

namespace LotusRisk
set_option autoImplicit true

open Precedence

inductive RiskSupportabilityState where
  | ready
  | stale
  | degraded
  | empty
  | error
  | permissionBlocked
  | unsupported
deriving DecidableEq, Repr

inductive RiskSupportabilityReason where
  | calculationComplete
  | benchmarkUnavailable
  | groupReturnSeriesUnavailable
  | calculationQualityIssue
  | insufficientAlignedObservations
  | insufficientObservations
  | noReturnObservations
  | permissionBlocked
  | staleSourceObservations
  | unsupportedInputMode
deriving DecidableEq, Repr

def RiskSupportabilityReason.text : RiskSupportabilityReason → String
  | .calculationComplete => "calculation_complete"
  | .benchmarkUnavailable => "benchmark_unavailable"
  | .groupReturnSeriesUnavailable => "group_return_series_unavailable"
  | .calculationQualityIssue => "calculation_quality_issue"
  | .insufficientAlignedObservations => "insufficient_aligned_observations"
  | .insufficientObservations => "insufficient_observations"
  | .noReturnObservations => "no_return_observations"
  | .permissionBlocked => "permission_blocked"
  | .staleSourceObservations => "stale_source_observations"
  | .unsupportedInputMode => "unsupported_input_mode"

inductive RiskFreshnessBucket where
  | current
  | sameDay
  | stale
  | unknown
deriving DecidableEq, Repr

/-- Most severe first. -/
def supportabilityReasonPrecedence : List RiskSupportabilityReason :=
  [.permissionBlocked, .unsupportedInputMode, .noReturnObservations, .benchmarkUnavailable,
    .insufficientAlignedObservations, .insufficientObservations, .groupReturnSeriesUnavailable,
    .staleSourceObservations, .calculationQualityIssue]

def notADegradationReason : List RiskSupportabilityReason := [.calculationComplete]

/-- The precedence is total over the degradation reasons. -/
theorem ranked_iff (reason : RiskSupportabilityReason) :
    reason ∈ supportabilityReasonPrecedence ↔ reason ∉ notADegradationReason := by
  cases reason <;> decide

def supportabilityReasonForError (error : String) : RiskSupportabilityReason :=
  if error = "Benchmark returns required for benchmark-dependent metric" ∨
      error = "BENCHMARK_UNAVAILABLE" then .benchmarkUnavailable
  else if error = "Insufficient aligned observations" ∨ error = "NO_ALIGNED_OBSERVATIONS" then
    .insufficientAlignedObservations
  else if error = "Insufficient data" then .insufficientObservations
  else .calculationQualityIssue

theorem supportabilityReasonForError_ranked (error : String) :
    supportabilityReasonForError error ∈ supportabilityReasonPrecedence := by
  unfold supportabilityReasonForError
  split
  · decide
  · split
    · decide
    · split
      · decide
      · decide

/-- `repr` of a list of names. -/
def namesRepr (names : List String) : String :=
  "[" ++ ", ".intercalate (names.map (fun name => "'" ++ name ++ "'")) ++ "]"

def selectSupportabilityReason (reasons : List RiskSupportabilityReason) :
    Except PyException RiskSupportabilityReason :=
  match pick supportabilityReasonPrecedence reasons with
  | some reason => .ok reason
  | none =>
    let available := namesRepr
      ((reasons.dedup.map RiskSupportabilityReason.text).mergeSort (fun a b => decide (a ≤ b)))
    let ranked := namesRepr (supportabilityReasonPrecedence.map RiskSupportabilityReason.text)
    .error (.valueError
      s!"select_supportability_reason has no precedence for {available}; ranked reasons are {ranked}")

/-- A selection among reasons that are ranked, and of which there is one, does not raise. -/
theorem selectSupportabilityReason_spec (reasons : List RiskSupportabilityReason)
    (hne : reasons ≠ [])
    (hr : ∀ reason ∈ reasons, reason ∈ supportabilityReasonPrecedence) :
    ∃ reason, selectSupportabilityReason reasons = .ok reason ∧
      IsHighest supportabilityReasonPrecedence reasons reason := by
  obtain ⟨first, hfirst⟩ := List.exists_mem_of_ne_nil reasons hne
  obtain ⟨reason, hpick⟩ := exists_pick (hr first hfirst) hfirst
  refine ⟨reason, ?_, pick_eq_some_iff.1 hpick⟩
  unfold selectSupportabilityReason
  rw [hpick]

theorem sorted_eq_of_perm {p q : List String} (h : p.Perm q) :
    p.mergeSort (fun a b => decide (a ≤ b)) = q.mergeSort (fun a b => decide (a ≤ b)) := by
  have hp := List.mergeSort_perm p (fun a b => decide (a ≤ b))
  have hq := List.mergeSort_perm q (fun a b => decide (a ≤ b))
  have hsp := List.pairwise_mergeSort' (· ≤ ·) p
  have hsq := List.pairwise_mergeSort' (· ≤ ·) q
  exact (hp.trans (h.trans hq.symm)).eq_of_pairwise' (r := (· ≤ ·)) hsp hsq

theorem selectSupportabilityReason_perm {p q : List RiskSupportabilityReason} (h : p.Perm q) :
    selectSupportabilityReason p = selectSupportabilityReason q := by
  unfold selectSupportabilityReason
  rw [pick_congr (fun _ => h.mem_iff), sorted_eq_of_perm (h.dedup.map _)]

end LotusRisk
