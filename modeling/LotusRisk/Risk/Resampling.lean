import LotusRisk.Lib.Bucketing
import LotusRisk.Lib.FloatOps
import LotusRisk.Risk.Buckets

/-! Returns compounded into the calendar buckets of a frequency. -/

namespace LotusRisk
set_option autoImplicit true

open Bucketing

section Model

def resamplingGapErrorPrefix : String :=
  "Missing return observations in resampling buckets ending"

/-- The growth of wealth over returns in percentage points. -/
def growth [Field K] (values : List K) : K := (values.map (fun r => 1 + fromPercent r)).prod

variable {F : Type} [FloatOps F]

/-- What `np.prod` makes of observations in percentage points. -/
def compoundObservations (observations : List F) : F :=
  let growths := observations.map fun r => FloatOps.add (FloatOps.ofInt 1)
    (FloatOps.div r (FloatOps.ofInt 100))
  FloatOps.mul (FloatOps.sub (FloatOps.prod growths) (FloatOps.ofInt 1)) (FloatOps.ofInt 100)

/-- `_compound_populated_bucket`, where `none` stands for NaN. -/
def compoundPopulatedBucket (bucket : List F) : Option F :=
  let observations := bucket.filter fun value => !FloatOps.isNaN value
  if observations.isEmpty then none
  else
    let value := compoundObservations observations
    if FloatOps.isNaN value then none else some value

omit [FloatOps F] in
/-- The number of the bucket of a point. -/
def pointBucket (frequency : Frequency) (point : Date × F) : Nat := frequency.bucket point.1

/-- The row of a bucket: its end and what its observations compound to. -/
def bucketRow (frequency : Frequency) (returns : Series Date F) (b : Nat) :
    Option (Date × Option F) :=
  (frequency.bucketEnd b).map fun bucketEnd =>
    (bucketEnd,
      compoundPopulatedBucket ((members (pointBucket frequency) returns.points b).map Prod.snd))

/-- `returns.resample(rule).apply(_compound_populated_bucket)`: a row for each bucket from the
first to the last populated one. -/
def resampled (frequency : Frequency) (returns : Series Date F) : List (Date × Option F) :=
  (span (pointBucket frequency) returns.points).filterMap (bucketRow frequency returns)

theorem resampled_ascending (frequency : Frequency) (returns : Series Date F) :
    (resampled frequency returns).Pairwise (fun p q => p.1 < q.1) := by
  apply List.Pairwise.filterMap _ _ (span_ascending returns.points)
  intro b b' hlt p hp q hq
  obtain ⟨e, he, rfl⟩ := Option.map_eq_some_iff.1 hp
  obtain ⟨e', he', rfl⟩ := Option.map_eq_some_iff.1 hq
  exact Frequency.bucketEnd_lt hlt he he'

omit [FloatOps F] in
/-- The buckets that are not missing. -/
def populated (rows : List (Date × Option F)) : List (Date × F) :=
  rows.filterMap fun row => row.2.map fun value => (row.1, value)

omit [FloatOps F] in
theorem populated_ascending {rows : List (Date × Option F)}
    (h : rows.Pairwise (fun p q => p.1 < q.1)) :
    ((populated rows).map Prod.fst).Pairwise (· < ·) := by
  rw [List.pairwise_map]
  apply List.Pairwise.filterMap _ _ h
  intro p p' hlt q hq q' hq'
  obtain ⟨v, _, rfl⟩ := Option.map_eq_some_iff.1 hq
  obtain ⟨v', _, rfl⟩ := Option.map_eq_some_iff.1 hq'
  exact hlt

/-- `_resample_returns`. -/
def resampleReturns (returns : Series Date F) (frequency : Frequency) :
    Except PyException (Series Date F) :=
  if returns.isEmpty ∨ frequency = .daily then .ok returns
  else
    let rows := resampled frequency returns
    let missingBucketEnds := (rows.filter (fun row => row.2.isNone)).map Prod.fst
    if missingBucketEnds.isEmpty then
      .ok (Series.ofPoints (populated rows) (populated_ascending (resampled_ascending _ _)))
    else
      let formattedBucketEnds := ", ".intercalate (missingBucketEnds.map Date.isoformat)
      .error (.valueError s!"{resamplingGapErrorPrefix}: {formattedBucketEnds}")

end Model

end LotusRisk
