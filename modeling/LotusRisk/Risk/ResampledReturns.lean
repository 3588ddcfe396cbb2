import LotusRisk.Lib.Doubles
import LotusRisk.Risk.Resampling

/-! Resampled returns: when the resampling raises, and what it compounds otherwise. -/

namespace LotusRisk
set_option autoImplicit true

open Bucketing

section Spec

variable {F : Type} {frequency : Frequency}

theorem ordered_points (frequency : Frequency) (returns : Series Date F) :
    Ordered (pointBucket frequency) returns.points := by
  have hasc := returns.ascending
  rw [← returns.map_fst_points, List.pairwise_map] at hasc
  apply hasc.imp
  intro p q hlt
  exact frequency.bucket_mono hlt.le

theorem mem_populated {rows : List (Date × Option F)} :
    p ∈ populated rows ↔ (p.1, some p.2) ∈ rows := by
  rw [populated, List.mem_filterMap]
  constructor
  · rintro ⟨⟨e, value⟩, hrow, hp⟩
    obtain ⟨v, rfl, rfl⟩ := Option.map_eq_some_iff.1 hp
    exact hrow
  · intro h
    exact ⟨_, h, rfl⟩

variable {returns : Series Date F}

theorem points_ne_nil (hne : returns.index ≠ []) : returns.points ≠ [] := by
  intro hnil
  apply hne
  rw [← returns.map_fst_points, hnil, List.map_nil]

/-- A bucket is empty when it has a day, and no observation on any of its days. -/
theorem exists_empty_bucket_iff (hne : returns.index ≠ []) :
    (∃ b ∈ span (pointBucket frequency) returns.points,
      members (pointBucket frequency) returns.points b = []) ↔
    ∃ d, frequency.bucket (returns.index.head hne) < frequency.bucket d ∧
      frequency.bucket d < frequency.bucket (returns.index.getLast hne) ∧
      ∀ r ∈ returns.index, frequency.bucket r ≠ frequency.bucket d := by
  have hord := ordered_points frequency returns
  cases hpoints : returns.points with
  | nil =>
    have hindex := returns.map_fst_points
    rw [hpoints] at hindex
    exact absurd hindex.symm hne
  | cons p l =>
    have hindex : returns.index = p.1 :: l.map Prod.fst := by
      rw [← returns.map_fst_points, hpoints, List.map_cons]
    have hhead : returns.index.head hne = p.1 := by
      simp only [hindex, List.head_cons]
    have hlast : returns.index.getLast hne = (l.getLastD p).1 := by
      have hgetLast : returns.index.getLast? = some (l.getLastD p).1 := by
        rw [← returns.map_fst_points, hpoints, List.getLast?_map, List.getLast?_cons,
          List.getLastD_eq_getLast?, Option.map_some]
      rw [List.getLast?_eq_some_getLast hne] at hgetLast
      exact Option.some.inj hgetLast
    rw [hpoints] at hord
    rw [exists_empty_iff hord, hhead, hlast, hindex, ← List.map_cons]
    simp only [List.forall_mem_map]
    constructor
    · rintro ⟨b, hlo, hhi, hempty⟩
      obtain ⟨d, hd⟩ := frequency.exists_bucketEnd hlo.le hhi.le
      obtain ⟨hb, _⟩ := Frequency.bucketEnd_spec hd
      refine ⟨d, ?_, ?_, ?_⟩
      · rw [hb]
        exact hlo
      · rw [hb]
        exact hhi
      · rw [hb]
        exact hempty
    · rintro ⟨d, hlo, hhi, hempty⟩
      exact ⟨_, hlo, hhi, hempty⟩

variable [FloatOps F]

/-- The returns of a series that are dated in a bucket. -/
def bucketValues (frequency : Frequency) (returns : Series Date F) (b : Nat) : List F :=
  (returns.points.filter fun q => frequency.bucket q.1 = b).map Prod.snd

omit [FloatOps F] in
theorem bucketValues_eq : bucketValues frequency returns b =
    (members (pointBucket frequency) returns.points b).map Prod.snd := rfl

/-- Over returns that are numbers, a bucket is missing when it is empty or compounds to a NaN. -/
theorem compoundPopulatedBucket_eq {bucket : List F}
    (h : ∀ v ∈ bucket, FloatOps.isNaN v = false) :
    compoundPopulatedBucket bucket =
      if bucket.isEmpty ∨ FloatOps.isNaN (compoundObservations bucket) then none
      else some (compoundObservations bucket) := by
  have hall : bucket.filter (fun value => !FloatOps.isNaN value) = bucket := by
    rw [List.filter_eq_self]
    intro v hv
    rw [h v hv]
    rfl
  simp only [compoundPopulatedBucket, hall]
  by_cases hempty : bucket.isEmpty = true
  · rw [if_pos hempty, if_pos (.inl hempty)]
  · rw [if_neg hempty]
    by_cases hnan : FloatOps.isNaN (compoundObservations bucket) = true
    · rw [if_pos hnan, if_pos (.inr hnan)]
    · rw [if_neg hnan, if_neg (not_or.2 ⟨hempty, hnan⟩)]

theorem bucketRow_eq_some : bucketRow frequency returns b = some row ↔
    frequency.bucketEnd b = some row.1 ∧
      row.2 = compoundPopulatedBucket (bucketValues frequency returns b) := by
  rw [bucketRow, Option.map_eq_some_iff, bucketValues_eq]
  constructor
  · rintro ⟨e, he, rfl⟩
    exact ⟨he, rfl⟩
  · rintro ⟨he, hvalue⟩
    exact ⟨row.1, he, Prod.ext rfl hvalue.symm⟩

/-- The buckets of the span have rows. -/
theorem exists_bucketRow (hb : b ∈ span (pointBucket frequency) returns.points) :
    ∃ row, bucketRow frequency returns b = some row := by
  rw [← Option.isSome_iff_exists, bucketRow, Option.isSome_map, Option.isSome_iff_exists]
  cases hpoints : returns.points with
  | nil =>
    rw [hpoints] at hb
    cases hb
  | cons p l =>
    have hord := ordered_points frequency returns
    rw [hpoints] at hb hord
    obtain ⟨hlo, hhi⟩ := (mem_span hord).1 hb
    exact frequency.exists_bucketEnd hlo hhi

/-- The resampling raises when a bucket is missing, and keeps all rows otherwise. -/
theorem resampleReturns_eq (hne : returns.points ≠ []) (hf : frequency ≠ .daily) :
    ((∃ e, resampleReturns returns frequency = .error e) ↔
      ∃ row ∈ resampled frequency returns, row.2 = none) ∧
    ∀ out, resampleReturns returns frequency = .ok out →
      (∀ row ∈ resampled frequency returns, row.2 ≠ none) ∧
        out.points = populated (resampled frequency returns) := by
  have hempty : ¬(returns.isEmpty = true ∨ frequency = .daily) := by
    rintro (hempty | hdaily)
    · apply hne
      rw [Series.isEmpty, List.isEmpty_iff] at hempty
      rw [Series.points, hempty]
      rfl
    · exact hf hdaily
  have hmissing : ((resampled frequency returns).filter (fun row => row.2.isNone)).map Prod.fst = []
      ↔ ∀ row ∈ resampled frequency returns, row.2 ≠ none := by
    rw [List.map_eq_nil_iff, List.filter_eq_nil_iff]
    simp only [Option.isNone_iff_eq_none, ne_eq]
  simp only [resampleReturns, if_neg hempty]
  split
  · rename_i hnil
    have hall := hmissing.1 (List.isEmpty_iff.1 hnil)
    constructor
    · apply iff_of_false
      · intro herror
        obtain ⟨e, he⟩ := herror
        cases he
      · rintro ⟨row, hrow, hnone⟩
        exact hall row hrow hnone
    · intro out hout
      cases hout
      exact ⟨hall, Series.points_ofPoints _ _⟩
  · rename_i hsome
    refine ⟨iff_of_true ⟨_, rfl⟩ ?_, fun out hout => by cases hout⟩
    by_contra hall
    apply hsome
    rw [List.isEmpty_iff, hmissing]
    intro row hrow hnone
    exact hall ⟨row, hrow, hnone⟩

/-- A date of the series whose bucket compounds to a NaN. -/
def CompoundsToNaN (frequency : Frequency) (returns : Series Date F) (r : Date) : Prop :=
  FloatOps.isNaN (compoundObservations (bucketValues frequency returns (frequency.bucket r))) = true

/-- A bucket between the first and the last populated one that has no return. -/
def EmptyBetween (frequency : Frequency) (returns : Series Date F) (hne : returns.index ≠ []) :
    Prop :=
  ∃ d, frequency.bucket (returns.index.head hne) < frequency.bucket d ∧
    frequency.bucket d < frequency.bucket (returns.index.getLast hne) ∧
    ∀ r ∈ returns.index, frequency.bucket r ≠ frequency.bucket d

/-- The returns are numbers. -/
def Numbers (returns : Series Date F) : Prop := ∀ v ∈ returns.values, FloatOps.isNaN v = false

theorem Numbers.bucketValues (h : Numbers returns) (b : Nat) :
    ∀ v ∈ bucketValues frequency returns b, FloatOps.isNaN v = false := by
  intro v hv
  obtain ⟨q, hq, rfl⟩ := List.mem_map.1 hv
  apply h
  rw [← returns.map_snd_points]
  exact List.mem_map_of_mem (List.mem_of_mem_filter hq)

omit [FloatOps F] in
/-- A bucket of the span that has returns is that of one of them. -/
theorem exists_mem_bucket {b : Nat} (hne : bucketValues frequency returns b ≠ []) :
    ∃ r ∈ returns.index, frequency.bucket r = b := by
  obtain ⟨v, hv⟩ := List.exists_mem_of_ne_nil _ hne
  obtain ⟨q, hq, rfl⟩ := List.mem_map.1 hv
  obtain ⟨hq, hb⟩ := List.mem_filter.1 hq
  exact ⟨q.1, Series.mem_index hq, of_decide_eq_true hb⟩

/-- A row is missing when its bucket is empty, or compounds to a NaN. -/
theorem exists_missing_iff (hnumbers : Numbers returns) (hne : returns.index ≠ []) :
    (∃ row ∈ resampled frequency returns, row.2 = none) ↔
      EmptyBetween frequency returns hne ∨
        ∃ r ∈ returns.index, CompoundsToNaN frequency returns r := by
  have hvalue : ∀ b, compoundPopulatedBucket (bucketValues frequency returns b) = _ :=
    fun b => compoundPopulatedBucket_eq (hnumbers.bucketValues b)
  rw [EmptyBetween, ← exists_empty_bucket_iff hne]
  constructor
  · rintro ⟨row, hrow, hnone⟩
    obtain ⟨b, hb, hrow⟩ := List.mem_filterMap.1 hrow
    rw [(bucketRow_eq_some.1 hrow).2, hvalue] at hnone
    split_ifs at hnone with hmissing
    by_cases hempty : bucketValues frequency returns b = []
    · exact .inl ⟨b, hb, List.map_eq_nil_iff.1 hempty⟩
    · obtain ⟨r, hr, rfl⟩ := exists_mem_bucket hempty
      refine .inr ⟨r, hr, hmissing.resolve_left ?_⟩
      rw [List.isEmpty_iff]
      exact hempty
  · rintro (⟨b, hb, hnil⟩ | ⟨r, hr, hnan⟩)
    · obtain ⟨row, hrow⟩ := exists_bucketRow hb
      refine ⟨row, List.mem_filterMap.2 ⟨b, hb, hrow⟩, ?_⟩
      rw [(bucketRow_eq_some.1 hrow).2, bucketValues_eq, hnil]
      rfl
    · obtain ⟨q, hq, rfl⟩ := Series.exists_mem_points hr
      have hb := bucket_mem_span (ordered_points frequency returns) hq
      obtain ⟨row, hrow⟩ := exists_bucketRow hb
      refine ⟨row, List.mem_filterMap.2 ⟨_, hb, hrow⟩, ?_⟩
      rw [(bucketRow_eq_some.1 hrow).2, hvalue]
      exact if_pos (.inr hnan)

theorem resampleReturns_error_iff (hnumbers : Numbers returns) (hne : returns.index ≠ [])
    (hf : frequency ≠ .daily) :
    (∃ e, resampleReturns returns frequency = .error e) ↔
      EmptyBetween frequency returns hne ∨
        ∃ r ∈ returns.index, CompoundsToNaN frequency returns r := by
  rw [(resampleReturns_eq (points_ne_nil hne) hf).1, exists_missing_iff hnumbers hne]

/-- What a series is resampled to: one point for each populated bucket, dated at its end, which
compounds the returns of that bucket and no others. -/
structure ResampledTo (frequency : Frequency) (returns out : Series Date F) : Prop where
  ascending : out.index.Pairwise (· < ·)
  single : ∀ r ∈ returns.index, ∃! p, p ∈ out.points ∧ frequency.bucket p.1 = frequency.bucket r
  dated : ∀ p ∈ out.points, frequency.bucketEnd (frequency.bucket p.1) = some p.1
  populated : ∀ p ∈ out.points, bucketValues frequency returns (frequency.bucket p.1) ≠ []
  compounded : ∀ p ∈ out.points,
    p.2 = compoundObservations (bucketValues frequency returns (frequency.bucket p.1))

/-- A populated bucket that is not missing has a row with what it compounds to. -/
theorem bucketRow_compounded (hnumbers : Numbers returns)
    (h : bucketRow frequency returns b = some (e, some value)) :
    frequency.bucketEnd b = some e ∧ bucketValues frequency returns b ≠ [] ∧
      value = compoundObservations (bucketValues frequency returns b) := by
  obtain ⟨hend, hvalue⟩ := bucketRow_eq_some.1 h
  rw [compoundPopulatedBucket_eq (hnumbers.bucketValues b)] at hvalue
  split_ifs at hvalue with hmissing
  refine ⟨hend, ?_, Option.some.inj hvalue⟩
  intro hnil
  exact hmissing (.inl (List.isEmpty_iff.2 hnil))

/-- The points of the output are the rows of the buckets of the span. -/
theorem mem_out_iff (hne : returns.index ≠ []) (hf : frequency ≠ .daily)
    (h : resampleReturns returns frequency = .ok out) :
    p ∈ out.points ↔ frequency.bucket p.1 ∈ span (pointBucket frequency) returns.points ∧
      bucketRow frequency returns (frequency.bucket p.1) = some (p.1, some p.2) := by
  rw [((resampleReturns_eq (points_ne_nil hne) hf).2 out h).2, mem_populated, resampled,
    List.mem_filterMap]
  constructor
  · rintro ⟨b, hb, hrow⟩
    have hbucket := (Frequency.bucketEnd_spec (bucketRow_eq_some.1 hrow).1).1
    simp only at hbucket
    rw [hbucket]
    exact ⟨hb, hrow⟩
  · rintro ⟨hb, hrow⟩
    exact ⟨_, hb, hrow⟩

/-- Every bucket of the span has a row with a value. -/
theorem exists_value (hne : returns.index ≠ []) (hf : frequency ≠ .daily)
    (h : resampleReturns returns frequency = .ok out)
    (hb : b ∈ span (pointBucket frequency) returns.points) :
    ∃ e value, bucketRow frequency returns b = some (e, some value) := by
  obtain ⟨row, hrow⟩ := exists_bucketRow hb
  have hsome := ((resampleReturns_eq (points_ne_nil hne) hf).2 out h).1 row
    (List.mem_filterMap.2 ⟨b, hb, hrow⟩)
  obtain ⟨value, hvalue⟩ := Option.ne_none_iff_exists'.1 hsome
  refine ⟨row.1, value, ?_⟩
  rw [hrow, ← hvalue]

theorem resampleReturns_ok (hnumbers : Numbers returns) (hne : returns.index ≠ [])
    (hf : frequency ≠ .daily) (h : resampleReturns returns frequency = .ok out) :
    ResampledTo frequency returns out := by
  have hmem := fun p : Date × F => mem_out_iff (p := p) hne hf h
  refine ⟨out.ascending, ?_, ?_, ?_, ?_⟩
  · intro r hr
    obtain ⟨q, hq, rfl⟩ := Series.exists_mem_points hr
    have hb := bucket_mem_span (ordered_points frequency returns) hq
    obtain ⟨e, value, hrow⟩ := exists_value hne hf h hb
    have hbucket : frequency.bucket e = frequency.bucket q.1 :=
      (Frequency.bucketEnd_spec (bucketRow_eq_some.1 hrow).1).1
    refine ⟨(e, value), ⟨(hmem _).2 ?_, hbucket⟩, ?_⟩
    · simp only
      rw [hbucket]
      exact ⟨hb, hrow⟩
    · rintro ⟨e', value'⟩ ⟨hp, hbucket'⟩
      have hrow' := ((hmem _).1 hp).2
      simp only at hrow' hbucket'
      rw [hbucket'] at hrow'
      have heq := Option.some.inj (hrow'.symm.trans hrow)
      cases heq
      rfl
  · intro p hp
    exact (bucketRow_compounded hnumbers ((hmem p).1 hp).2).1
  · intro p hp
    exact (bucketRow_compounded hnumbers ((hmem p).1 hp).2).2.1
  · intro p hp
    exact (bucketRow_compounded hnumbers ((hmem p).1 hp).2).2.2

end Spec

section Exact

variable {K : Type} [Field K] {frequency : Frequency} {returns : Series Date K}

theorem compoundObservations_exact (observations : List K) :
    compoundObservations observations = inPercent (growth observations - 1) := by
  simp only [compoundObservations, FloatOps.exact_mul, FloatOps.exact_sub, FloatOps.exact_prod,
    FloatOps.exact_add, FloatOps.exact_div, FloatOps.exact_ofInt, Int.cast_one, Int.cast_ofNat,
    inPercent, growth, fromPercent]

theorem numbers_exact (returns : Series Date K) : Numbers returns := fun _ _ => rfl

/-- Exact arithmetic compounds nothing to a NaN. -/
theorem resampleReturns_error_iff_exact (hne : returns.index ≠ []) (hf : frequency ≠ .daily) :
    (∃ e, resampleReturns returns frequency = .error e) ↔ EmptyBetween frequency returns hne := by
  rw [resampleReturns_error_iff (numbers_exact returns) hne hf]
  apply or_iff_left
  rintro ⟨r, _, hnan⟩
  exact absurd hnan Bool.false_ne_true

/-- What compounds has the growth of its observations. -/
theorem growth_compoundObservations [CharZero K] (observations : List K) :
    1 + fromPercent (compoundObservations observations) = growth observations := by
  rw [compoundObservations_exact, fromPercent_inPercent, add_sub_cancel]

/-- The growth over populated buckets is the growth of what they compound. -/
theorem growth_populated [CharZero K] {bs : List Nat}
    (h : ∀ b ∈ bs, ∃ e value, bucketRow frequency returns b = some (e, some value)) :
    growth ((populated (bs.filterMap (bucketRow frequency returns))).map Prod.snd) =
      (bs.map (fun b => ((members (pointBucket frequency) returns.points b).map
        (fun p => 1 + fromPercent p.2)).prod)).prod := by
  induction bs with
  | nil => rfl
  | cons b bs ih =>
    obtain ⟨e, value, hrow⟩ := h b List.mem_cons_self
    obtain ⟨_, _, hvalue⟩ := bucketRow_compounded (numbers_exact returns) hrow
    have hgrowth := growth_compoundObservations (bucketValues frequency returns b)
    rw [← hvalue, bucketValues_eq, growth, List.map_map] at hgrowth
    rw [List.filterMap_cons_some hrow, List.map_cons, List.prod_cons,
      ← ih (fun b hb => h b (List.mem_cons_of_mem _ hb))]
    exact congrArg (· * _) hgrowth

theorem growth_resampled [CharZero K] (hne : returns.index ≠ []) (hf : frequency ≠ .daily)
    (h : resampleReturns returns frequency = .ok out) :
    growth out.values = growth returns.values := by
  rw [← out.map_snd_points, ((resampleReturns_eq (points_ne_nil hne) hf).2 out h).2, resampled,
    growth_populated (fun b hb => exists_value hne hf h hb),
    prod_members _ (ordered_points frequency returns), ← returns.map_snd_points, growth,
    List.map_map]
  rfl

end Exact

/-- In any arithmetic, resampling raises for an empty bucket or for one that compounds to a NaN,
and otherwise compounds each bucket by itself. Exact arithmetic has no NaN, and keeps the growth. -/
theorem resampleReturns_spec (frequency : Frequency) (hf : frequency ≠ .daily) :
    (∀ {F : Type} [FloatOps F] (returns : Series Date F) (hne : returns.index ≠ []),
      Numbers returns →
      ((∃ e, resampleReturns returns frequency = .error e) ↔
        EmptyBetween frequency returns hne ∨
          ∃ r ∈ returns.index, CompoundsToNaN frequency returns r) ∧
      ∀ out, resampleReturns returns frequency = .ok out → ResampledTo frequency returns out) ∧
    ∀ {K : Type} [Field K] [CharZero K] (returns : Series Date K) (hne : returns.index ≠ []),
      ((∃ e, resampleReturns returns frequency = .error e) ↔
        EmptyBetween frequency returns hne) ∧
      ∀ out, resampleReturns returns frequency = .ok out → ResampledTo frequency returns out ∧
        growth out.values = growth returns.values := by
  constructor
  · intro F _ returns hne hnumbers
    refine ⟨resampleReturns_error_iff hnumbers hne hf, ?_⟩
    intro out h
    exact resampleReturns_ok hnumbers hne hf h
  · intro K _ _ returns hne
    refine ⟨resampleReturns_error_iff_exact hne hf, ?_⟩
    intro out h
    exact ⟨resampleReturns_ok (numbers_exact returns) hne hf h, growth_resampled hne hf h⟩

section TwoWeeks

/-- The first two days of a week, and a day of the next. -/
def twoWeeks : List Date :=
  firstWeek.take 2 ++ [⟨2026, 1, 12, by decide⟩]

theorem twoWeeks_ascending : twoWeeks.Pairwise (· < ·) := by decide

def overTwoWeeks (a b c : F) : Series Date F where
  index := twoWeeks
  values := [a, b, c]
  length_values := rfl
  ascending := twoWeeks_ascending

theorem overTwoWeeks_ne_nil {a b c : F} : (overTwoWeeks a b c).index ≠ [] := List.cons_ne_nil _ _

theorem resampleReturns_spec_twoWeeks :
    (∃ out, resampleReturns (overTwoWeeks (1.5 : Float) (-2) 0.25) .weekly = .ok out ∧
      ResampledTo .weekly (overTwoWeeks (1.5 : Float) (-2) 0.25) out) ∧
    ∃ out, resampleReturns (overTwoWeeks (1 : ℚ) 2 3) .weekly = .ok out ∧
      growth out.values = growth (overTwoWeeks (1 : ℚ) 2 3).values := by
  obtain ⟨hany, hexact⟩ := resampleReturns_spec .weekly nofun
  constructor
  · have hruns : (resampleReturns (overTwoWeeks (1.5 : Float) (-2) 0.25) .weekly).toOption.isSome =
        true := by
      decide +kernel
    have hnumbers : Numbers (overTwoWeeks (1.5 : Float) (-2) 0.25) := by
      unfold Numbers
      decide +kernel
    obtain ⟨out, hout⟩ := ok_of_isSome hruns
    exact ⟨out, hout, (hany _ overTwoWeeks_ne_nil hnumbers).2 out hout⟩
  · have hruns : (resampleReturns (overTwoWeeks (1 : ℚ) 2 3) .weekly).toOption.isSome = true := by
      decide +kernel
    obtain ⟨out, hout⟩ := ok_of_isSome hruns
    exact ⟨out, hout, ((hexact _ overTwoWeeks_ne_nil).2 out hout).2⟩

/-- Three returns of one week. Its growth is infinity times zero. -/
def overflowingWeek : Series Date Float where
  index := firstWeek.take 3
  values := [1e308, 1e308, -100]
  length_values := rfl
  ascending := firstWeek_ascending.sublist (List.take_sublist 3 firstWeek)

theorem overflowingWeek_ne_nil : overflowingWeek.index ≠ [] := List.cons_ne_nil _ _

/-- A week of finite returns is refused as a gap. -/
theorem overflow_refused_as_gap : (∀ v ∈ overflowingWeek.values, v.isFinite = true) ∧
    (∃ e, resampleReturns overflowingWeek .weekly = .error e) ∧
    ¬EmptyBetween .weekly overflowingWeek overflowingWeek_ne_nil := by
  refine ⟨by decide +kernel, error_of_isNone (by decide +kernel), ?_⟩
  rintro ⟨d, hlo, hhi, _⟩
  exact lt_irrefl _ (hlo.trans hhi)

end TwoWeeks

end LotusRisk
