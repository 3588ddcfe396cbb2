import LotusRisk.Risk.ResampledReturns
import LotusRisk.Risk.ReturnsAdmission

/-! Returns dated at the end of the admitted window stay in their own periods. -/

namespace LotusRisk
set_option autoImplicit true

open Bucketing

variable {K : Type}

section Clamping

variable {frequency : Frequency} {startDate endDate : Date}

/-- The period that ends on a date has a day in the window. -/
def OverlapsWindow (frequency : Frequency) (startDate endDate d : Date) : Prop :=
  ∃ day, frequency.bucket day = frequency.bucket d ∧ startDate ≤ day ∧ day ≤ endDate

theorem OverlapsWindow.bounds (h : OverlapsWindow frequency startDate endDate d)
    (hperiod : frequency.bucketEnd (frequency.bucket d) = some d) :
    bucketStart d frequency ≤ endDate ∧ startDate ≤ d := by
  obtain ⟨day, hbucket, hstart, hend⟩ := h
  have hfirst := (bucketStart_spec hperiod).2.2 day hbucket
  have hlast := (Frequency.bucketEnd_spec hperiod).2 day hbucket
  exact ⟨hfirst.trans hend, hstart.trans hlast⟩

/-- A period clamped to the window ends in the window, within itself. -/
theorem clamped_spec (hwindow : startDate ≤ endDate)
    (hperiod : frequency.bucketEnd (frequency.bucket d) = some d)
    (h : OverlapsWindow frequency startDate endDate d) :
    startDate ≤ min d endDate ∧ min d endDate ≤ endDate ∧
      frequency.bucket (min d endDate) = frequency.bucket d := by
  obtain ⟨hle, hge⟩ := h.bounds hperiod
  obtain ⟨hfirst, _, _⟩ := bucketStart_spec hperiod
  refine ⟨le_min hge hwindow, min_le_right _ _, ?_⟩
  rcases le_total d endDate with hcase | hcase
  · rw [min_eq_left hcase]
  · rw [min_eq_right hcase]
    apply le_antisymm (frequency.bucket_mono hcase)
    rw [← hfirst]
    exact frequency.bucket_mono hle

/-- The ends of periods are told apart by their buckets. -/
theorem bucket_injective_of_periodEnd (h : frequency.bucketEnd (frequency.bucket a) = some a)
    (h' : frequency.bucketEnd (frequency.bucket b) = some b)
    (heq : frequency.bucket a = frequency.bucket b) : a = b := by
  rw [heq, h'] at h
  exact (Option.some.inj h).symm

theorem lt_iff_of_buckets {a b a' b' : Date} (ha : frequency.bucket a' = frequency.bucket a)
    (hb : frequency.bucket b' = frequency.bucket b)
    (hne : frequency.bucket a = frequency.bucket b → a = b ∧ a' = b') : a' < b' ↔ a < b := by
  by_cases heq : frequency.bucket a = frequency.bucket b
  · obtain ⟨rfl, rfl⟩ := hne heq
    exact iff_of_false (lt_irrefl _) (lt_irrefl _)
  · constructor
    · intro hlt
      apply not_le.1
      intro hle
      have hle := frequency.bucket_mono hle
      have hge := frequency.bucket_mono hlt.le
      rw [ha, hb] at hge
      exact heq (le_antisymm hge hle)
    · intro hlt
      apply not_le.1
      intro hle
      have hle := frequency.bucket_mono hle
      have hge := frequency.bucket_mono hlt.le
      rw [ha, hb] at hle
      exact heq (le_antisymm hge hle)

end Clamping

section OnePerBucket

variable {F : Type} [FloatOps F] {frequency : Frequency} {returns : Series Date F}

omit [FloatOps F] in
/-- The only return of a bucket is all that it compounds. -/
theorem bucketValues_of_one_per_bucket
    (hone : ∀ p ∈ returns.points, ∀ q ∈ returns.points,
      frequency.bucket p.1 = frequency.bucket q.1 → p = q)
    (hq : q ∈ returns.points) : bucketValues frequency returns (frequency.bucket q.1) = [q.2] := by
  have hnodup : returns.points.Nodup := by
    apply List.Nodup.of_map Prod.fst
    rw [returns.map_fst_points]
    exact returns.ascending.imp ne_of_lt
  have hsingle : returns.points.filter
      (fun r => frequency.bucket r.1 = frequency.bucket q.1) = [q] := by
    apply List.perm_singleton.1
    apply (List.perm_ext_iff_of_nodup (hnodup.filter _) (List.nodup_singleton q)).2
    intro r
    rw [List.mem_filter, decide_eq_true_iff, List.mem_singleton]
    constructor
    · rintro ⟨hr, hbucket⟩
      exact hone r hr q hq hbucket
    · rintro rfl
      exact ⟨hq, rfl⟩
  rw [bucketValues, hsingle, List.map_singleton]

/-- A bucket of one return compounds to a NaN when that return does. -/
theorem exists_compoundsToNaN_iff
    (hone : ∀ p ∈ returns.points, ∀ q ∈ returns.points,
      frequency.bucket p.1 = frequency.bucket q.1 → p = q) :
    (∃ r ∈ returns.index, CompoundsToNaN frequency returns r) ↔
      ∃ v ∈ returns.values, FloatOps.isNaN (compoundObservations [v]) = true := by
  rw [← returns.map_fst_points, ← returns.map_snd_points]
  constructor
  · rintro ⟨r, hr, hnan⟩
    obtain ⟨q, hq, rfl⟩ := List.mem_map.1 hr
    rw [CompoundsToNaN, bucketValues_of_one_per_bucket hone hq] at hnan
    exact ⟨q.2, List.mem_map_of_mem hq, hnan⟩
  · rintro ⟨v, hv, hnan⟩
    obtain ⟨q, hq, rfl⟩ := List.mem_map.1 hv
    rw [← bucketValues_of_one_per_bucket hone hq] at hnan
    exact ⟨q.1, List.mem_map_of_mem hq, hnan⟩

omit [FloatOps F] in
theorem buckets_ascending {s : Series Date F} (g : F → F)
    (hinj : ∀ p ∈ s.points, ∀ q ∈ s.points,
      frequency.bucket p.1 = frequency.bucket q.1 → p = q) :
    (s.points.map (fun p => (frequency.bucket p.1, g p.2))).Pairwise (fun x y => x.1 < y.1) := by
  have hdates := s.ascending
  rw [← s.map_fst_points, List.pairwise_map] at hdates
  rw [List.pairwise_map]
  apply hdates.imp_of_mem
  intro p q hp hq hlt
  apply lt_of_le_of_ne (frequency.bucket_mono hlt.le)
  intro heq
  rw [hinj p hp q hq heq] at hlt
  exact lt_irrefl _ hlt

/-- A series with one return in each of its buckets is resampled return by return. -/
theorem resampleReturns_of_one_per_bucket (hnumbers : Numbers returns)
    (hne : returns.index ≠ []) (hf : frequency ≠ .daily)
    (hone : ∀ p ∈ returns.points, ∀ q ∈ returns.points,
      frequency.bucket p.1 = frequency.bucket q.1 → p = q)
    (h : resampleReturns returns frequency = .ok out) :
    out.values = returns.values.map (fun v => compoundObservations [v]) ∧
      ∀ p ∈ out.points, ∃ q ∈ returns.points,
        frequency.bucketEnd (frequency.bucket q.1) = some p.1 ∧
          p.2 = compoundObservations [q.2] := by
  have hto := resampleReturns_ok hnumbers hne hf h
  -- each output point compounds the only input point of its bucket
  have hsame : ∀ p ∈ out.points, ∃ q ∈ returns.points,
      frequency.bucket q.1 = frequency.bucket p.1 ∧ p.2 = compoundObservations [q.2] := by
    intro p hp
    obtain ⟨r, hr, hbucket⟩ := exists_mem_bucket (hto.populated p hp)
    obtain ⟨q, hq, rfl⟩ := Series.exists_mem_points hr
    have hvalue := hto.compounded p hp
    rw [← hbucket, bucketValues_of_one_per_bucket hone hq] at hvalue
    exact ⟨q, hq, hbucket, hvalue⟩
  have hends : ∀ p ∈ out.points, ∃ q ∈ returns.points,
      frequency.bucketEnd (frequency.bucket q.1) = some p.1 ∧
        p.2 = compoundObservations [q.2] := by
    intro p hp
    obtain ⟨q, hq, hbucket, hvalue⟩ := hsame p hp
    rw [← hto.dated p hp, ← hbucket]
    exact ⟨q, hq, rfl, hvalue⟩
  refine ⟨?_, hends⟩
  have hinj : ∀ p ∈ out.points, ∀ q ∈ out.points,
      frequency.bucket p.1 = frequency.bucket q.1 → p = q := by
    intro p hp q hq heq
    obtain ⟨r, hr, hrp, hvp⟩ := hsame p hp
    obtain ⟨r', hr', hrq, hvq⟩ := hsame q hq
    have hsame := hone r hr r' hr' (hrp.trans (heq.trans hrq.symm))
    have hlabel := bucket_injective_of_periodEnd (hto.dated p hp) (hto.dated q hq) heq
    exact Prod.ext hlabel (by rw [hvp, hvq, hsame])
  have hout := buckets_ascending id hinj
  have hin := buckets_ascending (fun v => compoundObservations [v]) hone
  have hmem : ∀ x, x ∈ out.points.map (fun p => (frequency.bucket p.1, id p.2)) ↔
      x ∈ returns.points.map (fun p => (frequency.bucket p.1, compoundObservations [p.2])) := by
    intro x
    rw [List.mem_map, List.mem_map]
    constructor
    · rintro ⟨p, hp, rfl⟩
      obtain ⟨q, hq, hbucket, hvalue⟩ := hsame p hp
      exact ⟨q, hq, Prod.ext hbucket hvalue.symm⟩
    · rintro ⟨q, hq, rfl⟩
      obtain ⟨p, ⟨hp, hbucket⟩, _⟩ := hto.single q.1 (Series.mem_index hq)
      obtain ⟨q', hq', hbucket', hvalue⟩ := hsame p hp
      have hsame := hone q' hq' q hq (hbucket'.trans hbucket)
      rw [hsame] at hvalue
      exact ⟨p, hp, Prod.ext hbucket hvalue⟩
  have hdistinct : ∀ x y : Nat × F, x.1 < y.1 → x ≠ y := by
    intro x y hlt heq
    rw [heq] at hlt
    exact lt_irrefl _ hlt
  have hperm := (List.perm_ext_iff_of_nodup (hout.imp (hdistinct _ _))
    (hin.imp (hdistinct _ _))).2 hmem
  have heq := hperm.eq_of_pairwise
    (fun _ _ _ _ h h' => absurd (lt_trans h h') (lt_irrefl _)) hout hin
  have hvalues := congrArg (List.map Prod.snd) heq
  rw [List.map_map, List.map_map] at hvalues
  rw [← out.map_snd_points, ← returns.map_snd_points, List.map_map]
  exact hvalues

/-- Exact arithmetic compounds one return to itself. -/
theorem compoundObservations_singleton [Field K] [CharZero K] (v : K) :
    compoundObservations [v] = v := by
  rw [compoundObservations_exact, growth, List.map_singleton, List.prod_singleton,
    add_sub_cancel_left, inPercent, fromPercent]
  exact div_mul_cancel₀ v (by norm_num)

end OnePerBucket

section Normalized

variable {texts : PyTexts K} {sourceResponse : List (String × PyValue K)}
  {points : List (ReturnPoint K)} {frequency : Frequency} {startDate endDate : Date}

theorem normalizeReturnPointsToResolvedWindow_ok (hf : frequency ≠ .daily)
    (hstart : windowDate texts (resolvedWindowOf sourceResponse) "start_date" = some startDate)
    (hend : windowDate texts (resolvedWindowOf sourceResponse) "end_date" = some endDate)
    (hbounds : ∀ point ∈ points, bucketStart point.date frequency ≤ endDate ∧
      startDate ≤ point.date) :
    normalizeReturnPointsToResolvedWindow texts sourceResponse points frequency =
      .ok (points.map fun point => { point with date := min point.date endDate }) := by
  have hinside : points.any
      (fun point => !bucketOverlapsWindow point.date frequency startDate endDate) = false := by
    rw [List.any_eq_false]
    intro point hpoint
    obtain ⟨hle, hge⟩ := hbounds point hpoint
    rw [bucketOverlapsWindow, decide_eq_true hle, decide_eq_true hge]
    decide
  have hvalid : validateReturnedPointsWithinWindow texts sourceResponse points frequency =
      .ok () := by
    rw [validateReturnedPointsWithinWindow, hstart, hend]
    simp only
    rw [hinside, if_neg Bool.false_ne_true]
  rw [normalizeReturnPointsToResolvedWindow, hvalid]
  change (if frequency = .daily then _ else _) = _
  rw [if_neg hf, hend]

/-- Clamping to the window keeps the order, the values and the periods of the points, so that a
later resampling compounds each of them by itself. In exact arithmetic that keeps its value. -/
theorem clamped_returns_keep_periods {F : Type} [FloatOps F] (texts : PyTexts F)
    (sourceResponse : List (String × PyValue F)) (points : List (ReturnPoint F))
    (frequency : Frequency) (startDate endDate : Date) (hf : frequency ≠ .daily)
    (hstart : windowDate texts (resolvedWindowOf sourceResponse) "start_date" = some startDate)
    (hend : windowDate texts (resolvedWindowOf sourceResponse) "end_date" = some endDate)
    (hwindow : startDate ≤ endDate) (hdistinct : (points.map ReturnPoint.date).Nodup)
    (hperiod : ∀ point ∈ points, dateMatchesFrequency point.date frequency = true)
    (hoverlap : ∀ point ∈ points, OverlapsWindow frequency startDate endDate point.date) :
    (∃ clamp : Date → Date,
      normalizeReturnPointsToResolvedWindow texts sourceResponse points frequency =
        .ok (points.map fun point => { point with date := clamp point.date }) ∧
      (points.map fun point => clamp point.date).Nodup ∧
      (∀ point ∈ points, startDate ≤ clamp point.date ∧ clamp point.date ≤ endDate ∧
        frequency.bucket (clamp point.date) = frequency.bucket point.date) ∧
      (∀ point ∈ points, ∀ point' ∈ points,
        clamp point.date < clamp point'.date ↔ point.date < point'.date) ∧
      ∀ returns : Series Date F, (hne : returns.index ≠ []) → Numbers returns →
        (∀ p ∈ returns.points, ∃ point ∈ points, p = (clamp point.date, point.value)) →
        ((∃ e, resampleReturns returns frequency = .error e) ↔
          EmptyBetween frequency returns hne ∨
            ∃ v ∈ returns.values, FloatOps.isNaN (compoundObservations [v]) = true) ∧
        ∀ out, resampleReturns returns frequency = .ok out →
          out.values = returns.values.map (fun v => compoundObservations [v]) ∧
          ∀ p ∈ out.points, ∃ point ∈ points,
            p = (point.date, compoundObservations [point.value])) ∧
    ∀ {K : Type} [Field K] [CharZero K] (v : K), compoundObservations [v] = v := by
  have hends : ∀ point ∈ points,
      frequency.bucketEnd (frequency.bucket point.date) = some point.date := by
    intro point hpoint
    exact (dateMatchesFrequency_iff.1 (hperiod point hpoint)).1
  have hclamped : ∀ point ∈ points, startDate ≤ min point.date endDate ∧
      min point.date endDate ≤ endDate ∧
      frequency.bucket (min point.date endDate) = frequency.bucket point.date := by
    intro point hpoint
    exact clamped_spec hwindow (hends point hpoint) (hoverlap point hpoint)
  -- points of one bucket are one point
  have hinj : ∀ point ∈ points, ∀ point' ∈ points,
      frequency.bucket point.date = frequency.bucket point'.date → point = point' := by
    intro point hpoint point' hpoint' heq
    exact List.inj_on_of_nodup_map hdistinct hpoint hpoint'
      (bucket_injective_of_periodEnd (hends point hpoint) (hends point' hpoint') heq)
  refine ⟨⟨fun d => min d endDate, ?_, ?_, hclamped, ?_, ?_⟩, compoundObservations_singleton⟩
  · apply normalizeReturnPointsToResolvedWindow_ok hf hstart hend
    intro point hpoint
    exact (hoverlap point hpoint).bounds (hends point hpoint)
  · apply List.Nodup.map_on _ (List.Nodup.of_map _ hdistinct)
    intro point hpoint point' hpoint' heq
    apply hinj point hpoint point' hpoint'
    simp only at heq
    rw [← (hclamped point hpoint).2.2, heq, (hclamped point' hpoint').2.2]
  · intro point hpoint point' hpoint'
    apply lt_iff_of_buckets (hclamped point hpoint).2.2 (hclamped point' hpoint').2.2
    intro heq
    rw [hinj point hpoint point' hpoint' heq]
    exact ⟨rfl, rfl⟩
  · intro returns hne hnumbers hsource
    have hone : ∀ p ∈ returns.points, ∀ q ∈ returns.points,
        frequency.bucket p.1 = frequency.bucket q.1 → p = q := by
      intro p hp q hq heq
      obtain ⟨point, hpoint, rfl⟩ := hsource p hp
      obtain ⟨point', hpoint', rfl⟩ := hsource q hq
      simp only at heq
      rw [(hclamped point hpoint).2.2, (hclamped point' hpoint').2.2] at heq
      rw [hinj point hpoint point' hpoint' heq]
    rw [resampleReturns_error_iff hnumbers hne hf, exists_compoundsToNaN_iff hone]
    refine ⟨Iff.rfl, ?_⟩
    intro out hout
    obtain ⟨hvalues, hrows⟩ := resampleReturns_of_one_per_bucket hnumbers hne hf hone hout
    refine ⟨hvalues, ?_⟩
    intro p hp
    obtain ⟨q, hq, hend', hvalue⟩ := hrows p hp
    obtain ⟨point, hpoint, rfl⟩ := hsource q hq
    simp only at hend' hvalue
    rw [(hclamped point hpoint).2.2, hends point hpoint] at hend'
    exact ⟨point, hpoint, Prod.ext (Option.some.inj hend').symm hvalue⟩

/-- A window from a Monday to the Thursday of the next week. -/
def thursdayResponse : List (String × PyValue F) :=
  [("resolved_window", .dict [("start_date", .str "2026-01-05"), ("end_date", .str "2026-01-15")])]

def twoFridays : List Date := [⟨2026, 1, 9, by decide⟩, ⟨2026, 1, 16, by decide⟩]

/-- A return for each of the two weeks. -/
def fridayReturns (a b : F) : List (ReturnPoint F) := List.zipWith ReturnPoint.mk twoFridays [a, b]

def nextThursday : Date := ⟨2026, 1, 15, by decide⟩

/-- What the returns are clamped to. -/
def throughThursday (a b : F) : Series Date F where
  index := [⟨2026, 1, 9, by decide⟩, nextThursday]
  values := [a, b]
  length_values := rfl
  ascending := by decide

theorem fridays_weekly (a b : F) : ∀ point ∈ fridayReturns a b,
    dateMatchesFrequency point.date .weekly = true ∧
      OverlapsWindow .weekly firstMonday nextThursday point.date := by
  have hfridays : ∀ d ∈ twoFridays, dateMatchesFrequency d .weekly = true ∧
      ∃ day ∈ [firstMonday, nextThursday],
        Frequency.weekly.bucket day = Frequency.weekly.bucket d := by
    decide +kernel
  intro point hpoint
  have hdate : point.date ∈ twoFridays := by
    rw [fridayReturns, twoFridays] at hpoint
    simp only [List.zipWith_cons_cons, List.zipWith_nil_left, List.mem_cons, List.not_mem_nil,
      or_false] at hpoint
    rcases hpoint with rfl | rfl
    · exact List.mem_cons_self
    · exact List.mem_cons_of_mem _ List.mem_cons_self
  obtain ⟨hmatch, day, hday, hbucket⟩ := hfridays point.date hdate
  have hwithin : ∀ day ∈ [firstMonday, nextThursday], firstMonday ≤ day ∧ day ≤ nextThursday := by
    decide
  exact ⟨hmatch, day, hbucket, hwithin day hday⟩

theorem clamped_returns_keep_periods_fridays : ∃ out : Series Date ℚ,
    normalizeReturnPointsToResolvedWindow plainTexts thursdayResponse (fridayReturns (1 : ℚ) 2)
        .weekly =
      .ok ((throughThursday 1 2).points.map fun p => ⟨p.1, p.2⟩) ∧
    resampleReturns (throughThursday 1 2) .weekly = .ok out ∧ out.values = [1, 2] := by
  obtain ⟨⟨clamp, hok, _, _, _, hresampled⟩, hexact⟩ :=
    clamped_returns_keep_periods plainTexts thursdayResponse (fridayReturns (1 : ℚ) 2) .weekly
      firstMonday nextThursday nofun (by decide +kernel) (by decide +kernel) (by decide)
      (by decide) (fun point hpoint => (fridays_weekly 1 2 point hpoint).1)
      (fun point hpoint => (fridays_weekly 1 2 point hpoint).2)
  have hpoints : normalizeReturnPointsToResolvedWindow plainTexts thursdayResponse
      (fridayReturns (1 : ℚ) 2) .weekly =
        .ok ((throughThursday 1 2).points.map fun p => ⟨p.1, p.2⟩) := by
    decide +kernel
  have hclamped := Except.ok.inj (hok.symm.trans hpoints)
  have hsource : ∀ p ∈ (throughThursday (1 : ℚ) 2).points,
      ∃ point ∈ fridayReturns (1 : ℚ) 2, p = (clamp point.date, point.value) := by
    intro p hp
    have hmem : (⟨p.1, p.2⟩ : ReturnPoint ℚ) ∈ (fridayReturns (1 : ℚ) 2).map
        fun point => { point with date := clamp point.date } := by
      rw [hclamped]
      exact List.mem_map.2 ⟨p, hp, rfl⟩
    obtain ⟨point, hpoint, heq⟩ := List.mem_map.1 hmem
    rw [ReturnPoint.mk.injEq] at heq
    exact ⟨point, hpoint, Prod.ext heq.1.symm heq.2.symm⟩
  have hruns : (resampleReturns (throughThursday (1 : ℚ) 2) .weekly).toOption.isSome = true := by
    decide +kernel
  obtain ⟨out, hout⟩ := ok_of_isSome hruns
  have hvalues := ((hresampled _ (List.cons_ne_nil _ _) (numbers_exact _) hsource).2 out hout).1
  refine ⟨out, hpoints, hout, ?_⟩
  rw [hvalues, throughThursday, List.map_cons, List.map_singleton, hexact, hexact]

/-- A single return is not compounded to itself. -/
theorem clamped_return_recompounded : ∃ out : Series Date Float,
    normalizeReturnPointsToResolvedWindow plainTexts thursdayResponse
        (fridayReturns (0.85 : Float) 2) .weekly =
      .ok ((throughThursday 0.85 2).points.map fun p => ⟨p.1, p.2⟩) ∧
    resampleReturns (throughThursday 0.85 2) .weekly = .ok out ∧
    out.values ≠ (throughThursday 0.85 2).values := by
  have hruns : (resampleReturns (throughThursday (0.85 : Float) 2) .weekly).toOption.any
      (fun out => out.values ≠ (throughThursday 0.85 2).values) = true := by
    decide +kernel
  obtain ⟨out, hout, hvalues⟩ := ok_of_any hruns
  exact ⟨out, by decide +kernel, hout, of_decide_eq_true hvalues⟩

end Normalized

end LotusRisk
