import Mathlib.Data.List.GetD
import LotusRisk.Drawdown.Episodes

namespace LotusRisk
open MaximalRuns
set_option autoImplicit true

variable {α : Type} [LinearOrder α] [Zero α] {context : EpisodeBuildContext α}

/-- The drawdown at an index is negative. -/
def underwater (values : List α) (i : Nat) : Bool := decide (values.getD i 0 < 0)

theorem lt_length_of_underwater {values : List α} (h : underwater values i = true) :
    i < values.length := by
  apply Nat.lt_of_not_le
  intro hle
  rw [underwater, List.getD_eq_default _ _ hle, decide_eq_true_eq] at h
  exact lt_irrefl _ h

/-- Dates and values belong to each other, and the dates ascend. -/
structure EpisodeBuildContext.WellFormed (context : EpisodeBuildContext α) : Prop where
  length_dates : context.dates.length = context.values.length
  ascending : context.dates.Pairwise (· < ·)

/-- What an episode reports about the run of underwater indices from `s` up to `e`. -/
structure IsEpisode (context : EpisodeBuildContext α) (s e : Nat) (episode : EpisodeRecord α) :
    Prop where
  peakDate_eq : episode.peakDate = if s = 0 then none else context.dates[s - 1]?
  recoveryDate_eq : episode.recoveryDate = context.dates[e]?
  isRecovered_eq : episode.isRecovered = decide (e < context.values.length)
  trough : ∃ t, s ≤ t ∧ t < e ∧ context.dates[t]? = some episode.troughDate ∧
    context.values[t]? = some episode.depth ∧
    ∀ j, s ≤ j → j < t → episode.depth < context.values.getD j 0
  depth_le : ∀ j, s ≤ j → j < e → episode.depth ≤ context.values.getD j 0
  daysToTrough_eq : episode.daysToTrough = episode.peakDate.map (fun peak =>
    durationDays peak episode.troughDate context.durationUnit)
  daysToRecovery_eq : episode.daysToRecovery = episode.recoveryDate.map (fun recovery =>
    durationDays episode.troughDate recovery context.durationUnit)
  totalDays_eq : e < context.values.length → episode.totalDays = episode.peakDate.bind
    (fun peak => episode.recoveryDate.map (fun recovery =>
      durationDays peak recovery context.durationUnit))

/-- The record built for the run from `s` up to `e`. -/
def episodeOfRun (context : EpisodeBuildContext α) (run : Nat × Nat) :
    Option (EpisodeRecord α) := do
  let peakDate ← episodePeakDate context.dates run.1
  episodeRecordFromSegment context.dates context.values run.1 peakDate context.durationUnit
    (if run.2 < context.values.length then some run.2 else none)

theorem exists_episodePeakDate (dates : List Date) (h : index < dates.length) : ∃ peakDate,
    episodePeakDate dates index = some peakDate ∧
      peakDate = if index = 0 then none else dates[index - 1]? := by
  unfold episodePeakDate
  cases index with
  | zero => exact ⟨none, rfl, rfl⟩
  | succ i =>
    have hi : i < dates.length := by omega
    refine ⟨some dates[i], ?_, ?_⟩
    · simp [List.getElem?_eq_getElem hi]
    · simp [List.getElem?_eq_getElem hi]

omit [LinearOrder α] [Zero α] in
/-- The indices of a run and of the recovery after it. -/
theorem getElem?_segment (values : List α) (s stop j : Nat) (h : s + j ≤ stop) :
    ((values.take (stop + 1)).drop s)[j]? = values[s + j]? := by
  rw [List.getElem?_drop, List.getElem?_take_of_lt (by omega)]

/-- The least value of a segment is reached inside the run. -/
theorem exists_trough {values : List α} (hrun : IsMaximalRun (underwater values) values.length s e)
    (segment : List α)
    (hsegment : segment = (values.take
      ((if e < values.length then some e else none).getD (values.length - 1) + 1)).drop s) :
    ∃ depth, segment.min? = some depth ∧ s + Series.argmin segment < e ∧
      values[s + Series.argmin segment]? = some depth ∧
      (∀ j, s ≤ j → j < e → depth ≤ values.getD j 0) ∧
      ∀ j, s ≤ j → j < s + Series.argmin segment → depth < values.getD j 0 := by
  have hne := hrun.nonempty
  have hle := hrun.inBounds
  -- the segment ends at the recovery, or at the end of the values
  obtain ⟨stop, hstop, hsegment⟩ : ∃ stop, (stop = e ∧ e < values.length ∨
      stop + 1 = e ∧ e = values.length) ∧ segment = (values.take (stop + 1)).drop s := by
    by_cases he : e < values.length
    · rw [if_pos he] at hsegment
      exact ⟨e, .inl ⟨rfl, he⟩, hsegment⟩
    · rw [if_neg he] at hsegment
      exact ⟨values.length - 1, .inr ⟨by omega, by omega⟩, hsegment⟩
  have hlen : segment.length = stop + 1 - s := by
    rw [hsegment, List.length_drop, List.length_take]
    omega
  have hget : ∀ j (hj : j < segment.length), segment[j] = values.getD (s + j) 0 := by
    intro j hj
    have h := getElem?_segment values s stop j (by omega)
    rw [← hsegment, List.getElem?_eq_getElem hj] at h
    rw [List.getD_eq_getElem?_getD, ← h, Option.getD_some]
  have hpos : segment ≠ [] := List.ne_nil_of_length_pos (by omega)
  have hk := Series.argmin_lt_length hpos
  have hlow : ∀ j, s ≤ j → j < e → segment[Series.argmin segment] ≤ values.getD j 0 := by
    intro j hj hje
    have hjs : j - s < segment.length := by omega
    have h := Series.getElem_argmin_le hk (List.getElem_mem hjs)
    rwa [hget (j - s) hjs, Nat.add_sub_cancel' hj] at h
  have hneg : segment[Series.argmin segment] < 0 :=
    (hlow s (Nat.le_refl _) hne).trans_lt (of_decide_eq_true (hrun.inside s (Nat.le_refl _) hne))
  have hke : s + Series.argmin segment < e := by
    apply Nat.lt_of_not_le
    intro hge
    have hlast : s + Series.argmin segment = e := by omega
    rcases hrun.after with h | h
    · omega
    · rw [hget _ hk, hlast] at hneg
      exact absurd hneg (of_decide_eq_false h)
  refine ⟨segment[Series.argmin segment], ?_, hke, ?_, hlow, ?_⟩
  · rw [List.min?_eq_some_iff]
    exact ⟨List.getElem_mem hk, fun y hy => Series.getElem_argmin_le hk hy⟩
  · have hlt : s + Series.argmin segment < values.length := by omega
    rw [hget _ hk, List.getElem?_eq_getElem hlt, List.getD_eq_getElem _ _ hlt]
  · intro j hj hjk
    have hjs : j - s < Series.argmin segment := by omega
    have h := Series.lt_of_lt_argmin hk hjs
    rwa [hget (j - s) (by omega), Nat.add_sub_cancel' hj] at h

theorem exists_episodeOfRun (hw : context.WellFormed)
    (hrun : IsMaximalRun (underwater context.values) context.values.length s e) :
    ∃ episode, episodeOfRun context (s, e) = some episode ∧ IsEpisode context s e episode := by
  have hne := hrun.nonempty
  have hle := hrun.inBounds
  have hlen := hw.length_dates
  have hsd : s < context.dates.length := by omega
  obtain ⟨peakDate, hpeak, hpeakEq⟩ := exists_episodePeakDate context.dates hsd
  obtain ⟨depth, hdepth, htrough, hvalue, hlow, hfirst⟩ := exists_trough hrun _ rfl
  have ht : s + Series.argmin ((context.values.take
      ((if e < context.values.length then some e else none).getD (context.values.length - 1) +
        1)).drop s) < context.dates.length := by omega
  obtain ⟨last, hlast⟩ : ∃ last, context.dates.getLast? = some last :=
    ⟨_, List.getLast?_eq_some_getLast (List.ne_nil_of_length_pos (by omega))⟩
  unfold episodeOfRun episodeRecordFromSegment
  simp only [hpeak, Option.bind_eq_bind, Option.bind_some, List.getElem?_eq_getElem ht, hdepth,
    hlast]
  by_cases he : e < context.values.length
  · have hed : e < context.dates.length := by omega
    simp only [if_pos he, List.getElem?_eq_getElem hed, Option.map_some, Option.bind_some]
    simp only [if_pos he] at htrough hvalue hfirst
    refine ⟨_, rfl, ⟨hpeakEq, ?_, ?_, ⟨_, Nat.le_add_right _ _, htrough, ?_, hvalue, hfirst⟩,
      hlow, rfl, rfl, ?_⟩⟩
    · exact (List.getElem?_eq_getElem hed).symm
    · exact (decide_eq_true he).symm
    · exact List.getElem?_eq_getElem _
    · intro _
      cases peakDate with
      | none => rfl
      | some peak => rfl
  · have hed : context.dates[e]? = none := List.getElem?_eq_none (by omega)
    simp only [if_neg he]
    simp only [if_neg he] at htrough hvalue hfirst
    refine ⟨_, rfl, ⟨hpeakEq, hed.symm, ?_, ⟨_, Nat.le_add_right _ _, htrough, ?_, hvalue,
      hfirst⟩, hlow, rfl, rfl, fun h => absurd h he⟩⟩
    · exact (decide_eq_false he).symm
    · exact List.getElem?_eq_getElem _

/-- The run open at index `idx`. -/
def EpisodeScan.openRun (scan : EpisodeScan α) : Option Nat :=
  if scan.inEpisode then some scan.startIndex else none

/-- The open episode has the peak date of its first index. -/
def EpisodeScan.PeakKnown (context : EpisodeBuildContext α) (scan : EpisodeScan α) : Prop :=
  scan.inEpisode = true → episodePeakDate context.dates scan.startIndex = some scan.peakDate

/-- What the loop still appends is one record for each run it still closes. -/
theorem scanEpisodes_eq (hw : context.WellFormed) {rest : List α} (scan : EpisodeScan α)
    (hrest : context.values.drop idx = rest) (hidx : idx ≤ context.values.length)
    (hpeak : scan.PeakKnown context)
    (hopen : Scanned (underwater context.values) idx scan.openRun) :
    ∃ records, ((scanEpisodes context scan rest idx).bind (fun scan =>
        if scan.inEpisode then appendEpisodeRecord context scan none else some scan.episodes)) =
        some (scan.episodes ++ records) ∧
      List.Forall₂ (fun run episode => episodeOfRun context run = some episode)
        (runsFrom (underwater context.values) rest.length idx scan.openRun) records := by
  induction rest generalizing idx scan with
  | nil =>
    have hend : idx = context.values.length := by
      have h := List.drop_eq_nil_iff.1 hrest
      omega
    simp only [scanEpisodes, Option.bind_some, List.length_nil]
    cases hin : scan.inEpisode with
    | false =>
      refine ⟨[], by simp, ?_⟩
      simp only [EpisodeScan.openRun, hin, runsFrom, Bool.false_eq_true, if_false]
      exact .nil
    | true =>
      have hrun := (mem_runsFrom (k := 0) (s := scan.startIndex) (e := idx) hopen).1 (by
        simp [EpisodeScan.openRun, hin, runsFrom])
      rw [Nat.add_zero, hend] at hrun
      obtain ⟨episode, hepisode, _⟩ := exists_episodeOfRun hw hrun.1
      refine ⟨[episode], ?_, ?_⟩
      · simp only [episodeOfRun, hpeak hin, Option.bind_eq_bind, Option.bind_some, lt_irrefl,
          if_false] at hepisode
        simp [appendEpisodeRecord, hepisode]
      · simp only [EpisodeScan.openRun, hin, runsFrom, if_true, hend]
        exact .cons hepisode .nil
  | cons ddValue rest ih =>
    have hlt : idx < context.values.length := by
      have h := congrArg List.length hrest
      rw [List.length_drop, List.length_cons] at h
      omega
    have hvalue : context.values[idx] = ddValue ∧ context.values.drop (idx + 1) = rest := by
      rw [List.drop_eq_getElem_cons hlt] at hrest
      exact List.cons.inj hrest
    have hunder : underwater context.values idx = decide (ddValue < 0) := by
      rw [underwater, List.getD_eq_getElem _ _ hlt, hvalue.1]
    have hstep := fun scan => ih scan hvalue.2 hlt
    rw [scanEpisodes, Option.bind_eq_bind, List.length_cons]
    cases hin : scan.inEpisode with
    | false =>
      have hclosed : scan.openRun = none := by simp [EpisodeScan.openRun, hin]
      rw [hclosed] at hopen ⊢
      rw [runsFrom, hunder]
      by_cases hneg : ddValue < 0
      · -- an episode starts
        obtain ⟨peakDate, hpeakDate, _⟩ := exists_episodePeakDate context.dates
          (hw.length_dates ▸ hlt : idx < context.dates.length)
        have hq := hunder.trans (decide_eq_true hneg)
        simp only [scanEpisode, hin, hneg, hpeakDate, Bool.not_false, decide_true, Bool.and_self,
          if_true, Option.bind_eq_bind, Option.bind_some]
        exact hstep { scan with inEpisode := true, startIndex := idx, peakDate := peakDate }
          (fun _ => hpeakDate) (Scanned.start hopen hq)
      · have hq := hunder.trans (decide_eq_false hneg)
        simp only [scanEpisode, hin, hneg, Bool.not_false, decide_false, Bool.and_false,
          Bool.false_and, Bool.false_eq_true, if_false, Option.bind_some]
        have hnext := hstep scan hpeak (hclosed ▸ Scanned.close hq)
        rwa [hclosed] at hnext
    | true =>
      have hopened : scan.openRun = some scan.startIndex := by simp [EpisodeScan.openRun, hin]
      rw [hopened] at hopen ⊢
      rw [runsFrom, hunder]
      by_cases hneg : ddValue < 0
      · have hq := hunder.trans (decide_eq_true hneg)
        have hge : ¬ 0 ≤ ddValue := not_le.2 hneg
        simp only [scanEpisode, hin, hneg, hge, Bool.not_true, decide_false, decide_true,
          Bool.and_false, Bool.false_and, Bool.false_eq_true, if_false, if_true, Option.bind_some]
        have hnext := hstep scan hpeak (hopened ▸ Scanned.open_step hopen hq)
        rwa [hopened] at hnext
      · -- the open episode has recovered
        have hge : 0 ≤ ddValue := not_lt.1 hneg
        have hq := hunder.trans (decide_eq_false hneg)
        have hrun : IsMaximalRun (underwater context.values) context.values.length
            scan.startIndex idx :=
          ⟨hopen.1, hlt.le, hopen.2.1, hopen.2.2, .inr hq⟩
        obtain ⟨episode, hepisode, _⟩ := exists_episodeOfRun hw hrun
        obtain ⟨records, hrecords, hall⟩ :=
          hstep { scan with episodes := scan.episodes ++ [episode], inEpisode := false }
            (fun h => absurd h Bool.false_ne_true) (Scanned.close hq)
        refine ⟨episode :: records, ?_, ?_⟩
        · simp only [episodeOfRun, hpeak hin, Option.bind_eq_bind, Option.bind_some, hlt,
            if_true] at hepisode
          have happend : appendEpisodeRecord context scan (some idx) =
              some (scan.episodes ++ [episode]) := by
            simp only [appendEpisodeRecord, hepisode, Option.bind_eq_bind, Option.bind_some]
          simp only [scanEpisode, hin, hge, happend, Bool.not_true, decide_true, Bool.false_and,
            Bool.and_self, Bool.false_eq_true, if_false, if_true, Option.bind_eq_bind,
            Option.bind_some]
          simpa using hrecords
        · rw [if_neg (by simpa using hge)]
          exact .cons hepisode hall

theorem buildEpisodesFromValues_eq (hw : context.WellFormed) (hne : context.dates ≠ []) :
    ∃ episodes, buildEpisodesFromValues context.dates context.values context.durationUnit =
        some episodes ∧
      List.Forall₂ (fun run episode => IsEpisode context run.1 run.2 episode)
        (runs (underwater context.values) context.values.length) episodes := by
  obtain ⟨first, hfirst⟩ : ∃ first, context.dates[0]? = some first :=
    ⟨_, List.getElem?_eq_getElem (List.length_pos_of_ne_nil hne)⟩
  obtain ⟨records, hrecords, hall⟩ := scanEpisodes_eq hw
    { episodes := [], inEpisode := false, startIndex := 0, peakDate := some first }
    List.drop_zero (Nat.zero_le _) (fun h => absurd h Bool.false_ne_true) Scanned.zero
  refine ⟨records, ?_, ?_⟩
  · rw [buildEpisodesFromValues, hfirst]
    exact hrecords
  · have hrun : ∀ run ∈ runs (underwater context.values) context.values.length, ∀ episode,
        episodeOfRun context run = some episode → IsEpisode context run.1 run.2 episode := by
      intro run hrun episode hepisode
      obtain ⟨episode', hepisode', hspec⟩ := exists_episodeOfRun hw (mem_runs.1 hrun)
      cases hepisode.symm.trans hepisode'
      exact hspec
    rw [List.forall₂_iff_get] at hall ⊢
    refine ⟨hall.1, ?_⟩
    intro i hi hi'
    exact hrun _ (List.get_mem _ _) _ (hall.2 i hi hi')

/-- The dates around a recovered episode ascend, so its durations add up. -/
theorem IsEpisode.totalDays_add {episode : EpisodeRecord α} (hw : context.WellFormed)
    (h : IsEpisode context s e episode) (hrecovered : episode.isRecovered = true)
    (hpeak : episode.peakDate ≠ none) : ∃ toTrough toRecovery,
      episode.daysToTrough = some toTrough ∧ episode.daysToRecovery = some toRecovery ∧
        episode.totalDays = some (toTrough + toRecovery) := by
  have he : e < context.values.length := of_decide_eq_true (h.isRecovered_eq ▸ hrecovered)
  obtain ⟨t, hst, hte, htrough, _⟩ := h.trough
  have hasc := List.pairwise_iff_getElem.1 hw.ascending
  have hlen := hw.length_dates
  obtain ⟨peak, hpeak⟩ := Option.ne_none_iff_exists'.1 hpeak
  have hs : s ≠ 0 := by
    intro hs
    rw [h.peakDate_eq, if_pos hs] at hpeak
    cases hpeak
  have hpeakAt : context.dates[s - 1]? = some peak := by
    rw [← hpeak, h.peakDate_eq, if_neg hs]
  obtain ⟨_, hpeakEq⟩ := List.getElem?_eq_some_iff.1 hpeakAt
  obtain ⟨_, htroughEq⟩ := List.getElem?_eq_some_iff.1 htrough
  have hrecovery : episode.recoveryDate = some context.dates[e] := by
    rw [h.recoveryDate_eq]
    exact List.getElem?_eq_getElem (by omega)
  have hpt : peak ≤ episode.troughDate := by
    rw [← hpeakEq, ← htroughEq]
    exact (hasc (s - 1) t (by omega) (by omega) (by omega)).le
  have htr : episode.troughDate ≤ context.dates[e] := by
    rw [← htroughEq]
    exact (hasc t e (by omega) (by omega) hte).le
  refine ⟨durationDays peak episode.troughDate context.durationUnit,
    durationDays episode.troughDate context.dates[e] context.durationUnit, ?_, ?_, ?_⟩
  · rw [h.daysToTrough_eq, hpeak, Option.map_some]
  · rw [h.daysToRecovery_eq, hrecovery, Option.map_some]
  · rw [h.totalDays_eq he, hpeak, hrecovery, durationDays_add hpt htr]
    rfl

omit [Zero α] in
theorem le_foldl_min {l : List α} : m ≤ l.foldl min a ↔ m ≤ a ∧ ∀ x ∈ l, m ≤ x := by
  induction l generalizing a with
  | nil => simp
  | cons x l ih => simp [ih, and_assoc]

theorem episode_at {episodes : List (EpisodeRecord α)}
    (h : List.Forall₂ (fun run episode => IsEpisode context run.1 run.2 episode)
      (runs (underwater context.values) context.values.length) episodes)
    (hk : k < (runs (underwater context.values) context.values.length).length)
    (hk' : k < episodes.length) :
    IsEpisode context (runs (underwater context.values) context.values.length)[k].1
      (runs (underwater context.values) context.values.length)[k].2 episodes[k] :=
  (List.forall₂_iff_get.1 h).2 k hk hk'

/-- The deepest episode is as deep as the deepest value. -/
theorem maxDrawdown_eq_foldl_min {episodes : List (EpisodeRecord α)}
    (h : List.Forall₂ (fun run episode => IsEpisode context run.1 run.2 episode)
      (runs (underwater context.values) context.values.length) episodes) :
    (drawdownExtremeFields episodes).maxDrawdown = context.values.foldl min 0 := by
  have hlen := h.length_eq
  have hbelow : ∀ m, m ≤ 0 → (∀ i (hi : i < episodes.length), m ≤ episodes[i].depth) →
      m ≤ context.values.foldl min 0 := by
    intro m hm hdepth
    refine le_foldl_min.2 ⟨hm, ?_⟩
    intro x hx
    obtain ⟨i, hi, hxi⟩ := List.getElem_of_mem hx
    have hgetD : context.values.getD i 0 = x := by rw [List.getD_eq_getElem _ _ hi, hxi]
    rcases lt_or_ge x 0 with hneg | hpos
    · have hq : underwater context.values i = true := decide_eq_true (hgetD ▸ hneg)
      obtain ⟨run, hrun, hs, he⟩ := (covered_iff hi).1 hq
      obtain ⟨k, hk, hrunk⟩ := List.getElem_of_mem hrun
      have hspec := episode_at h hk (hlen ▸ hk)
      rw [hrunk] at hspec
      rw [← hgetD]
      exact (hdepth k (hlen ▸ hk)).trans (hspec.depth_le i hs he)
    · exact hm.trans hpos
  have habove : ∀ i (hi : i < episodes.length),
      context.values.foldl min 0 ≤ episodes[i].depth ∧ episodes[i].depth ≤ 0 := by
    intro i hi
    obtain ⟨t, hst, hte, _, hdepth, _⟩ := (episode_at h (hlen ▸ hi) hi).trough
    obtain ⟨ht, hvalue⟩ := List.getElem?_eq_some_iff.1 hdepth
    have hneg := of_decide_eq_true
      ((mem_runs.1 (List.getElem_mem (hlen ▸ hi))).inside t hst hte)
    rw [List.getD_eq_getElem _ _ ht] at hneg
    have hlow := (le_foldl_min.1 (le_refl (context.values.foldl min 0))).2 _
      (List.getElem_mem ht)
    rw [hvalue] at hlow hneg
    exact ⟨hlow, hneg.le⟩
  have hlow := (le_foldl_min.1 (le_refl (context.values.foldl min 0))).1
  unfold drawdownExtremeFields
  by_cases hne : episodes = []
  · subst hne
    exact le_antisymm (hbelow 0 le_rfl (fun i hi => absurd hi (Nat.not_lt_zero i))) hlow
  · obtain ⟨k, hk, hmin, hleast, _⟩ := Series.exists_minBy EpisodeRecord.depth hne
    rw [hmin]
    exact le_antisymm (hbelow _ (habove k hk).2 hleast) (habove k hk).1

/-- Only the last episode is unrecovered, when the series ends under water. -/
theorem isRecovered_of_mem_dropLast {episodes : List (EpisodeRecord α)}
    (h : List.Forall₂ (fun run episode => IsEpisode context run.1 run.2 episode)
      (runs (underwater context.values) context.values.length) episodes)
    (hmem : episode ∈ episodes.dropLast) : episode.isRecovered = true := by
  have hbefore := List.forall₂_take (episodes.length - 1) h
  rw [← List.dropLast_eq_take, ← h.length_eq, ← List.dropLast_eq_take] at hbefore
  obtain ⟨run, hrun, hspec⟩ := exists_of_mem_right hbefore hmem
  rw [hspec.isRecovered_eq]
  exact decide_eq_true (end_lt_of_mem_dropLast hrun)

theorem getLast?_unrecovered_iff {episodes : List (EpisodeRecord α)}
    (h : List.Forall₂ (fun run episode => IsEpisode context run.1 run.2 episode)
      (runs (underwater context.values) context.values.length) episodes)
    (hpos : 0 < context.values.length) :
    (∃ episode, episodes.getLast? = some episode ∧ episode.isRecovered = false) ↔
      underwater context.values (context.values.length - 1) = true := by
  rw [← exists_end_eq_iff hpos]
  constructor
  · rintro ⟨episode, hlast, hopen⟩
    obtain ⟨run, hrun, hspec⟩ := exists_of_mem_right h (List.mem_of_getLast? hlast)
    have hle := (mem_runs.1 hrun).inBounds
    rw [hspec.isRecovered_eq, decide_eq_false_iff_not] at hopen
    exact ⟨run, hrun, by omega⟩
  · rintro ⟨run, hrun, hend⟩
    obtain ⟨episode, hepisode, hspec⟩ := exists_of_mem_right h.flip hrun
    have hopen : episode.isRecovered = false := by
      rw [hspec.isRecovered_eq, hend, decide_eq_false_iff_not]
      exact lt_irrefl _
    have hne := List.ne_nil_of_mem hepisode
    rw [← List.dropLast_concat_getLast hne, List.mem_append, List.mem_singleton] at hepisode
    rcases hepisode with hepisode | hepisode
    · exact absurd ((isRecovered_of_mem_dropLast h hepisode).symm.trans hopen) (by decide)
    · exact ⟨episode, hepisode ▸ List.getLast?_eq_some_getLast hne, hopen⟩

/-- The extreme episode is the one around the first deepest value. -/
theorem exists_extreme_episode {episodes : List (EpisodeRecord α)}
    (h : List.Forall₂ (fun run episode => IsEpisode context run.1 run.2 episode)
      (runs (underwater context.values) context.values.length) episodes)
    (hneg : context.values.getD t 0 < 0)
    (hdeepest : ∀ i < context.values.length, context.values.getD t 0 ≤ context.values.getD i 0)
    (hfirst : ∀ i < t, context.values.getD t 0 < context.values.getD i 0) :
    ∃ s e episode, IsMaximalRun (underwater context.values) context.values.length s e ∧
      s ≤ t ∧ t < e ∧ IsEpisode context s e episode ∧
      Series.minBy EpisodeRecord.depth episodes = some episode ∧
      context.dates[t]? = some episode.troughDate ∧ episode.depth = context.values.getD t 0 := by
  have hlen := h.length_eq
  have hq : underwater context.values t = true := decide_eq_true hneg
  obtain ⟨around, haround, hs, he⟩ := (covered_iff (lt_length_of_underwater hq)).1 hq
  obtain ⟨m, hm, hmrun⟩ := List.getElem_of_mem haround
  have hm' : m < episodes.length := hlen ▸ hm
  have hmspec := episode_at h hm hm'
  rw [hmrun] at hmspec
  have hne : episodes ≠ [] := List.ne_nil_of_length_pos (by omega)
  obtain ⟨k, hk, hmin, hleast, hbefore⟩ := Series.exists_minBy EpisodeRecord.depth hne
  have hkr : k < (runs (underwater context.values) context.values.length).length := hlen ▸ hk
  have hkspec := episode_at h hkr hk
  obtain ⟨j, hsj, hje, hjdate, hjvalue, hjfirst⟩ := hkspec.trough
  obtain ⟨hjlt, hjeq⟩ := List.getElem?_eq_some_iff.1 hjvalue
  have hjdepth : episodes[k].depth = context.values.getD j 0 := by
    rw [List.getD_eq_getElem _ _ hjlt, hjeq]
  have hmdepth : episodes[m].depth ≤ context.values.getD t 0 :=
    hmspec.depth_le t hs he
  have heq : context.values.getD j 0 = context.values.getD t 0 :=
    le_antisymm (hjdepth ▸ (hleast m (hlen ▸ hm)).trans hmdepth) (hdeepest j hjlt)
  have htj : t ≤ j := by
    apply Nat.le_of_not_lt
    intro hlt
    exact absurd (hfirst j hlt) (not_lt.2 heq.le)
  -- the first deepest value cannot lie in a later episode, nor in an earlier one
  have hkm : k = m := by
    rcases Nat.lt_trichotomy k m with hlt | heq' | hgt
    · have hsep := List.pairwise_iff_getElem.1 (pairwise_runs (q := underwater context.values)
        (n := context.values.length)) k m hkr hm hlt
      rw [hmrun] at hsep
      omega
    · exact heq'
    · have hless := (hbefore m hgt).trans_le hmdepth
      exact absurd hless (not_lt.2 (hjdepth ▸ heq.ge))
  subst hkm
  simp only [hmrun] at hkspec hsj hje hjfirst
  have hjt : j = t := by
    apply Nat.le_antisymm _ htj
    apply Nat.le_of_not_lt
    intro hlt
    have hless := hjfirst t hs hlt
    rw [hjdepth, heq] at hless
    exact lt_irrefl _ hless
  rw [hjt] at hjdate hjdepth
  exact ⟨around.1, around.2, _, mem_runs.1 haround, hs, he, hkspec, hmin, hjdate, hjdepth⟩

/-- The episodes are the maximal runs of negative values. -/
theorem episodes_partition (dates : List Date) (values : List α) (durationUnit : DurationUnit)
    (hne : dates ≠ []) (hlen : dates.length = values.length)
    (hascending : dates.Pairwise (· < ·)) :
    ∃ episodes runs, buildEpisodesFromValues dates values durationUnit = some episodes ∧
      (∀ s e, (s, e) ∈ runs ↔ IsMaximalRun (underwater values) values.length s e) ∧
      runs.Pairwise (fun r r' => r.2 < r'.1) ∧
      (∀ i < values.length, underwater values i = true ↔ ∃ r ∈ runs, r.1 ≤ i ∧ i < r.2) ∧
      List.Forall₂ (fun r episode => IsEpisode ⟨dates, values, durationUnit⟩ r.1 r.2 episode)
        runs episodes ∧
      (∀ episode ∈ episodes.dropLast, episode.isRecovered = true) ∧
      ((∃ episode, episodes.getLast? = some episode ∧ episode.isRecovered = false) ↔
        underwater values (values.length - 1) = true) ∧
      (drawdownExtremeFields episodes).maxDrawdown = values.foldl min 0 ∧
      ∀ episode ∈ episodes, episode.isRecovered = true → episode.peakDate ≠ none →
        ∃ toTrough toRecovery, episode.daysToTrough = some toTrough ∧
          episode.daysToRecovery = some toRecovery ∧
          episode.totalDays = some (toTrough + toRecovery) := by
  have hw : EpisodeBuildContext.WellFormed ⟨dates, values, durationUnit⟩ := ⟨hlen, hascending⟩
  obtain ⟨episodes, hepisodes, hall⟩ := buildEpisodesFromValues_eq hw hne
  refine ⟨episodes, runs (underwater values) values.length, hepisodes, ?_, pairwise_runs, ?_, hall,
    ?_, ?_, maxDrawdown_eq_foldl_min hall, ?_⟩
  · intro s e
    exact mem_runs
  · intro i hi
    exact covered_iff hi
  · intro episode hepisode
    exact isRecovered_of_mem_dropLast hall hepisode
  · exact getLast?_unrecovered_iff hall (hlen ▸ List.length_pos_of_ne_nil hne)
  · intro episode hepisode hrecovered hpeak
    obtain ⟨run, hrun, hspec⟩ := exists_of_mem_right hall hepisode
    exact hspec.totalDays_add hw hrecovered hpeak

/-- A dip that recovers, and one that does not. -/
def twoDips : Series Date ℤ where
  index := firstWeek
  values := [-2, 0, -1, -3]
  length_values := rfl
  ascending := firstWeek_ascending

theorem episodes_partition_twoDips : ∃ episodes,
    buildEpisodesFromValues twoDips.index twoDips.values .businessDays = some episodes ∧
      (∃ episode, episodes.getLast? = some episode ∧ episode.isRecovered = false) ∧
      (drawdownExtremeFields episodes).maxDrawdown = -3 := by
  obtain ⟨episodes, runs, hbuild, _, _, _, _, _, hlast, hmax, _⟩ :=
    episodes_partition twoDips.index twoDips.values .businessDays (by decide) rfl
      firstWeek_ascending
  exact ⟨episodes, hbuild, hlast.2 (by decide), hmax.trans (by decide)⟩

end LotusRisk
