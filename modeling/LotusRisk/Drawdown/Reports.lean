import LotusRisk.Drawdown.Agreement
import LotusRisk.Drawdown.Periods
import LotusRisk.Risk.MandateHealth

/-! What a drawdown calculation reports of a period: its episodes, the deepest of them and the
drawdown against the benchmark. -/

namespace LotusRisk
set_option autoImplicit true

open Relational MaximalRuns

section Paths

variable {K : Type} [Field K] [LinearOrder K]

/-- The summary and the episodes of a path below its peak. -/
structure SummarizesPath (options : DrawdownAnalysisOptions K) (path : Series Date K)
    (summary : DrawdownSummary K) (episodes : List (EpisodeRecord K)) : Prop where
  episodes_eq : List.Forall₂ (fun run episode =>
      IsEpisode ⟨path.index, path.values, options.durationUnit⟩ run.1 run.2 episode)
    (runs (underwater path.values) path.values.length) episodes
  maxDrawdown_eq : summary.maxDrawdown = some (path.values.foldl min 0)
  timeUnderWater_eq : summary.timeUnderWaterDays = path.values.countP fun dd => decide (dd < 0)
  extreme : ∀ episode, Series.minBy EpisodeRecord.depth episodes = some episode →
    summary.maxDrawdown = some episode.depth ∧
    summary.maxDrawdownPeakDate = episode.peakDate ∧
    summary.maxDrawdownTroughDate = some episode.troughDate ∧
    summary.maxDrawdownRecoveryDate = episode.recoveryDate ∧
    summary.isRecovered = episode.isRecovered ∧ summary.daysToTrough = episode.daysToTrough ∧
    summary.daysToRecovery = episode.daysToRecovery

variable [IsStrictOrderedRing K]

theorem DrawdownAnalysisOptions.level_bounds (options : DrawdownAnalysisOptions K) :
    0 ≤ 1 - options.cdarAlpha ∧ 1 - options.cdarAlpha ≤ 1 := by
  rcases options.alpha_allowed with h | h | h <;> rw [h] <;> norm_num

variable [FloorRing K]

/-- A path of at least one day is always summarized. -/
theorem summaryOfPath_ok (sqrt : K → K) (options : DrawdownAnalysisOptions K)
    (path : Series Date K) (hne : path.index ≠ []) :
    ∃ summary episodes, summaryOfPath sqrt options path = .ok (summary, episodes) ∧
      SummarizesPath options path summary episodes := by
  have hw : EpisodeBuildContext.WellFormed ⟨path.index, path.values, options.durationUnit⟩ :=
    ⟨path.length_values.symm, path.ascending⟩
  obtain ⟨episodes, hepisodes, hall⟩ := buildEpisodesFromValues_eq hw hne
  obtain ⟨risk, hrisk⟩ := exists_tailDrawdownRisk (episodes.map EpisodeRecord.depth)
    options.level_bounds.1 options.level_bounds.2
  have hindex : ¬path.isEmpty = true := by
    rw [Series.isEmpty, List.isEmpty_iff]
    exact hne
  have hvalues : ¬path.values.isEmpty = true := by
    rw [List.isEmpty_iff, ← List.length_eq_zero_iff, path.length_values, List.length_eq_zero_iff]
    exact hne
  have hsummary : ∃ summary, drawdownSummary sqrt path options.cdarAlpha options.durationUnit =
      some (summary, episodes) ∧
      summary.maxDrawdown = some (drawdownExtremeFields episodes).maxDrawdown ∧
      summary.timeUnderWaterDays = (path.values.filter fun dd => dd < 0).length ∧
      ∀ episode, Series.minBy EpisodeRecord.depth episodes = some episode →
        summary.maxDrawdown = some episode.depth ∧
        summary.maxDrawdownPeakDate = episode.peakDate ∧
        summary.maxDrawdownTroughDate = some episode.troughDate ∧
        summary.maxDrawdownRecoveryDate = episode.recoveryDate ∧
        summary.isRecovered = episode.isRecovered ∧
        summary.daysToTrough = episode.daysToTrough ∧
        summary.daysToRecovery = episode.daysToRecovery := by
    simp only [drawdownSummary, if_neg hindex, buildEpisodes, if_neg hvalues, hepisodes, hrisk,
      Option.bind_eq_bind, Option.bind_some]
    refine ⟨_, rfl, rfl, rfl, ?_⟩
    intro episode hfirst
    rw [drawdownExtremeFields, hfirst]
    exact ⟨rfl, rfl, rfl, rfl, rfl, rfl, rfl⟩
  obtain ⟨summary, hsome, hmax, htime, hextreme⟩ := hsummary
  refine ⟨summary, episodes, ?_, hall, ?_, ?_, hextreme⟩
  · rw [summaryOfPath, hsome]
  · rw [hmax, maxDrawdown_eq_foldl_min hall]
  · rw [htime, List.countP_eq_length_filter]

end Paths

section Listing

variable {K : Type} [Field K] [LinearOrder K]

/-- The depth that an episode needs to be listed. -/
def DrawdownReportOptions.leastDepth (options : DrawdownReportOptions K) : K :=
  options.minimumEpisodeDepthBps / (10000 : Nat)

/-- The listed episodes are the deepest of a period, deepest first and numbered, as many as asked
for and down to the least depth; the summary is of the first of them. -/
structure ListsWorst (options : DrawdownReportOptions K) (summary : DrawdownSummary K)
    (episodes : List (EpisodeRecord K)) (listed : List (DrawdownEpisode K)) : Prop where
  of_period : ∀ e ∈ listed, e.toEpisodeRecord ∈ episodes ∧ options.leastDepth ≤ |e.depth|
  ordered : listed.Pairwise fun a b => a.depth ≤ b.depth
  numbered : ∀ i (h : i < listed.length), listed[i].episodeId = "dd_" ++ zeroPadded 4 (i + 1)
  length_eq : listed.length = min options.topNEpisodes
    (episodes.countP fun e => decide (options.leastDepth ≤ |e.depth|))
  complete : ∀ e ∈ episodes, options.leastDepth ≤ |e.depth| →
    e ∈ listed.map DrawdownEpisode.toEpisodeRecord ∨
      listed.length = options.topNEpisodes ∧ ∀ b ∈ listed, b.depth ≤ e.depth
  first : ∀ e, listed.head? = some e → summary.maxDrawdown = some e.depth ∧
    summary.maxDrawdownPeakDate = e.peakDate ∧
    summary.maxDrawdownTroughDate = some e.troughDate ∧
    summary.maxDrawdownRecoveryDate = e.recoveryDate ∧ summary.isRecovered = e.isRecovered ∧
    summary.daysToTrough = e.daysToTrough ∧ summary.daysToRecovery = e.daysToRecovery

/-- Every episode lies below the peak. -/
theorem depth_neg {options : DrawdownAnalysisOptions K} {path : Series Date K}
    (h : SummarizesPath options path summary episodes) (he : e ∈ episodes) : e.depth < 0 := by
  obtain ⟨run, hrun, hspec⟩ := exists_of_mem_right h.episodes_eq he
  obtain ⟨t, hst, hte, _, hdepth, _⟩ := hspec.trough
  obtain ⟨ht, hvalue⟩ := List.getElem?_eq_some_iff.1 hdepth
  have hneg := of_decide_eq_true ((mem_runs.1 hrun).inside t hst hte)
  rw [List.getD_eq_getElem _ _ ht, hvalue] at hneg
  exact hneg

variable [IsStrictOrderedRing K]

/-- The listed episodes, before they are numbered. -/
def worstEpisodes (options : DrawdownReportOptions K) (episodes : List (EpisodeRecord K)) :
    List (EpisodeRecord K) :=
  Ranking.top EpisodeRecord.depth (-options.leastDepth) options.topNEpisodes episodes

theorem deep_iff {e : EpisodeRecord K} (h : e.depth < 0) :
    least ≤ |e.depth| ↔ e.depth ≤ -least := by
  rw [abs_of_neg h, le_neg]

theorem episodeModels_eq {options : DrawdownReportOptions K}
    {episodes : List (EpisodeRecord K)} (hdepths : ∀ e ∈ episodes, e.depth < 0)
    (hlist : options.includeEpisodeList = true) :
    episodeModels episodes options =
      (worstEpisodes options episodes).mapIdx fun index episode => episodeModel episode index := by
  have hfilter : (episodes.filter fun e => decide (options.leastDepth ≤ |e.depth|)) =
      episodes.filter fun e => decide (e.depth ≤ -options.leastDepth) := by
    apply List.filter_congr
    intro e he
    exact decide_eq_decide.2 (deep_iff (hdepths e he))
  rw [episodeModels, hlist, worstEpisodes, Ranking.top, ← hfilter]
  rfl

omit [Field K] [LinearOrder K] [IsStrictOrderedRing K] in
theorem records_of_models (episodes : List (EpisodeRecord K)) :
    (episodes.mapIdx fun index episode => episodeModel episode index).map
      DrawdownEpisode.toEpisodeRecord = episodes := by
  apply List.ext_getElem
  · rw [List.length_map, List.length_mapIdx]
  · intro i _ _
    rw [List.getElem_map, List.getElem_mapIdx]
    rfl

omit [IsStrictOrderedRing K] in
/-- The first of the listed episodes is the first of the deepest. -/
theorem minBy_of_head {options : DrawdownReportOptions K} {episodes : List (EpisodeRecord K)}
    (h : (worstEpisodes options episodes).head? = some e) :
    Series.minBy EpisodeRecord.depth episodes = some e := by
  obtain ⟨hmem, hle⟩ := Ranking.mem_of_top (List.mem_of_head? h)
  obtain ⟨k, hk, hmin, hleast, _⟩ :=
    Series.exists_minBy EpisodeRecord.depth (List.ne_nil_of_mem hmem)
  obtain ⟨j, hj, hje⟩ := List.getElem_of_mem hmem
  have hbound : episodes[k].depth ≤ -options.leastDepth := by
    have hlow := hleast j hj
    rw [hje] at hlow
    exact hlow.trans hle
  have hsame := Ranking.head?_top (n := options.topNEpisodes) options.top_bounds.1 hmin hbound
  rw [worstEpisodes, hsame] at h
  rw [hmin, h]

/-- The episodes that a report lists of a path. -/
theorem lists_worst {options : DrawdownReportOptions K} {path : Series Date K}
    (h : SummarizesPath options.toDrawdownAnalysisOptions path summary episodes)
    (hlist : options.includeEpisodeList = true) :
    ListsWorst options summary episodes (episodeModels episodes options) := by
  have hdepths : ∀ e ∈ episodes, e.depth < 0 := fun e he => depth_neg h he
  have hdeep : ∀ e ∈ episodes, (options.leastDepth ≤ |e.depth| ↔ e.depth ≤ -options.leastDepth) :=
    fun e he => deep_iff (hdepths e he)
  have hlisted := episodeModels_eq hdepths hlist
  have hrecords : (episodeModels episodes options).map DrawdownEpisode.toEpisodeRecord =
      worstEpisodes options episodes := by
    rw [hlisted, records_of_models]
  have hworst : ∀ e ∈ episodeModels episodes options,
      e.toEpisodeRecord ∈ worstEpisodes options episodes := by
    intro e he
    rw [← hrecords]
    exact List.mem_map_of_mem he
  have hlength : (episodeModels episodes options).length =
      (worstEpisodes options episodes).length := by
    rw [← hrecords, List.length_map]
  constructor
  · intro e he
    obtain ⟨hmem, hle⟩ := Ranking.mem_of_top (hworst e he)
    exact ⟨hmem, (hdeep _ hmem).2 hle⟩
  · have hordered := Ranking.pairwise_top EpisodeRecord.depth (-options.leastDepth)
      options.topNEpisodes episodes
    rw [← worstEpisodes, ← hrecords, List.pairwise_map] at hordered
    exact hordered
  · intro i hi
    simp only [hlisted, List.getElem_mapIdx]
    rfl
  · rw [hlength, worstEpisodes, Ranking.length_top]
    congr 1
    apply List.countP_congr
    intro e he
    rw [decide_eq_true_iff, decide_eq_true_iff]
    exact (hdeep e he).symm
  · intro e he hle
    rcases Ranking.top_complete (n := options.topNEpisodes) he ((hdeep e he).1 hle) with
      hmem | ⟨hfull, hrank⟩
    · left
      rw [hrecords]
      exact hmem
    · right
      constructor
      · rw [hlength]
        exact hfull
      · intro b hb
        exact hrank _ (hworst b hb)
  · intro e he
    have hhead : (worstEpisodes options episodes).head? = some e.toEpisodeRecord := by
      rw [← hrecords, List.head?_map, he]
      rfl
    exact h.extreme _ (minBy_of_head hhead)

end Listing

section Periods

variable {K : Type} [Field K] [LinearOrder K] [FloorRing K]

/-- The drawdown path of a period. -/
def DrawdownStatelessInput.path (request : DrawdownStatelessInput K) (start stop : Date) :
    Series Date K :=
  drawdownFromReturns ((buildInputFrames request).portfolio.between start stop)

/-- The returns of a period over those of the benchmark, on the common days. -/
def DrawdownStatelessInput.activePath (request : DrawdownStatelessInput K) (start stop : Date) :
    Series Date K :=
  drawdownFromReturns (((buildInputFrames request).portfolio.innerJoin
    (buildInputFrames request).benchmark).between start stop |>.map activeReturn)

/-- The days of a period with returns on both sides. -/
def DrawdownStatelessInput.commonCount (request : DrawdownStatelessInput K)
    (start stop : Date) : Nat :=
  (commonReturns request.returns request.benchmarkReturns start stop).length

/-- What a report says of the portfolio of a period. -/
def ReportsPortfolio (options : DrawdownReportOptions K) (path : Series Date K)
    (result : DrawdownPeriodResult K) : Prop :=
  result.portfolioObservationCount = path.index.length ∧
    (path.index = [] ∧ result.error = some "Insufficient data" ∧ result.summary = none ∧
        result.episodes = [] ∧ result.underwaterSeries = none ∨
      path.index ≠ [] ∧ result.error = none ∧
        (result.underwaterSeries = if options.includeUnderwaterSeries then some path.points
          else none) ∧
        ∃ summary episodes, result.summary = some summary ∧
          SummarizesPath options.toDrawdownAnalysisOptions path summary episodes ∧
          if options.includeEpisodeList then ListsWorst options summary episodes result.episodes
          else result.episodes = [])

/-- What a report says of a period against the benchmark. -/
def ReportsRelative (options : DrawdownReportOptions K) (includeBenchmark : Option Bool)
    (count : Nat) (path : Series Date K) (result : DrawdownPeriodResult K) : Prop :=
  result.relativeToBenchmarkContext.requested = decide (includeBenchmark = some true) ∧
    result.relativeToBenchmarkContext.alignedObservationCount = count ∧
    result.relativeToBenchmarkContext.applied = decide (0 < count) ∧
    (result.relativeToBenchmarkContext.reason = .applied ↔ 0 < count) ∧
    (count = 0 ∧ result.relativeToBenchmark = none ∨
      0 < count ∧ ∃ summary episodes,
        result.relativeToBenchmark = some (relativeDrawdownSummary summary) ∧
        SummarizesPath options.toDrawdownAnalysisOptions path summary episodes)

variable {sqrt : K → K}

omit [LinearOrder K] [FloorRing K] in
/-- The returns that are compared with the benchmark are those of the common days. -/
theorem activeReturns_eq {request : DrawdownStatelessInput K}
    (h : drawdownPeriodSeries (buildInputFrames request) request period openDate = .ok series) :
    activeReturns series = (((buildInputFrames request).portfolio.innerJoin
      (buildInputFrames request).benchmark).between series.start series.stop).map activeReturn := by
  obtain ⟨⟨start, stop⟩, _, hdone⟩ := bind_eq_ok.1 h
  cases hdone
  have hbenchmark : (if !(buildInputFrames request).benchmark.isEmpty then
      (buildInputFrames request).benchmark.between start stop else emptySeries) =
      (buildInputFrames request).benchmark.between start stop := by
    cases hempty : (buildInputFrames request).benchmark.isEmpty with
    | false => rfl
    | true =>
      apply Series.ext_points
      rw [Series.points_between_of_isEmpty hempty]
      rfl
  rw [activeReturns, Series.between_innerJoin, hbenchmark]
  rfl

omit [LinearOrder K] [FloorRing K] in
theorem length_activeReturns {series : DrawdownPeriodSeries K}
    (h : series.benchmarkReturns.isEmpty = true) : (activeReturns series).index.length = 0 := by
  rw [← Series.length_points, activeReturns, Series.points_map, List.length_map,
    List.length_eq_zero_iff, List.eq_nil_iff_forall_not_mem]
  intro p hp
  have hpoint := (Series.mem_innerJoin.1 hp).2
  rw [Series.isEmpty_iff_points.1 h] at hpoint
  cases hpoint

omit [FloorRing K] in
theorem commonCount_eq {request : DrawdownStatelessInput K} (start stop : Date) :
    request.commonCount start stop = (request.activePath start stop).index.length :=
  length_commonReturns request.returns_unique request.benchmark_unique start stop

variable [IsStrictOrderedRing K]

/-- A period is always compared with the benchmark on its common days. -/
theorem reports_relative (sqrt : K → K) {request : DrawdownStatelessInput K}
    (h : drawdownPeriodSeries (buildInputFrames request) request period openDate = .ok series)
    (options : DrawdownReportOptions K) (includeBenchmark : Option Bool) :
    ∃ relative, relativeBenchmarkResult sqrt series includeBenchmark
        options.toDrawdownAnalysisOptions = .ok relative ∧
      ∀ result : DrawdownPeriodResult K, result.relativeToBenchmark = relative.summary →
        result.relativeToBenchmarkContext = relative.context →
        ReportsRelative options includeBenchmark (request.commonCount series.start series.stop)
          (request.activePath series.start series.stop) result := by
  have hactive := activeReturns_eq h
  have hcount : request.commonCount series.start series.stop =
      (activeReturns series).index.length := by
    rw [commonCount_eq, hactive]
    rfl
  have hpath : request.activePath series.start series.stop =
      drawdownFromReturns (activeReturns series) := by
    rw [hactive]
    rfl
  rw [relativeBenchmarkResult]
  by_cases hbenchmark : series.benchmarkReturns.isEmpty = true
  · rw [if_pos hbenchmark]
    have hnone := length_activeReturns hbenchmark
    refine ⟨_, rfl, ?_⟩
    intro result hsummary hcontext
    rw [hcount, hnone, ReportsRelative, hcontext, hsummary]
    refine ⟨rfl, rfl, rfl, ?_, .inl ⟨rfl, rfl⟩⟩
    cases series.benchmarkAvailable <;> cases includeBenchmark with
    | none => simp [relativeBenchmarkContext]
    | some included => cases included <;> simp [relativeBenchmarkContext]
  · rw [if_neg hbenchmark]
    by_cases hempty : (activeReturns series).isEmpty = true
    · simp only [if_pos hempty]
      have hnone : (activeReturns series).index.length = 0 := by
        rw [List.length_eq_zero_iff]
        exact List.isEmpty_iff.1 hempty
      refine ⟨_, rfl, ?_⟩
      intro result hsummary hcontext
      rw [hcount, ReportsRelative, hcontext, hsummary, hnone]
      exact ⟨rfl, rfl, rfl, by simp [relativeBenchmarkContext], .inl ⟨rfl, rfl⟩⟩
    · simp only [if_neg hempty]
      have hsome : (activeReturns series).index ≠ [] := by
        intro hnil
        exact hempty (List.isEmpty_iff.2 hnil)
      have hpos : 0 < (activeReturns series).index.length := List.length_pos_of_ne_nil hsome
      obtain ⟨summary, episodes, hsummarized, hspec⟩ := summaryOfPath_ok sqrt
        options.toDrawdownAnalysisOptions (drawdownFromReturns (activeReturns series)) hsome
      rw [activeDrawdownSummary, hsummarized]
      refine ⟨_, rfl, ?_⟩
      intro result hsummary hcontext
      rw [hcount, hpath, ReportsRelative, hcontext, hsummary]
      refine ⟨rfl, rfl, rfl, ?_, .inr ⟨hpos, summary, episodes, rfl, hspec⟩⟩
      simp [relativeBenchmarkContext, hpos]

/-- What a report says of a period. -/
structure ReportsPeriod (request : DrawdownStatelessInput K) (options : DrawdownReportOptions K)
    (includeBenchmark : Option Bool) (start stop : Date) (result : DrawdownPeriodResult K) :
    Prop where
  dates : result.startDate = start ∧ result.endDate = stop
  portfolio : ReportsPortfolio options (request.path start stop) result
  relative : ReportsRelative options includeBenchmark (request.commonCount start stop)
    (request.activePath start stop) result

/-- A period of a request that resolves is always reported. -/
theorem reports_period (sqrt : K → K) {request : DrawdownStatelessInput K}
    (h : drawdownPeriodSeries (buildInputFrames request) request period openDate = .ok series)
    (options : DrawdownReportOptions K) (includeBenchmark : Option Bool) :
    ∃ result, calculatePeriodDrawdown sqrt series options includeBenchmark = .ok result ∧
      ReportsPeriod request options includeBenchmark series.start series.stop result := by
  have hportfolio : series.portfolioReturns =
      (buildInputFrames request).portfolio.between series.start series.stop := by
    obtain ⟨⟨start, stop⟩, _, hdone⟩ := bind_eq_ok.1 h
    cases hdone
    rfl
  have hpath : request.path series.start series.stop =
      drawdownFromReturns series.portfolioReturns := by
    rw [hportfolio]
    rfl
  rw [calculatePeriodDrawdown]
  by_cases hnone : series.portfolioReturns.index = []
  · rw [if_pos (by rw [hnone]; exact Nat.zero_lt_one)]
    have hcount : request.commonCount series.start series.stop = 0 := by
      have hsublist : (series.portfolioReturns.innerJoin
          ((buildInputFrames request).benchmark.between series.start series.stop)).index.Sublist
            series.portfolioReturns.index :=
        Series.index_selected_sublist _ _
      rw [hnone, List.sublist_nil, hportfolio, ← Series.between_innerJoin] at hsublist
      rw [commonCount_eq, List.length_eq_zero_iff]
      exact hsublist
    refine ⟨_, rfl, ⟨rfl, rfl⟩, ⟨?_, .inl ⟨?_, rfl, rfl, rfl, rfl⟩⟩, ?_⟩
    · rw [hpath, drawdownFromReturns_index, hnone]
      rfl
    · rw [hpath, drawdownFromReturns_index, hnone]
    · rw [hcount]
      refine ⟨rfl, rfl, rfl, ?_, .inl ⟨rfl, rfl⟩⟩
      by_cases hrequested : includeBenchmark = some true <;>
        simp [insufficientPeriodResult, hrequested]
  · have hlength : ¬series.portfolioReturns.index.length < 1 := by
      have hpos := List.length_pos_of_ne_nil hnone
      omega
    obtain ⟨summary, episodes, hsummarized, hspec⟩ := summaryOfPath_ok sqrt
      options.toDrawdownAnalysisOptions (drawdownFromReturns series.portfolioReturns) hnone
    obtain ⟨relative, hrelative, hreports⟩ := reports_relative sqrt h options includeBenchmark
    rw [if_neg hlength]
    refine ⟨_, bind_eq_ok.2 ⟨_, hsummarized, bind_eq_ok.2 ⟨relative, hrelative, rfl⟩⟩, ⟨rfl, rfl⟩,
      ?_, hreports _ rfl rfl⟩
    rw [hpath]
    refine ⟨rfl, .inr ⟨hnone, rfl, rfl, summary, episodes, rfl, hspec, ?_⟩⟩
    cases hlist : options.includeEpisodeList with
    | true => exact lists_worst hspec hlist
    | false =>
      rw [if_neg Bool.false_ne_true, episodeModels, hlist]
      rfl

end Periods

section Runs

variable {K : Type} [Field K] [LinearOrder K] [FloorRing K]

omit [Field K] [LinearOrder K] [FloorRing K] in
theorem openDate_eq (request : DrawdownStatelessInput K) :
    (buildInputFrames request).portfolio.index.min? =
      (request.returns.map ReturnPoint.date).min? := by
  have hperm : (buildInputFrames request).portfolio.index.Perm
      (request.returns.map ReturnPoint.date) := by
    rw [← map_fst_datedValue request.returns]
    exact (List.perm_insertionSort _ _).map Prod.fst
  apply Option.ext
  intro day
  rw [List.min?_eq_some_iff, List.min?_eq_some_iff]
  simp only [hperm.mem_iff]

variable [IsStrictOrderedRing K]

theorem drawdownPeriodEntry_iff (sqrt : K → K) {request : DrawdownStatelessInput K}
    (options : DrawdownReportOptions K) (includeBenchmark : Option Bool) (openDate : Date)
    (period : RiskRequestPeriod) :
    (∃ entry, drawdownPeriodEntry sqrt request options includeBenchmark openDate period =
      .ok entry) ↔ ∃ range, resolvePeriod period request.asOfDate openDate = .ok range := by
  constructor
  · rintro ⟨entry, hentry⟩
    obtain ⟨series, hseries, _⟩ := bind_eq_ok.1 hentry
    obtain ⟨range, hrange, _⟩ := bind_eq_ok.1 hseries
    exact ⟨range, hrange⟩
  · rintro ⟨⟨start, stop⟩, hrange⟩
    have hseries : drawdownPeriodSeries (buildInputFrames request) request period openDate =
        .ok _ := bind_eq_ok.2 ⟨_, hrange, rfl⟩
    obtain ⟨result, hresult, _⟩ := reports_period sqrt hseries options includeBenchmark
    exact ⟨_, bind_eq_ok.2 ⟨_, hseries, bind_eq_ok.2 ⟨result, hresult, rfl⟩⟩⟩

theorem entry_of_period {sqrt : K → K} {request : DrawdownStatelessInput K}
    (h : drawdownPeriodEntry sqrt request options includeBenchmark openDate period = .ok entry) :
    entry.1 = period.resolvedName ∧ ∃ start stop,
      resolvePeriod period request.asOfDate openDate = .ok (start, stop) ∧
      ReportsPeriod request options includeBenchmark start stop entry.2 := by
  obtain ⟨series, hseries, h⟩ := bind_eq_ok.1 h
  obtain ⟨result, hresult, hdone⟩ := bind_eq_ok.1 h
  cases hdone
  obtain ⟨result', hresult', hreports⟩ := reports_period sqrt hseries options includeBenchmark
  cases hresult.symm.trans hresult'
  obtain ⟨⟨start, stop⟩, hrange, hdone⟩ := bind_eq_ok.1 hseries
  cases hdone
  exact ⟨rfl, start, stop, hrange, hreports⟩

/-- The entries of a run, under the names of its periods. -/
theorem entries_of_run {sqrt : K → K} {request : DrawdownStatelessInput K}
    (h : drawdownPeriodResults sqrt request options includeBenchmark openDate = .ok results) :
    results.keys = request.periods.map RiskRequestPeriod.resolvedName ∧
      List.Forall₂ (fun period entry => drawdownPeriodEntry sqrt request options includeBenchmark
        openDate period = .ok entry) request.periods results.items := by
  obtain ⟨entries, hentries, hdone⟩ := bind_eq_ok.1 h
  cases hdone
  have hnames := map_of_mapM_ok (fun period entry h => (entry_of_period h).1) hentries
  have hitems : (Dict.ofList entries).items = entries :=
    Dict.items_ofList (by rw [hnames]; exact request.names_unique)
  rw [hitems]
  refine ⟨?_, mapM_eq_ok.1 hentries⟩
  change (Dict.ofList entries).items.map Prod.fst = _
  rw [hitems, hnames]

/-- A drawdown calculation fails only where a period does not resolve, and otherwise reports every
period: the maximal runs of its path below the peak, the deepest of them, and the path of its
active returns on the days with a return on both sides. -/
theorem drawdown_complete (sqrt : K → K) (request : DrawdownStatelessInput K)
    (options : DrawdownReportOptions K) (includeBenchmark : Option Bool) :
    ((∃ results, calculateDrawdownResults sqrt request options includeBenchmark = .ok results) ↔
      ∀ openDate, (request.returns.map ReturnPoint.date).min? = some openDate →
        ∀ period ∈ request.periods, ∃ range,
          resolvePeriod period request.asOfDate openDate = .ok range) ∧
    ∀ results, calculateDrawdownResults sqrt request options includeBenchmark = .ok results →
      ∀ openDate, (request.returns.map ReturnPoint.date).min? = some openDate →
        results.keys = request.periods.map RiskRequestPeriod.resolvedName ∧
        ∀ period ∈ request.periods, ∃ start stop result,
          resolvePeriod period request.asOfDate openDate = .ok (start, stop) ∧
          results.get? period.resolvedName = some result ∧
          ReportsPeriod request options includeBenchmark start stop result := by
  rw [calculateDrawdownResults, openDate_eq]
  cases hopen : (request.returns.map ReturnPoint.date).min? with
  | none =>
    constructor
    · constructor
      · intro _ openDate h
        cases h
      · intro _
        exact ⟨_, rfl⟩
    · intro results _ openDate h
      cases h
  | some openDate =>
    constructor
    · constructor
      · rintro ⟨results, hresults⟩ openDate' hopen' period hperiod
        cases hopen'
        obtain ⟨entry, _, hentry⟩ := exists_of_mem_right (entries_of_run hresults).2.flip hperiod
        exact (drawdownPeriodEntry_iff sqrt options includeBenchmark openDate period).1
          ⟨entry, hentry⟩
      · intro hranges
        obtain ⟨entries, hentries, _⟩ := exists_mapM_ok
          (drawdownPeriodEntry sqrt request options includeBenchmark openDate) (fun _ => True)
          request.periods (by
            intro period hperiod
            obtain ⟨entry, hentry⟩ := (drawdownPeriodEntry_iff sqrt options includeBenchmark
              openDate period).2 (hranges openDate rfl period hperiod)
            exact ⟨entry, hentry, trivial⟩)
        exact ⟨_, bind_eq_ok.2 ⟨entries, hentries, rfl⟩⟩
    · intro results hresults openDate' hopen'
      cases hopen'
      obtain ⟨hkeys, hentries⟩ := entries_of_run hresults
      refine ⟨hkeys, ?_⟩
      intro period hperiod
      obtain ⟨entry, hmem, hentry⟩ := exists_of_mem_right hentries.flip hperiod
      obtain ⟨hname, start, stop, hrange, hreports⟩ := entry_of_period hentry
      refine ⟨start, stop, entry.2, hrange, ?_, hreports⟩
      rw [← hname]
      exact Dict.get?_eq_some.2 hmem

theorem dips_names : ([yearPeriod 2026].map RiskRequestPeriod.resolvedName).Nodup :=
  List.nodup_singleton _

theorem dips_dates : firstWeek.Nodup := firstWeek_ascending.imp ne_of_lt

/-- A loss that is made up for, and a deeper one that is not. -/
def dipsRequest : DrawdownStatelessInput ℚ where
  asOfDate := firstMonday
  periods := [yearPeriod 2026]
  returns := firstWeek.zipWith ReturnPoint.mk [-2, 5, -1, -3]
  benchmarkReturns := []
  names_unique := dips_names
  returns_unique := dips_dates
  benchmark_unique := List.nodup_nil

theorem one_listed : 1 ≤ 1 ∧ 1 ≤ 50 := by decide

theorem five_listed : 1 ≤ 5 ∧ 5 ≤ 50 := by decide

/-- The default options, with a number of episodes. -/
def listOptions (n : Nat) (h : 1 ≤ n ∧ n ≤ 50) : DrawdownReportOptions ℚ where
  toDrawdownAnalysisOptions := defaultOptions
  includeUnderwaterSeries := false
  includeEpisodeList := true
  topNEpisodes := n
  minimumEpisodeDepthBps := 0
  top_bounds := h
  depth_nonneg := le_rfl

theorem dips_open : (dipsRequest.returns.map ReturnPoint.date).min? = some firstMonday := by
  decide +kernel

theorem dips_calculates : (calculateDrawdownResults rationalSqrt dipsRequest
    (listOptions 1 one_listed) none).toOption.isSome = true := by decide +kernel

theorem drawdown_complete_dips : ∃ results start stop result,
    calculateDrawdownResults rationalSqrt dipsRequest (listOptions 1 one_listed) none =
      .ok results ∧ results.get? "YEAR" = some result ∧
    ReportsPeriod dipsRequest (listOptions 1 one_listed) none start stop result := by
  obtain ⟨results, hresults⟩ := ok_of_isSome dips_calculates
  obtain ⟨_, hperiods⟩ := (drawdown_complete rationalSqrt dipsRequest (listOptions 1 one_listed)
    none).2 results hresults firstMonday dips_open
  obtain ⟨start, stop, result, _, hget, hreports⟩ :=
    hperiods (yearPeriod 2026) (List.mem_singleton_self _)
  exact ⟨results, start, stop, result, hresults, hget, hreports⟩

/-- The deeper episode is the first listed. -/
example : (calculateDrawdownResults rationalSqrt dipsRequest (listOptions 5 five_listed)
    none).toOption.map (fun results => results.items.map fun entry => entry.2.episodes.map fun e =>
      (e.episodeId, e.isRecovered)) = some [[("dd_0001", false), ("dd_0002", true)]] := by
  decide +kernel

end Runs

section Stability

variable {K : Type} [Field K] [LinearOrder K] [FloorRing K]

/-- Options that list fewer episodes, down to a greater depth; all else is the same. -/
structure StricterOptions (strict loose : DrawdownReportOptions K) : Prop where
  analysis : strict.toDrawdownAnalysisOptions = loose.toDrawdownAnalysisOptions
  listed : strict.includeEpisodeList = loose.includeEpisodeList
  underwater : strict.includeUnderwaterSeries = loose.includeUnderwaterSeries
  top : strict.topNEpisodes ≤ loose.topNEpisodes
  depth : loose.minimumEpisodeDepthBps ≤ strict.minimumEpisodeDepthBps

/-- A report that differs in its episodes at most, of which it lists the first. -/
def ListsPrefix (result result' : DrawdownPeriodResult K) : Prop :=
  result.episodes <+: result'.episodes ∧ { result with episodes := result'.episodes } = result'

variable [IsStrictOrderedRing K] {strict loose : DrawdownReportOptions K}

omit [FloorRing K] in
theorem episodeModels_prefix (h : StricterOptions strict loose)
    {episodes : List (EpisodeRecord K)} (hdepths : ∀ e ∈ episodes, e.depth < 0) :
    episodeModels episodes strict <+: episodeModels episodes loose := by
  cases hlist : loose.includeEpisodeList with
  | false =>
    have hnone : episodeModels episodes strict = [] := by
      rw [episodeModels, h.listed, hlist]
      rfl
    rw [hnone]
    exact List.nil_prefix
  | true =>
    have hbound : -strict.leastDepth ≤ -loose.leastDepth :=
      neg_le_neg (div_le_div_of_nonneg_right h.depth (Nat.cast_nonneg _))
    obtain ⟨rest, hrest⟩ := Ranking.top_prefix EpisodeRecord.depth hbound h.top episodes
    rw [episodeModels_eq hdepths (h.listed.trans hlist), episodeModels_eq hdepths hlist,
      worstEpisodes, worstEpisodes, ← hrest, List.mapIdx_append]
    exact List.prefix_append _ _

theorem calculatePeriodDrawdown_prefix {sqrt : K → K} (hstricter : StricterOptions strict loose)
    (h : calculatePeriodDrawdown sqrt series strict includeBenchmark = .ok result) :
    ∃ result', calculatePeriodDrawdown sqrt series loose includeBenchmark = .ok result' ∧
      ListsPrefix result result' := by
  rw [calculatePeriodDrawdown] at h ⊢
  by_cases hshort : series.portfolioReturns.index.length < 1
  · rw [if_pos hshort] at h ⊢
    cases h
    exact ⟨_, rfl, List.prefix_rfl, rfl⟩
  · rw [if_neg hshort] at h ⊢
    have hne : (drawdownFromReturns series.portfolioReturns).index ≠ [] := by
      intro hnil
      rw [drawdownFromReturns_index] at hnil
      rw [hnil] at hshort
      exact hshort Nat.zero_lt_one
    obtain ⟨summary, episodes, hsummarized, hspec⟩ := summaryOfPath_ok sqrt
      strict.toDrawdownAnalysisOptions _ hne
    obtain ⟨_, hsummary, h⟩ := bind_eq_ok.1 h
    cases hsummarized.symm.trans hsummary
    obtain ⟨relative, hrelative, hdone⟩ := bind_eq_ok.1 h
    cases hdone
    rw [hstricter.analysis] at hsummarized hrelative
    refine ⟨_, bind_eq_ok.2 ⟨_, hsummarized, bind_eq_ok.2 ⟨relative, hrelative, rfl⟩⟩,
      episodeModels_prefix hstricter fun e he => depth_neg hspec he, ?_⟩
    rw [hstricter.underwater]

/-- Fewer episodes or a greater least depth leave the first episodes of every period, under the same
identifiers, and nothing else of its report changes. -/
theorem stricter_lists_prefix (sqrt : K → K) (request : DrawdownStatelessInput K)
    (includeBenchmark : Option Bool) (hstricter : StricterOptions strict loose)
    (h : calculateDrawdownResults sqrt request strict includeBenchmark = .ok results) :
    ∃ results', calculateDrawdownResults sqrt request loose includeBenchmark = .ok results' ∧
      results'.keys = results.keys ∧
      ∀ name result, results.get? name = some result →
        ∃ result', results'.get? name = some result' ∧ ListsPrefix result result' := by
  rw [calculateDrawdownResults] at h ⊢
  cases hopen : (buildInputFrames request).portfolio.index.min? with
  | none =>
    rw [hopen] at h
    cases h
    exact ⟨_, rfl, rfl, fun _ _ hget => by cases hget⟩
  | some openDate =>
    rw [hopen] at h
    have hentry : ∀ period entry,
        drawdownPeriodEntry sqrt request strict includeBenchmark openDate period = .ok entry →
        ∃ entry', drawdownPeriodEntry sqrt request loose includeBenchmark openDate period =
          .ok entry' ∧ ListsPrefix entry.2 entry'.2 := by
      intro period entry hentry
      obtain ⟨series, hseries, hentry⟩ := bind_eq_ok.1 hentry
      obtain ⟨result, hresult, hdone⟩ := bind_eq_ok.1 hentry
      cases hdone
      obtain ⟨result', hresult', hprefix⟩ := calculatePeriodDrawdown_prefix hstricter hresult
      exact ⟨_, bind_eq_ok.2 ⟨series, hseries, bind_eq_ok.2 ⟨result', hresult', rfl⟩⟩, hprefix⟩
    obtain ⟨hkeys, hentries⟩ := entries_of_run h
    obtain ⟨entries', hentries', _⟩ := exists_mapM_ok
      (drawdownPeriodEntry sqrt request loose includeBenchmark openDate) (fun _ => True)
      request.periods (by
        intro period hperiod
        obtain ⟨entry, _, hok⟩ := exists_of_mem_right hentries.flip hperiod
        obtain ⟨entry', hok', _⟩ := hentry period entry hok
        exact ⟨entry', hok', trivial⟩)
    have hrun : drawdownPeriodResults sqrt request loose includeBenchmark openDate =
        .ok (Dict.ofList entries') := bind_eq_ok.2 ⟨entries', hentries', rfl⟩
    obtain ⟨hkeys', hall'⟩ := entries_of_run hrun
    refine ⟨_, hrun, hkeys'.trans hkeys.symm, ?_⟩
    intro name result hget
    obtain ⟨period, hperiod, hok⟩ := exists_of_mem_right hentries (Dict.get?_eq_some.1 hget)
    obtain ⟨entry', hok', hprefix⟩ := hentry period _ hok
    obtain ⟨entry'', hmem, hok''⟩ := exists_of_mem_right hall'.flip hperiod
    cases hok'.symm.trans hok''
    have hname : entry'.1 = name :=
      (entry_of_period hok').1.trans (entry_of_period hok).1.symm
    refine ⟨entry'.2, ?_, hprefix⟩
    rw [← hname]
    exact Dict.get?_eq_some.2 hmem

theorem stricter_lists_prefix_dips : ∃ results results',
    calculateDrawdownResults rationalSqrt dipsRequest (listOptions 1 one_listed) none =
      .ok results ∧
    calculateDrawdownResults rationalSqrt dipsRequest (listOptions 5 five_listed) none =
      .ok results' ∧
    ∀ name result, results.get? name = some result →
      ∃ result', results'.get? name = some result' ∧ ListsPrefix result result' := by
  have hstricter : StricterOptions (listOptions 1 one_listed) (listOptions 5 five_listed) :=
    ⟨rfl, rfl, rfl, by decide, le_rfl⟩
  obtain ⟨results, hresults⟩ := ok_of_isSome dips_calculates
  obtain ⟨results', hresults', _, hprefix⟩ :=
    stricter_lists_prefix rationalSqrt dipsRequest none hstricter hresults
  exact ⟨results, results', hresults, hresults', hprefix⟩

end Stability

end LotusRisk
