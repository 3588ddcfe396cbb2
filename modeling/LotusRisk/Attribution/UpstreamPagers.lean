import LotusRisk.Attribution.BenchmarkExposure

/-! Both pagers stop whatever the services answer, and return the rows of every page on the token
chain or none. -/

namespace LotusRisk
set_option autoImplicit true

open TokenChain

variable {K : Type}

/-- The pager asks for few pages, and for none of them twice. -/
structure BoundedFetch (fetch : Fetch σ String ε) (maxPages : Nat) : Prop where
  budget : fetch.requests.length ≤ maxPages
  acyclic : fetch.requests.Nodup

section PositionRows

variable (coreClient : Answers K) (request : PositionTimeseriesRequest)

/-- The rows returned are those of the chain of tokens, up to a response without a token. -/
structure PositionPagerLossless : Prop where
  bounded : BoundedFetch (fetchPositionTimeseriesRows coreClient request)
    positionTimeseriesMaxPages
  lossless : ∀ rows, (fetchPositionTimeseriesRows coreClient request).result = .ok rows ↔
    ∃ requests responses, PositionChain coreClient request requests responses rows ∧
      ∀ response, responses.getLast? = some response → EndsChain response

/-- No chain of responses that list rows, within the budgets, leads to a malformed token. -/
def NoMalformedToken : Prop :=
  ∀ requests responses rows, PositionChain coreClient request requests responses rows →
    ∀ response, responses.getLast? = some response → ¬ MalformedToken response

variable {coreClient request}

theorem fetch_position_rows_bounded : BoundedFetch (fetchPositionTimeseriesRows coreClient request)
    positionTimeseriesMaxPages := by
  obtain ⟨hdistinct, hbudget⟩ := readPages_requests
    (positionTimeseriesReader request.portfolioId)
    (fun tokens => coreClient (tokens.map request.payload))
    (show 0 < positionTimeseriesMaxPages by decide) []
  exact ⟨hbudget, hdistinct⟩

theorem position_pager_lossless_iff :
    PositionPagerLossless coreClient request ↔ NoMalformedToken coreClient request := by
  constructor
  · intro h requests responses rows hchain response hlast
    obtain ⟨requests', responses', hchain', hends⟩ :=
      (h.lossless rows).1 (fetch_position_rows_eq_ok.2 ⟨requests, responses, hchain⟩)
    obtain ⟨-, rfl⟩ := hchain.chain.unique hchain'.chain
    exact (hends response hlast).not_malformed
  · intro h
    refine ⟨fetch_position_rows_bounded, ?_⟩
    intro rows
    rw [fetch_position_rows_eq_ok]
    constructor
    · rintro ⟨requests, responses, hchain⟩
      refine ⟨requests, responses, hchain, ?_⟩
      intro response hlast
      obtain ⟨page, hpage, -, hnone⟩ := hchain.chain.last_answered
      cases hlast.symm.trans hpage
      rcases nextPositionPageToken_eq_none.1 hnone with hends | hmalformed
      · exact hends
      · exact absurd hmalformed (h requests responses rows hchain response hlast)
    · rintro ⟨requests, responses, hchain, -⟩
      exact ⟨requests, responses, hchain⟩

end PositionRows

section BenchmarkPoints

variable [Field K] (texts : PyTexts K) (float : K → PyNumber K) (isUuid : String → Bool)
  (performanceClient : Answers K) (request : BenchmarkExposureHistoryRequest)

/-- The page entry of the response holds a null token. -/
def NullToken (response : List (String × PyValue K)) : Prop :=
  ∃ page, getEntry response "page" = .dict page ∧ page.lookup "next_page_token" = some .none

/-- The points are those of the pages of a chain of distinct tokens, up to a null token. -/
structure BenchmarkChain (requests : List (Option String)) (pages : List (BenchmarkPage K))
    (points : List (ExposurePoint K)) (identity : String × String) : Prop where
  chain : Chain (fetchBenchmarkExposurePage texts float isUuid performanceClient request)
    BenchmarkPage.nextPageToken [] none requests pages
  ended : ∃ response, performanceClient (requests.map (benchmarkExposurePayload request)) =
    .ok response ∧ NullToken response
  distinct : requests.Nodup
  budget : requests.length ≤ benchmarkExposureMaxPages
  points_eq : points = pages.flatMap BenchmarkPage.exposurePoints
  points_ne : points ≠ []
  limit : points.length ≤ benchmarkExposureMaxRows
  rows_distinct : (points.map ExposurePoint.rowKey).Nodup
  same_identity : ∀ page ∈ pages, page.benchmarkIdentity = identity

/-- The points returned are those of such a chain, and a request for custom groups is refused. -/
structure BenchmarkPagerLossless : Prop where
  bounded : BoundedFetch (fetchBenchmarkExposureHistoryWithIdentity texts float isUuid
    performanceClient request) benchmarkExposureMaxPages
  lossless : ∀ points identity,
    (fetchBenchmarkExposureHistoryWithIdentity texts float isUuid performanceClient request).result =
      .ok (points, identity) ↔ .custom ∉ request.groupingDimensions ∧ ∃ requests pages,
        BenchmarkChain texts float isUuid performanceClient request requests pages points identity

variable {texts float isUuid performanceClient request}

omit [Field K] in
theorem nextBenchmarkPageToken_eq_none {response : List (String × PyValue K)}
    (h : nextBenchmarkPageToken response = .ok none) : NullToken response := by
  rw [nextBenchmarkPageToken] at h
  cases hpage : getEntry response "page" with
  | dict page =>
    rw [hpage] at h
    refine ⟨page, hpage, ?_⟩
    cases htoken : page.lookup "next_page_token" with
    | none => simp [htoken] at h
    | some token =>
      cases token with
      | none => rfl
      | str text =>
        simp only [htoken] at h
        split_ifs at h
        cases h
      | _ => simp [htoken] at h
  | _ => simp [hpage] at h

/-- The token of a page is the one its response names. -/
theorem readBenchmarkExposurePage_token
    (h : readBenchmarkExposurePage texts float isUuid request response = .ok page) :
    nextBenchmarkPageToken response = .ok page.nextPageToken := by
  obtain ⟨u, -, h⟩ := bind_eq_ok.1 h
  obtain ⟨v, -, h⟩ := bind_eq_ok.1 h
  obtain ⟨rows, -, h⟩ := bind_eq_ok.1 h
  obtain ⟨token, htoken, h⟩ := bind_eq_ok.1 h
  obtain ⟨identity, -, h⟩ := bind_eq_ok.1 h
  obtain ⟨points, -, h⟩ := bind_eq_ok.1 h
  obtain ⟨w, -, h⟩ := bind_eq_ok.1 h
  cases h
  exact htoken

theorem validateSupportedGroupingDimensions_eq_ok :
    validateSupportedGroupingDimensions dimensions = .ok u ↔ .custom ∉ dimensions := by
  rw [validateSupportedGroupingDimensions]
  split_ifs with hcustom
  · exact iff_of_false nofun (not_not_intro hcustom)
  · exact iff_of_true rfl hcustom

omit [Field K] in
theorem finishBenchmarkExposures_eq_ok {kept : BenchmarkExposures K} :
    finishBenchmarkExposures kept = .ok (points, identity) ↔ kept.benchmarkExposures = points ∧
      points ≠ [] ∧ kept.expectedBenchmarkIdentity = some identity := by
  rw [finishBenchmarkExposures]
  split_ifs with hempty
  · apply iff_of_false nofun
    rintro ⟨rfl, hne, -⟩
    exact hne (List.isEmpty_iff.1 hempty)
  · cases kept.expectedBenchmarkIdentity with
    | none =>
      apply iff_of_false nofun
      rintro ⟨-, -, h⟩
      cases h
    | some expected =>
      constructor
      · intro h
        cases h
        exact ⟨rfl, fun hnil => hempty (List.isEmpty_iff.2 hnil), rfl⟩
      · rintro ⟨rfl, -, h⟩
        cases h
        rfl

omit [Field K] in
theorem keepAll_benchmarkExposures {pages : List (BenchmarkPage K)} :
    (benchmarkExposureReader (K := K)).keepAll 0 ⟨[], [], none⟩ pages = .ok kept ↔
      GathersExposures pages kept := by
  apply Reader.keepAll_eq_ok GathersExposures _ _ _ GathersExposures.nil
  · intro before n kept page kept' hbefore
    exact gathersExposures_append hbefore
  · intro before kept kept' h h'
    exact h.unique h'
  · intro before after kept h
    exact h.restrict

/-- The chain of the pages ends with a null token. -/
theorem chain_ended (h : Chain (fetchBenchmarkExposurePage texts float isUuid performanceClient
    request) BenchmarkPage.nextPageToken [] none requests pages) :
    ∃ response, performanceClient (requests.map (benchmarkExposurePayload request)) =
      .ok response ∧ NullToken response := by
  obtain ⟨page, -, hanswer, hnone⟩ := h.last_answered
  obtain ⟨response, hresponse, hread⟩ := bind_eq_ok.1 hanswer
  refine ⟨response, hresponse, nextBenchmarkPageToken_eq_none ?_⟩
  rw [readBenchmarkExposurePage_token hread, hnone]

omit [Field K] in
/-- What is gathered of the pages is their points, under the identity of all of them. -/
theorem gathersExposures_finish {pages : List (BenchmarkPage K)} (hne : pages ≠ []) :
    (∃ kept, GathersExposures pages kept ∧ finishBenchmarkExposures kept = .ok (points, identity)) ↔
      points = pages.flatMap BenchmarkPage.exposurePoints ∧ points ≠ [] ∧
      points.length ≤ benchmarkExposureMaxRows ∧ (points.map ExposurePoint.rowKey).Nodup ∧
      ∀ page ∈ pages, page.benchmarkIdentity = identity := by
  constructor
  · rintro ⟨kept, hgathers, hfinish⟩
    obtain ⟨rfl, hpoints, hidentity⟩ := finishBenchmarkExposures_eq_ok.1 hfinish
    refine ⟨hgathers.exposures_eq, hpoints, hgathers.limit, ?_, ?_⟩
    · rw [← hgathers.keys_eq]
      exact hgathers.distinct
    · intro page hpage
      exact Option.some.inj ((hgathers.same_identity page hpage).trans hidentity)
  · rintro ⟨hpoints, hpoints_ne, hlimit, hdistinct, hsame⟩
    have hhead : pages.head?.map BenchmarkPage.benchmarkIdentity = some identity := by
      cases pages with
      | nil => exact absurd rfl hne
      | cons first rest => exact congrArg some (hsame first List.mem_cons_self)
    refine ⟨⟨points, points.map ExposurePoint.rowKey, some identity⟩, ?_,
      finishBenchmarkExposures_eq_ok.2 ⟨rfl, hpoints_ne, rfl⟩⟩
    refine ⟨hpoints, rfl, hhead.symm, ?_, hdistinct, hlimit⟩
    intro page hpage
    rw [hsame page hpage]

theorem benchmark_pager_bounded : BoundedFetch (fetchBenchmarkExposureHistoryWithIdentity texts
    float isUuid performanceClient request) benchmarkExposureMaxPages := by
  rw [fetchBenchmarkExposureHistoryWithIdentity]
  cases validateSupportedGroupingDimensions request.groupingDimensions with
  | error e => exact ⟨Nat.zero_le _, List.nodup_nil⟩
  | ok u =>
    obtain ⟨hdistinct, hbudget⟩ := readPages_requests benchmarkExposureReader
      (fetchBenchmarkExposurePage texts float isUuid performanceClient request)
      (show 0 < benchmarkExposureMaxPages by decide) ⟨[], [], none⟩
    exact ⟨hbudget, hdistinct⟩

/-- Without custom groups, the result is what the loop gathers of the pages. -/
theorem benchmark_result (hcustom : .custom ∉ request.groupingDimensions) :
    (fetchBenchmarkExposureHistoryWithIdentity texts float isUuid performanceClient
      request).result = .ok (points, identity) ↔
    ∃ requests pages, Chain (fetchBenchmarkExposurePage texts float isUuid performanceClient
        request) BenchmarkPage.nextPageToken [] none requests pages ∧ requests.Nodup ∧
      requests.length ≤ benchmarkExposureMaxPages ∧
      ∃ kept, GathersExposures pages kept ∧
        finishBenchmarkExposures kept = .ok (points, identity) := by
  have haccepted : validateSupportedGroupingDimensions request.groupingDimensions = .ok () :=
    validateSupportedGroupingDimensions_eq_ok.2 hcustom
  rw [fetchBenchmarkExposureHistoryWithIdentity, haccepted]
  constructor
  · intro h
    obtain ⟨kept, hkept, hfinish⟩ := bind_eq_ok.1 h
    obtain ⟨requests, pages, hchain, hdistinct, hbudget, hpages⟩ :=
      (readPages_eq_ok (show 0 < benchmarkExposureMaxPages by decide) _).1 hkept
    exact ⟨requests, pages, hchain, hdistinct, hbudget, kept, keepAll_benchmarkExposures.1 hpages,
      hfinish⟩
  · rintro ⟨requests, pages, hchain, hdistinct, hbudget, kept, hgathers, hfinish⟩
    apply bind_eq_ok.2
    refine ⟨kept, ?_, hfinish⟩
    apply (readPages_eq_ok (show 0 < benchmarkExposureMaxPages by decide) _).2
    exact ⟨requests, pages, hchain, hdistinct, hbudget, keepAll_benchmarkExposures.2 hgathers⟩

theorem benchmark_pager_lossless :
    BenchmarkPagerLossless texts float isUuid performanceClient request := by
  refine ⟨benchmark_pager_bounded, ?_⟩
  intro points identity
  by_cases hcustom : .custom ∈ request.groupingDimensions
  · apply iff_of_false
    · rw [fetchBenchmarkExposureHistoryWithIdentity, validateSupportedGroupingDimensions,
        if_pos hcustom]
      nofun
    · intro h
      exact h.1 hcustom
  · rw [benchmark_result hcustom, and_iff_right hcustom]
    constructor
    · rintro ⟨requests, pages, hchain, hdistinct, hbudget, hkept⟩
      obtain ⟨page, hlast, -, -⟩ := hchain.last_answered
      have hne : pages ≠ [] := List.ne_nil_of_mem (List.mem_of_getLast? hlast)
      obtain ⟨hpoints, hpoints_ne, hlimit, hrows, hsame⟩ := (gathersExposures_finish hne).1 hkept
      exact ⟨requests, pages, hchain, chain_ended hchain, hdistinct, hbudget, hpoints, hpoints_ne,
        hlimit, hrows, hsame⟩
    · rintro ⟨requests, pages, h⟩
      obtain ⟨page, hlast, -, -⟩ := h.chain.last_answered
      have hne : pages ≠ [] := List.ne_nil_of_mem (List.mem_of_getLast? hlast)
      exact ⟨requests, pages, h.chain, h.distinct, h.budget, (gathersExposures_finish hne).2
        ⟨h.points_eq, h.points_ne, h.limit, h.rows_distinct, h.same_identity⟩⟩

end BenchmarkPoints

section Both

/-- Both pagers stop within their budgets and lose no row, exactly where the position pager meets
no malformed token. -/
theorem upstream_pagers_lossless_iff [Field K] (texts : PyTexts K) (float : K → PyNumber K)
    (isUuid : String → Bool) (coreClient performanceClient : Answers K)
    (position : PositionTimeseriesRequest) (benchmark : BenchmarkExposureHistoryRequest) :
    (PositionPagerLossless coreClient position ∧
      BenchmarkPagerLossless texts float isUuid performanceClient benchmark) ↔
    NoMalformedToken coreClient position := by
  rw [and_iff_left benchmark_pager_lossless]
  exact position_pager_lossless_iff

/-- One position, and the number of a next page. -/
def numberedPage : List (String × PyValue ℚ) :=
  [("rows", .list [.dict [("security_id", .str "SEC_1")]]),
    ("page", .dict [("next_page_token", .int 2)])]

def firstWeekPositions : PositionTimeseriesRequest where
  portfolioId := "PB_SG_GLOBAL_BAL_001"
  asOfDate := firstMonday
  startDate := firstMonday
  reportingCurrency := none
  groupingDimensions := [.position]

/-- A number for a token ends the chain, and the rows after it are lost. -/
theorem numbered_page_ends_chain :
    ¬ PositionPagerLossless (fun _ => .ok numberedPage) firstWeekPositions := by
  intro h
  have hchain : PositionChain (fun _ => .ok numberedPage) firstWeekPositions [none] [numberedPage]
      (positionRows numberedPage) := by
    refine ⟨.last rfl rfl, List.nodup_singleton _, by decide, ?_, ?_, by decide⟩
    · intro response hresponse
      rw [List.mem_singleton.1 hresponse]
      exact ⟨_, rfl⟩
    · rw [List.flatMap_singleton]
  obtain ⟨requests, responses, hchain', hends⟩ :=
    (h.lossless _).1 (fetch_position_rows_eq_ok.2 ⟨_, _, hchain⟩)
  obtain ⟨-, rfl⟩ := hchain.chain.unique hchain'.chain
  rcases hends numberedPage rfl with hnone | hempty
  · cases hnone
  · cases hempty

end Both

end LotusRisk
