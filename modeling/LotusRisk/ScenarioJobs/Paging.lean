import LotusRisk.Lib.Keyset
import LotusRisk.ScenarioJobs.Reading
import LotusRisk.ScenarioJobs.WorkerOutcomes

/-! Reading the contribution rows of a job page by page, from no cursor to a page without one. -/

namespace LotusRisk
open Relational JsonText Keyset ScenarioJobStore
set_option autoImplicit true

section Orders

variable (db : Database)

instance : IsTrans (String × Nat) db.pageKeyLt where
  trans a b c := by
    intro hab hbc
    let := db.collation
    rcases hab with hab | ⟨hab, hab'⟩
    · rcases hbc with hbc | ⟨hbc, -⟩
      · exact .inl (lt_trans hab hbc)
      · exact .inl (hbc ▸ hab)
    · rcases hbc with hbc | ⟨hbc, hbc'⟩
      · exact .inl (hab ▸ hbc)
      · exact .inr ⟨hbc.trans hab, Nat.lt_trans hab' hbc'⟩

instance : Std.Irrefl db.pageKeyLt where
  irrefl a := by
    let := db.collation
    rintro (h | ⟨-, h⟩)
    · exact lt_irrefl _ h
    · exact Nat.lt_irrefl _ h

instance : Std.Total (db.pageOrder (F := F)) where
  total a b := by
    let := db.collation
    rcases lt_trichotomy a.scenarioId b.scenarioId with h | h | h
    · exact .inl (.inl h)
    · rcases Nat.le_total a.ordinal b.ordinal with ho | ho
      · exact .inl (.inr ⟨h, ho⟩)
      · exact .inr (.inr ⟨h.symm, ho⟩)
    · exact .inr (.inl h)

instance : IsTrans (ScenarioEvaluationJobContributionRecord F) db.pageOrder where
  trans a b c := by
    intro hab hbc
    let := db.collation
    rcases hab with hab | ⟨hab, hab'⟩
    · rcases hbc with hbc | ⟨hbc, -⟩
      · exact .inl (lt_trans hab hbc)
      · exact .inl (hbc ▸ hab)
    · rcases hbc with hbc | ⟨hbc, hbc'⟩
      · exact .inl (hab ▸ hbc)
      · exact .inr ⟨hab.trans hbc, Nat.le_trans hab' hbc'⟩

/-- `ORDER BY` and the cursor predicate agree. -/
theorem pageOrder_key {db : Database} (a b : ScenarioEvaluationJobContributionRecord F)
    (h : db.pageOrder a b) : db.pageKeyLt a.pageKey b.pageKey ∨ a.pageKey = b.pageKey := by
  rcases h with h | ⟨h, ho⟩
  · exact .inl (.inl h)
  · rcases Nat.lt_or_eq_of_le ho with ho | ho
    · exact .inl (.inr ⟨h.symm, ho⟩)
    · exact .inr (Prod.ext h ho)

end Orders

section Rows

variable {db : Database} {s : ScenarioJobStore F}

/-- The rows of a job in `(scenario_id, ordinal)` order. -/
def orderedContributions (db : Database) (s : ScenarioJobStore F) (jobId : String) :
    List (ScenarioEvaluationJobContributionRecord F) :=
  (s.contributionsOf jobId).insertionSort db.pageOrder

theorem pageKeys_nodup (s : ScenarioJobStore F) (jobId : String) :
    ((s.contributionsOf jobId).map (·.pageKey)).Nodup := by
  have hn : ((s.contributionsOf jobId).map (·.key)).Nodup :=
    s.contributions.unique.sublist (List.filter_sublist.map _)
  have hk : (s.contributionsOf jobId).map (·.key) =
      ((s.contributionsOf jobId).map (·.pageKey)).map (fun key => (jobId, key)) := by
    rw [List.map_map]
    apply List.map_congr_left
    intro row hm
    rw [← (mem_contributionsOf.1 hm).2]
    rfl
  rw [hk] at hn
  exact hn.of_map _

theorem orderedContributions_perm (db : Database) (s : ScenarioJobStore F) (jobId : String) :
    (orderedContributions db s jobId).Perm (s.contributionsOf jobId) :=
  List.perm_insertionSort _ _

theorem orderedContributions_strict (db : Database) (s : ScenarioJobStore F) (jobId : String) :
    (orderedContributions db s jobId).Pairwise (fun a b => db.pageKeyLt a.pageKey b.pageKey) :=
  strict_insertionSort pageOrder_key (pageKeys_nodup s jobId)

/-- The store answers with the ordered rows after the cursor. -/
theorem contributionPage_of_succeeded (hj : s.getForTenant tenantId jobId = some job)
    (hs : job.status = .succeeded) (after : Option (String × Nat)) (limit : Nat) :
    s.contributionPage db tenantId jobId after limit =
      some ((rowsAfter db.pageKeyLt (·.pageKey) after
        (orderedContributions db s jobId)).take (limit + 1)) := by
  have hf : s.contributions.rows.filter (fun row => row.jobId = jobId &&
      after.all (fun key => db.pageKeyLt key (row.scenarioId, row.ordinal))) =
      (s.contributionsOf jobId).filter
        (fun row => after.all (fun key => db.pageKeyLt key row.pageKey)) := by
    unfold contributionsOf
    rw [List.filter_filter]
    apply List.filter_congr
    intro row _
    exact Bool.and_comm _ _
  unfold contributionPage selectOrdered rowsAfter orderedContributions
  rw [hj]
  dsimp only
  rw [if_neg (fun h => h hs), hf, insertionSort_filter pageOrder_key (pageKeys_nodup s jobId)]

variable [PyFloat F]

/-- One page: the rows after the cursor up to the limit, and the key of the last of them when there
are more. -/
theorem scenarioJobContributionPage_of_succeeded
    (hj : s.getForTenant tenantId jobId = some job) (hs : job.status = .succeeded)
    (hr : ∀ row ∈ s.contributionsOf jobId, Readable row) {after : Option (String × Nat)}
    (ha : ∀ key ∈ after, key.1 ≠ "") (limit : Nat) :
    scenarioJobContributionPage db s tenantId jobId
        (after.map (fun key => encodeContributionCursor key.1 key.2)) limit =
      .ok (some {
        jobId := jobId
        contributions := ((rowsAfter db.pageKeyLt (·.pageKey) after
          (orderedContributions db s jobId)).take limit).map (·.jobContribution)
        nextCursor := (nextKey (·.pageKey) limit (rowsAfter db.pageKeyLt (·.pageKey) after
          (orderedContributions db s jobId))).map
            (fun key => encodeContributionCursor key.1 key.2) }) := by
  generalize hrows : rowsAfter db.pageKeyLt (·.pageKey) after (orderedContributions db s jobId) =
    rows
  have hmem : ∀ row ∈ rows, Readable row := by
    intro row hm
    rw [← hrows] at hm
    exact hr row ((orderedContributions_perm db s jobId).mem_iff.1 (List.mem_filter.1 hm).1)
  have htake : (rows.take (limit + 1)).take limit = rows.take limit := by
    rw [List.take_take, Nat.min_eq_left (Nat.le_succ limit)]
  have hmore : limit < (rows.take (limit + 1)).length ↔ limit < rows.length := by
    rw [List.length_take]
    omega
  have hvalid : (rows.take limit).mapM validatedContribution =
      .ok ((rows.take limit).map (·.jobContribution)) :=
    mapM_ok (fun row hm => validatedContribution_of_readable (hmem row (List.mem_of_mem_take hm)))
  unfold scenarioJobContributionPage
  rw [decodeAfter_encode ha]
  simp only [bind, Except.bind]
  rw [contributionPage_of_succeeded hj hs, hrows]
  dsimp only
  rw [htake, hvalid]
  unfold nextKey
  by_cases hl : limit < rows.length
  · rw [if_pos hl, if_pos (hmore.2 hl), Option.map_map]
    rfl
  · rw [if_neg hl, if_neg (fun h => hl (hmore.1 h))]
    rfl

theorem contributionPage_reads (hj : s.getForTenant tenantId jobId = some job)
    (hs : job.status = .succeeded) (hr : ∀ row ∈ s.contributionsOf jobId, Readable row) :
    Reads db.pageKeyLt (·.pageKey)
      (fun cursor limit page =>
        scenarioJobContributionPage db s tenantId jobId cursor limit = .ok (some page))
      (·.nextCursor) (·.contributions) (·.jobContribution)
      (fun key => encodeContributionCursor key.1 key.2) (orderedContributions db s jobId) := by
  intro cursor limit _ hc
  have ha : ∀ key ∈ cursor, key.1 ≠ "" := by
    intro key hk
    obtain ⟨row, hm, rfl⟩ := hc key hk
    exact (hr row ((orderedContributions_perm db s jobId).mem_iff.1 hm)).1
  exact ⟨_, scenarioJobContributionPage_of_succeeded hj hs hr ha limit, rfl, rfl⟩

end Rows

section Publications

variable [PyFloat F]

/-- Every scenario of the catalog has a name. -/
def ScenarioCatalog.Named (catalog : ScenarioCatalog F) : Prop :=
  ∀ pack ∈ catalog.packs.items, ∀ scenario ∈ pack.2, scenario.scenarioId ≠ ""

/-- Publications are the worker's: their rows are those of an evaluation. -/
def PublishedByWorker [PyText] (ops : List (StoreOp F)) : Prop :=
  ∀ jobId token aggregate rows completedAt,
    .completeClaim jobId token aggregate rows completedAt ∈ ops →
    ∃ parse catalog claim evaluation, catalog.Named ∧
      evaluateClaim parse catalog claim = .ok evaluation ∧
      rows = contributionRecords jobId evaluation

omit [PyFloat F] in
/-- A row is published by a call, or was there before it. -/
theorem StoreOp.Effect.row_origin {s : ScenarioJobStore F} {op : StoreOp F}
    {r : ScenarioJobStore F × List (JobEvent F)} {row : ScenarioEvaluationJobContributionRecord F}
    (h : op.Effect s r) (hm : row ∈ r.1.contributionsOf jobId) : row ∈ s.contributionsOf jobId ∨
      ∃ token aggregate rows completedAt,
        op = .completeClaim jobId token aggregate rows completedAt ∧ row ∈ rows := by
  cases h with
  | unchanged => exact .inl hm
  | admitted sub uuid absent jobs contributions =>
    rw [contributions] at hm
    exact .inl hm
  | claimed job now lease uuid found claimable hl jobs contributions =>
    rw [contributions] at hm
    exact .inl hm
  | failed j token code detail failedAt held jobs contributions =>
    rw [contributions] at hm
    exact .inl hm
  | succeeded j token aggregate rows completedAt held jobs contributions =>
    rw [contributions] at hm
    rcases List.mem_append.1 hm with hm | hm
    · exact .inl hm
    · split at hm
      · rename_i he
        rw [← he]
        exact .inr ⟨token, aggregate, rows, completedAt, rfl, hm⟩
      · cases hm
  | deleted now limit nodup expired jobs contributions =>
    rw [contributions] at hm
    split at hm
    · cases hm
    · exact .inl hm

omit [PyFloat F] in
/-- Every row of a run was published in it. -/
theorem row_published {db : Database} {ops : List (StoreOp F)}
    (hm : row ∈ (execute db ops).store.contributionsOf jobId) :
    ∃ token aggregate rows completedAt,
      .completeClaim jobId token aggregate rows completedAt ∈ ops ∧ row ∈ rows := by
  induction ops using List.reverseRecOn with
  | nil => cases hm
  | append_singleton ops op ih =>
    rw [execute_snoc] at hm
    rcases (op.effect_perform db (execute db ops).store).row_origin hm with hm | hm
    · obtain ⟨token, aggregate, rows, completedAt, ho, hr⟩ := ih hm
      exact ⟨token, aggregate, rows, completedAt, List.mem_append_left _ ho, hr⟩
    · obtain ⟨token, aggregate, rows, completedAt, rfl, hr⟩ := hm
      exact ⟨token, aggregate, rows, completedAt,
        List.mem_append_right _ List.mem_cons_self, hr⟩

variable [PyText]

/-- The rows of an evaluation pass the checks of a page. -/
theorem readable_contributionRecords {evaluation : RegimeScenarioPackResponse F}
    {catalog : ScenarioCatalog F} (hn : catalog.Named)
    (he : evaluateClaim parse catalog claim = .ok evaluation)
    (hm : row ∈ contributionRecords jobId evaluation) : Readable row := by
  obtain ⟨request, pack, hp, -, hr⟩ := evaluateClaim_eq_ok he
  obtain ⟨-, hs, -⟩ := responseFromEvaluation_eq_ok hp request.weights_nonneg hr
  obtain ⟨result, hmr, m, hz, rfl⟩ := mem_contributionRecords.1 hm
  rw [hs] at hmr
  obtain ⟨scenario, hsc, rfl⟩ := List.mem_map.1 hmr
  have hc := List.mem_of_getElem? (List.mem_zipIdx_iff_getElem?.1 hz)
  obtain ⟨component, hco, hpos⟩ := mem_rankedContributions.1 hc
  have hw := request.weights_nonneg component hco
  unfold Readable contributionRecord
  rw [← hpos]
  exact ⟨hn _ (Dict.get?_eq_some.1 hp) scenario hsc, hw, PyFloat.round6_max_zero _⟩

theorem readable_of_run {db : Database} {ops : List (StoreOp F)} (h : PublishedByWorker ops)
    (hm : row ∈ (execute db ops).store.contributionsOf jobId) : Readable row := by
  obtain ⟨token, aggregate, rows, completedAt, ho, hr⟩ := row_published hm
  obtain ⟨parse, catalog, claim, evaluation, hn, he, rfl⟩ := h _ _ _ _ _ ho
  exact readable_contributionRecords hn he hr

end Publications

section Traversals

variable [PyFloat F]

/-- Page `n` is read with the limit `limits n`, until a page names no next cursor. -/
def FollowsPages (db : Database) (s : ScenarioJobStore F) (tenantId jobId : String)
    (limits : Nat → Nat) (pages : List (ScenarioEvaluationJobContributionPage F)) : Prop :=
  Traversal (fun cursor limit page =>
    scenarioJobContributionPage db s tenantId jobId cursor limit = .ok (some page))
    (·.nextCursor) limits 0 none pages

/-- The pages a reader gets, and no others: every row of the job once, in key order. -/
structure CompleteTraversal (db : Database) (s : ScenarioJobStore F) (tenantId jobId : String)
    (limits : Nat → Nat) (pages : List (ScenarioEvaluationJobContributionPage F)) : Prop where
  followed : FollowsPages db s tenantId jobId limits pages
  only : ∀ pages', FollowsPages db s tenantId jobId limits pages' → pages' = pages
  every_row : ∃ rows : List (ScenarioEvaluationJobContributionRecord F),
    rows.Perm (s.contributionsOf jobId) ∧
    rows.Pairwise (fun a b => db.pageKeyLt a.pageKey b.pageKey) ∧
    (pages.map (·.contributions)).flatten = rows.map (·.jobContribution)
  within_limit : ∀ i page, pages[i]? = some page → page.contributions.length ≤ limits i
  last_page : ∀ i page, pages[i]? = some page →
    (page.nextCursor = none ↔ i + 1 = pages.length)

theorem complete_traversal {db : Database} {s : ScenarioJobStore F}
    (hj : s.getForTenant tenantId jobId = some job) (hs : job.status = .succeeded)
    (hr : ∀ row ∈ s.contributionsOf jobId, Readable row) {limits : Nat → Nat}
    (hl : ∀ n, 1 ≤ limits n) :
    ∃ pages, CompleteTraversal db s tenantId jobId limits pages := by
  obtain ⟨pages, ht, hv, hb⟩ := traversal_complete (orderedContributions_strict db s jobId) hl
    (contributionPage_reads hj hs hr)
  refine ⟨pages, ht, ?_, ?_, hb, ?_⟩
  · intro pages' ht'
    apply Traversal.unique _ ht' ht
    intro cursor limit page page' h h'
    exact Option.some.inj (Except.ok.inj (h.symm.trans h'))
  · exact ⟨_, orderedContributions_perm db s jobId, orderedContributions_strict db s jobId, hv⟩
  · intro i page hi
    exact Traversal.next_eq_none ht hi

end Traversals

/-- Paging reads every row of a succeeded job once, in order; the rows the worker publishes can all
be read; and a cursor decodes to the key it was made of. -/
theorem contribution_paging_complete [PyFloat F] [PyText] (db : Database) :
    (∀ (s : ScenarioJobStore F) (tenantId jobId : String) (job : ScenarioEvaluationJobRecord)
      (limits : Nat → Nat), s.getForTenant tenantId jobId = some job → job.status = .succeeded →
      (∀ row ∈ s.contributionsOf jobId, Readable row) → (∀ n, 1 ≤ limits n) →
      ∃ pages, CompleteTraversal db s tenantId jobId limits pages) ∧
    (∀ ops : List (StoreOp F), PublishedByWorker ops → ∀ jobId,
      ∀ row ∈ (execute db ops).store.contributionsOf jobId, Readable row) ∧
    ∀ scenarioId ordinal, scenarioId ≠ "" →
      decodeContributionCursor (encodeContributionCursor scenarioId ordinal) =
        .ok (scenarioId, ordinal) := by
  refine ⟨?_, ?_, ?_⟩
  · intro s tenantId jobId job limits hj hs hr hl
    exact complete_traversal hj hs hr hl
  · intro ops h jobId row hm
    exact readable_of_run h hm
  · intro scenarioId ordinal h
    exact decodeContributionCursor_encode h ordinal

section Example

open AsciiRuntime

theorem codeCatalog_named : codeCatalog.Named := by
  unfold ScenarioCatalog.Named
  decide

/-- The run of an invocation, with its publication. -/
def JobAttempt.publishedRun (a : JobAttempt ℚ) (evaluation : RegimeScenarioPackResponse ℚ) :
    List (StoreOp ℚ) :=
  a.history ++ [.completeClaim a.claim.jobId a.token (aggregateResult evaluation).modelDump
    (contributionRecords a.claim.jobId evaluation) a.completedAt]

theorem JobAttempt.succeeded_publishedRun (a : JobAttempt ℚ)
    {evaluation : RegimeScenarioPackResponse ℚ}
    (hr : Storable a.db (contributionRecords a.claim.jobId evaluation)) :
    ∃ job, (execute a.db (a.publishedRun evaluation)).store.getForTenant a.claim.tenantId
      a.claim.jobId = some job ∧ job.status = .succeeded := by
  obtain ⟨s, hc⟩ := completeClaim_of_storable a.held a.unpublished contributionRecords_jobId hr
    (aggregateResult evaluation).modelDump a.completedAt
  have hs : (execute a.db (a.publishedRun evaluation)).store = s := by
    unfold publishedRun
    rw [execute_snoc]
    change (StoreOp.perform a.db a.store (.completeClaim _ _ _ _ _)).1 = s
    unfold StoreOp.perform
    dsimp only
    rw [hc]
  obtain ⟨hd, -⟩ | ⟨-, -, -, hj, -⟩ := completeClaim_eq_ok hc
  · cases hd
  · have hf : s.job? a.claim.jobId = some (a.claim.succeededWith
        (dumps (aggregateResult evaluation).modelDump) a.completedAt) := by
      rw [hj, if_pos rfl, a.held.1]
      rfl
    rw [hs]
    exact ⟨_, getForTenant_eq_some.2 ⟨hf, rfl⟩, rfl⟩

theorem balanced_publishedByWorker {evaluation : RegimeScenarioPackResponse ℚ}
    (he : evaluateClaim (balancedAttempt codeCatalog).parse codeCatalog
      (balancedAttempt codeCatalog).claim = .ok evaluation) :
    PublishedByWorker ((balancedAttempt codeCatalog).publishedRun evaluation) := by
  intro jobId token aggregate rows completedAt hm
  rcases List.mem_append.1 hm with hm | hm
  · rcases List.mem_cons.1 hm with hm | hm
    · cases hm
    · cases List.mem_singleton.1 hm
  · cases List.mem_singleton.1 hm
    exact ⟨_, _, _, _, codeCatalog_named, he, rfl⟩

theorem contribution_paging_complete_balanced :
    (∃ evaluation pages,
      PublishedByWorker ((balancedAttempt codeCatalog).publishedRun evaluation) ∧
      CompleteTraversal (balancedAttempt codeCatalog).db
        (execute (balancedAttempt codeCatalog).db
          ((balancedAttempt codeCatalog).publishedRun evaluation)).store
        (balancedAttempt codeCatalog).claim.tenantId (balancedAttempt codeCatalog).claim.jobId
        (fun _ => 2) pages) ∧
    decodeContributionCursor (encodeContributionCursor "growth_slowdown" 249) =
      .ok ("growth_slowdown", 249) := by
  obtain ⟨hpages, hrun, hcursor⟩ :=
    contribution_paging_complete (F := ℚ) (balancedAttempt codeCatalog).db
  obtain ⟨pack, hp, hr⟩ := (balancedAttempt codeCatalog).admittedRevision
  cases balanced_found.symm.trans hp
  obtain ⟨evaluation, he, -, hs⟩ := (balancedAttempt codeCatalog).evaluated balanced_found hr rfl
  obtain ⟨job, hj, hst⟩ := (balancedAttempt codeCatalog).succeeded_publishedRun
    ((storable_contributionRecords hs).2 balanced_storable)
  have hw := balanced_publishedByWorker he
  obtain ⟨pages, ht⟩ := hpages _ _ _ job (fun _ => 2) hj hst (hrun _ hw _) (fun _ => by decide)
  exact ⟨⟨evaluation, pages, hw, ht⟩, hcursor _ _ (by decide)⟩

end Example

end LotusRisk
