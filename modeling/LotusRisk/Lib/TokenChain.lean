import Mathlib.Data.List.Nodup

/-! Pages read along a chain of tokens that a server names as it answers: a reader with a budget of
pages stops whatever the server answers, and keeps every page of a chain that ends within it. -/

namespace TokenChain
set_option autoImplicit true

/-- What a loop keeps of the pages, and how it gives up on a chain. -/
structure Reader (ρ σ τ ε : Type) where
  next : ρ → Option τ
  keep : Nat → σ → ρ → Except ε σ
  repeated : Nat → σ → ε
  exhausted : Nat → σ → ε
  maxPages : Nat

/-- The variables of the loop. -/
structure Cursor (σ τ : Type) where
  pageToken : Option τ
  seen : List τ
  pageCount : Nat
  kept : σ

/-- The requests made, oldest first, and what came of them. -/
structure Fetch (σ τ ε : Type) where
  requests : List (Option τ)
  result : Except ε σ

section Loop

variable [DecidableEq τ] (reader : Reader ρ σ τ ε)

/-- One turn of the loop, on the answer to its request: the end of the chain or the next request. -/
def turn (cursor : Cursor σ τ) : Except ε ρ → Except ε (σ ⊕ Cursor σ τ)
  | .error e => .error e
  | .ok page =>
    let pageCount := cursor.pageCount + 1
    match reader.keep pageCount cursor.kept page with
    | .error e => .error e
    | .ok kept =>
      match reader.next page with
      | none => .ok (.inl kept)
      | some token =>
        if token ∈ cursor.seen ∨ some token = cursor.pageToken then
          .error (reader.repeated pageCount kept)
        else if reader.maxPages ≤ pageCount then .error (reader.exhausted pageCount kept)
        else .ok (.inr ⟨some token, token :: cursor.seen, pageCount, kept⟩)

variable {reader} {cursor : Cursor σ τ} {answer : Except ε ρ}

/-- A turn that raises nothing has kept a page, the last one or one with a fresh successor. -/
theorem turn_eq_ok : turn reader cursor answer = .ok outcome ↔ ∃ page kept, answer = .ok page ∧
    reader.keep (cursor.pageCount + 1) cursor.kept page = .ok kept ∧
    (reader.next page = none ∧ outcome = .inl kept ∨
      ∃ token, reader.next page = some token ∧
        ¬ (token ∈ cursor.seen ∨ some token = cursor.pageToken) ∧
        ¬ reader.maxPages ≤ cursor.pageCount + 1 ∧
        outcome = .inr ⟨some token, token :: cursor.seen, cursor.pageCount + 1, kept⟩) := by
  constructor
  · intro h
    cases answer with
    | error e => cases h
    | ok page =>
      rw [turn] at h
      cases hkeep : reader.keep (cursor.pageCount + 1) cursor.kept page with
      | error e => simp [hkeep] at h
      | ok kept =>
        refine ⟨page, kept, rfl, hkeep, ?_⟩
        cases hnext : reader.next page with
        | none =>
          simp only [hkeep, hnext] at h
          cases h
          exact .inl ⟨rfl, rfl⟩
        | some token =>
          simp only [hkeep, hnext] at h
          split_ifs at h with hseen hbudget
          cases h
          exact .inr ⟨token, rfl, hseen, hbudget, rfl⟩
  · rintro ⟨page, kept, rfl, hkeep, ⟨hnext, rfl⟩ | ⟨token, hnext, hseen, hbudget, rfl⟩⟩
    · simp only [turn, hkeep, hnext]
    · simp only [turn, hkeep, hnext, if_neg hseen, if_neg hbudget]

theorem turn_eq_done : turn reader cursor answer = .ok (.inl final) ↔ ∃ page, answer = .ok page ∧
    reader.keep (cursor.pageCount + 1) cursor.kept page = .ok final ∧ reader.next page = none := by
  rw [turn_eq_ok]
  constructor
  · rintro ⟨page, kept, hanswer, hkeep, ⟨hnext, heq⟩ | ⟨token, _, _, _, heq⟩⟩
    · cases heq
      exact ⟨page, hanswer, hkeep, hnext⟩
    · cases heq
  · rintro ⟨page, hanswer, hkeep, hnext⟩
    exact ⟨page, final, hanswer, hkeep, .inl ⟨hnext, rfl⟩⟩

theorem turn_eq_next : turn reader cursor answer = .ok (.inr following) ↔ ∃ page kept token,
    answer = .ok page ∧ reader.keep (cursor.pageCount + 1) cursor.kept page = .ok kept ∧
    reader.next page = some token ∧ ¬ (token ∈ cursor.seen ∨ some token = cursor.pageToken) ∧
    ¬ reader.maxPages ≤ cursor.pageCount + 1 ∧
    following = ⟨some token, token :: cursor.seen, cursor.pageCount + 1, kept⟩ := by
  rw [turn_eq_ok]
  constructor
  · rintro ⟨page, kept, hanswer, hkeep, ⟨_, heq⟩ | ⟨token, hnext, hseen, hbudget, heq⟩⟩
    · cases heq
    · cases heq
      exact ⟨page, kept, token, hanswer, hkeep, hnext, hseen, hbudget, rfl⟩
  · rintro ⟨page, kept, token, hanswer, hkeep, hnext, hseen, hbudget, rfl⟩
    exact ⟨page, kept, hanswer, hkeep, .inr ⟨token, hnext, hseen, hbudget, rfl⟩⟩

variable (reader) (fetch : List (Option τ) → Except ε ρ)

/-- The server answers a request in view of all requests before it. -/
def walk (asked : List (Option τ)) (cursor : Cursor σ τ) : Fetch σ τ ε :=
  match _h : turn reader cursor (fetch (asked ++ [cursor.pageToken])) with
  | .error e => ⟨asked ++ [cursor.pageToken], .error e⟩
  | .ok (.inl kept) => ⟨asked ++ [cursor.pageToken], .ok kept⟩
  | .ok (.inr following) => walk (asked ++ [cursor.pageToken]) following
termination_by reader.maxPages - cursor.pageCount
decreasing_by
  obtain ⟨page, kept, token, _, _, _, _, hbudget, rfl⟩ := turn_eq_next.1 _h
  exact Nat.sub_lt_sub_left (by omega) (Nat.lt_succ_self _)

/-- The loop from the first request, which names no token. -/
def Cursor.start (kept : σ) : Cursor σ τ := ⟨none, [], 0, kept⟩

def readPages (kept : σ) : Fetch σ τ ε := walk reader fetch [] (Cursor.start kept)

variable {reader fetch}

theorem walk_error (h : turn reader cursor (fetch (asked ++ [cursor.pageToken])) = .error e) :
    walk reader fetch asked cursor = ⟨asked ++ [cursor.pageToken], .error e⟩ := by
  rw [walk]
  split <;> simp_all

theorem walk_done (h : turn reader cursor (fetch (asked ++ [cursor.pageToken])) = .ok (.inl kept)) :
    walk reader fetch asked cursor = ⟨asked ++ [cursor.pageToken], .ok kept⟩ := by
  rw [walk]
  split <;> simp_all

theorem walk_next
    (h : turn reader cursor (fetch (asked ++ [cursor.pageToken])) = .ok (.inr following)) :
    walk reader fetch asked cursor = walk reader fetch (asked ++ [cursor.pageToken]) following := by
  rw [walk]
  split <;> simp_all

end Loop

section Chains

variable (fetch : List (Option τ) → Except ε ρ) (next : ρ → Option τ)

/-- The requests and the pages along the tokens from a request on, up to a page that names none. -/
inductive Chain : List (Option τ) → Option τ → List (Option τ) → List ρ → Prop where
  | last (answered : fetch (asked ++ [token]) = .ok page) (ended : next page = none) :
      Chain asked token [token] [page]
  | more (answered : fetch (asked ++ [token]) = .ok page) (follow : next page = some t)
      (rest : Chain (asked ++ [token]) (some t) requests pages) :
      Chain asked token (token :: requests) (page :: pages)

variable {fetch next}

theorem Chain.token_mem (h : Chain fetch next asked token requests pages) : token ∈ requests := by
  cases h with
  | last answered ended => exact List.mem_cons_self
  | more answered follow rest => exact List.mem_cons_self

/-- The last page answers the last request. -/
theorem Chain.last_answered (h : Chain fetch next asked token requests pages) :
    ∃ page, pages.getLast? = some page ∧ fetch (asked ++ requests) = .ok page ∧
      next page = none := by
  induction h with
  | last answered ended => exact ⟨_, rfl, answered, ended⟩
  | more answered follow rest ih =>
    obtain ⟨page, hlast, hanswer, hnone⟩ := ih
    rw [List.append_assoc, List.singleton_append] at hanswer
    exact ⟨page, by rw [List.getLast?_cons, hlast]; rfl, hanswer, hnone⟩

/-- The answers determine the chain. -/
theorem Chain.unique (h : Chain fetch next asked token requests pages)
    (h' : Chain fetch next asked token requests' pages') :
    requests = requests' ∧ pages = pages' := by
  induction h generalizing requests' pages' with
  | last answered ended =>
    cases h' with
    | last answered' ended' =>
      rw [answered] at answered'
      cases answered'
      exact ⟨rfl, rfl⟩
    | more answered' follow' rest' =>
      rw [answered] at answered'
      cases answered'
      rw [ended] at follow'
      cases follow'
  | more answered follow rest ih =>
    cases h' with
    | last answered' ended' =>
      rw [answered] at answered'
      cases answered'
      rw [follow] at ended'
      cases ended'
    | more answered' follow' rest' =>
      rw [answered] at answered'
      cases answered'
      rw [follow] at follow'
      cases follow'
      obtain ⟨hrequests, hpages⟩ := ih rest'
      exact ⟨by rw [hrequests], by rw [hpages]⟩

end Chains

section Rules

/-- The pages are kept one after another, counted from `n`. -/
def Reader.keepAll (reader : Reader ρ σ τ ε) (n : Nat) (kept : σ) : List ρ → Except ε σ
  | [] => .ok kept
  | page :: pages =>
    match reader.keep (n + 1) kept page with
    | .error e => .error e
    | .ok kept => reader.keepAll (n + 1) kept pages

variable {reader : Reader ρ σ τ ε} {fetch : List (Option τ) → Except ε ρ}

theorem Reader.keepAll_cons : reader.keepAll n kept (page :: pages) = .ok final ↔
    ∃ kept', reader.keep (n + 1) kept page = .ok kept' ∧
      reader.keepAll (n + 1) kept' pages = .ok final := by
  rw [Reader.keepAll]
  cases reader.keep (n + 1) kept page with
  | error e =>
    apply iff_of_false
    · nofun
    · rintro ⟨kept', h, -⟩
      cases h
  | ok kept' =>
    constructor
    · intro h
      exact ⟨kept', rfl, h⟩
    · rintro ⟨kept'', h, hrest⟩
      cases h
      exact hrest

/-- A relation between pages and what is kept of them, which every page extends exactly when it is
kept, says what is kept of all pages. -/
theorem Reader.keepAll_eq_ok (I : List ρ → σ → Prop)
    (hkeep : ∀ before n kept page kept', I before kept →
      (reader.keep (n + 1) kept page = .ok kept' ↔ I (before ++ [page]) kept'))
    (hunique : ∀ before kept kept', I before kept → I before kept' → kept = kept')
    (hbefore : ∀ before after kept, I (before ++ after) kept → ∃ kept', I before kept')
    (hstart : I before kept) :
    reader.keepAll n kept pages = .ok final ↔ I (before ++ pages) final := by
  induction pages generalizing before n kept with
  | nil =>
    rw [Reader.keepAll, List.append_nil, Except.ok.injEq]
    constructor
    · intro heq
      exact heq ▸ hstart
    · intro hfinal
      exact hunique before kept final hstart hfinal
  | cons page pages ih =>
    rw [Reader.keepAll_cons, List.append_cons]
    constructor
    · rintro ⟨kept', hkept, hrest⟩
      exact (ih ((hkeep before n kept page kept' hstart).1 hkept)).1 hrest
    · intro hfinal
      obtain ⟨kept', hkept⟩ := hbefore (before ++ [page]) pages final hfinal
      exact ⟨kept', (hkeep before n kept page kept' hstart).2 hkept, (ih hkept).2 hfinal⟩

/-- The loop has made the requests, is about to make the next, and has pages left to read. -/
structure Cursor.Tracks (cursor : Cursor σ τ) (maxPages : Nat) (asked : List (Option τ)) : Prop where
  counted : cursor.pageCount = asked.length
  budget : asked.length < maxPages
  seen_iff : ∀ t, some t ∈ asked ++ [cursor.pageToken] ↔ t ∈ cursor.seen
  distinct : (asked ++ [cursor.pageToken]).Nodup

theorem Cursor.Tracks.start (h : 0 < maxPages) (kept : σ) :
    (Cursor.start kept : Cursor σ τ).Tracks maxPages [] where
  counted := rfl
  budget := h
  seen_iff := by
    intro t
    rw [List.nil_append, List.mem_singleton]
    exact iff_of_false nofun List.not_mem_nil
  distinct := List.nodup_singleton _

/-- What a turn hands on is about to make the next request. -/
theorem Cursor.Tracks.follow {cursor : Cursor σ τ} [DecidableEq τ]
    (h : cursor.Tracks reader.maxPages asked)
    (hturn : turn reader cursor answer = .ok (.inr following)) :
    following.Tracks reader.maxPages (asked ++ [cursor.pageToken]) := by
  obtain ⟨page, kept, token, _, _, _, hseen, hbudget, rfl⟩ := turn_eq_next.1 hturn
  have hfresh : token ∉ cursor.seen := fun hmem => hseen (.inl hmem)
  have hlength : (asked ++ [cursor.pageToken]).length = cursor.pageCount + 1 := by
    rw [List.length_append, List.length_singleton, h.counted]
  constructor
  · exact hlength.symm
  · rw [hlength]
    exact Nat.lt_of_not_le hbudget
  · intro t
    rw [List.mem_append, h.seen_iff, List.mem_singleton, List.mem_cons, Option.some.injEq]
    exact or_comm
  · apply List.Nodup.append h.distinct (List.nodup_singleton _)
    intro t hmem hlast
    rw [List.mem_singleton.1 hlast, h.seen_iff] at hmem
    exact hfresh hmem

/-- A token that was asked for may not be asked for again. -/
theorem Cursor.Tracks.not_repeated {cursor : Cursor σ τ} (h : cursor.Tracks maxPages asked)
    (hdistinct : (asked ++ cursor.pageToken :: requests).Nodup) (hnext : some token ∈ requests) :
    ¬ (token ∈ cursor.seen ∨ some token = cursor.pageToken) := by
  have hfresh : some token ∉ asked ++ [cursor.pageToken] := by
    intro hmem
    rw [List.append_cons, List.nodup_append] at hdistinct
    exact hdistinct.2.2 (some token) hmem (some token) hnext rfl
  intro hor
  rcases hor with hseen | hlast
  · exact hfresh ((h.seen_iff token).2 hseen)
  · rw [hlast] at hfresh
    exact hfresh (List.mem_append_right _ (List.mem_singleton_self _))

/-- A page that names a further token on a chain within the budget is not the last one allowed. -/
theorem Cursor.Tracks.not_exhausted {cursor : Cursor σ τ} (h : cursor.Tracks maxPages asked)
    (hbudget : (asked ++ cursor.pageToken :: requests).length ≤ maxPages)
    (hnext : some token ∈ requests) : ¬ maxPages ≤ cursor.pageCount + 1 := by
  have hpos := List.length_pos_of_mem hnext
  rw [List.length_append, List.length_cons] at hbudget
  rw [h.counted]
  omega

theorem Cursor.Tracks.length_le {cursor : Cursor σ τ} (h : cursor.Tracks maxPages asked) :
    (asked ++ [cursor.pageToken]).length ≤ maxPages := by
  rw [List.length_append, List.length_singleton]
  exact h.budget

variable [DecidableEq τ]

/-- Whatever the server answers, no token is asked for twice and the budget is kept. -/
theorem walk_requests (cursor : Cursor σ τ) (h : cursor.Tracks reader.maxPages asked) :
    (walk reader fetch asked cursor).requests.Nodup ∧
    (walk reader fetch asked cursor).requests.length ≤ reader.maxPages := by
  induction asked, cursor using walk.induct reader fetch with
  | case1 asked cursor e hturn =>
    rw [walk_error hturn]
    exact ⟨h.distinct, h.length_le⟩
  | case2 asked cursor kept hturn =>
    rw [walk_done hturn]
    exact ⟨h.distinct, h.length_le⟩
  | case3 asked cursor following hturn ih =>
    rw [walk_next hturn]
    exact ih (h.follow hturn)

/-- The loop returns what is kept of the pages of a chain of distinct tokens within its budget, and
raises on every other. -/
theorem walk_eq_ok (cursor : Cursor σ τ) (h : cursor.Tracks reader.maxPages asked) :
    (walk reader fetch asked cursor).result = .ok final ↔
      ∃ requests pages, Chain fetch reader.next asked cursor.pageToken requests pages ∧
        (asked ++ requests).Nodup ∧ (asked ++ requests).length ≤ reader.maxPages ∧
        reader.keepAll cursor.pageCount cursor.kept pages = .ok final := by
  induction asked, cursor using walk.induct reader fetch with
  | case1 asked cursor e hturn =>
    rw [walk_error hturn]
    apply iff_of_false nofun
    rintro ⟨requests, pages, hchain, hdistinct, hbudget, hkept⟩
    cases hchain with
    | last answered ended =>
      obtain ⟨kept, hkeep, hrest⟩ := Reader.keepAll_cons.1 hkept
      rw [turn_eq_done.2 ⟨_, answered, hkeep, ended⟩] at hturn
      cases hturn
    | more answered follow rest =>
      obtain ⟨kept, hkeep, hrest⟩ := Reader.keepAll_cons.1 hkept
      have hfresh := h.not_repeated hdistinct rest.token_mem
      have hleft := h.not_exhausted hbudget rest.token_mem
      rw [turn_eq_next.2 ⟨_, _, _, answered, hkeep, follow, hfresh, hleft, rfl⟩] at hturn
      cases hturn
  | case2 asked cursor kept hturn =>
    obtain ⟨page, hanswer, hkeep, hnext⟩ := turn_eq_done.1 hturn
    rw [walk_done hturn]
    constructor
    · intro heq
      cases heq
      exact ⟨_, _, .last hanswer hnext, h.distinct, h.length_le,
        Reader.keepAll_cons.2 ⟨_, hkeep, rfl⟩⟩
    · rintro ⟨requests, pages, hchain, hdistinct, hbudget, hkept⟩
      obtain ⟨-, rfl⟩ := hchain.unique (.last hanswer hnext)
      obtain ⟨kept', hkeep', hrest⟩ := Reader.keepAll_cons.1 hkept
      rw [hkeep] at hkeep'
      cases hkeep'
      cases hrest
      rfl
  | case3 asked cursor following hturn ih =>
    rw [walk_next hturn, ih (h.follow hturn)]
    obtain ⟨page, kept, token, hanswer, hkeep, hnext, hseen, hbudget, rfl⟩ := turn_eq_next.1 hturn
    constructor
    · rintro ⟨requests, pages, hchain, hdistinct, hlength, hkept⟩
      rw [List.append_assoc, List.singleton_append] at hdistinct hlength
      exact ⟨_, _, .more hanswer hnext hchain, hdistinct, hlength,
        Reader.keepAll_cons.2 ⟨_, hkeep, hkept⟩⟩
    · rintro ⟨requests, pages, hchain, hdistinct, hlength, hkept⟩
      cases hchain with
      | last answered ended =>
        rw [hanswer] at answered
        cases answered
        rw [hnext] at ended
        cases ended
      | more answered follow rest =>
        rw [hanswer] at answered
        cases answered
        rw [hnext] at follow
        cases follow
        obtain ⟨kept', hkeep', hrest⟩ := Reader.keepAll_cons.1 hkept
        rw [hkeep] at hkeep'
        cases hkeep'
        rw [List.append_cons] at hdistinct hlength
        exact ⟨_, _, rest, hdistinct, hlength, hrest⟩

theorem readPages_requests (reader : Reader ρ σ τ ε) (fetch : List (Option τ) → Except ε ρ)
    (hpos : 0 < reader.maxPages) (kept : σ) :
    (readPages reader fetch kept).requests.Nodup ∧
    (readPages reader fetch kept).requests.length ≤ reader.maxPages :=
  walk_requests (Cursor.start kept) (Cursor.Tracks.start hpos kept)

theorem readPages_eq_ok (hpos : 0 < reader.maxPages) (kept : σ) :
    (readPages reader fetch kept).result = .ok final ↔ ∃ requests pages,
      Chain fetch reader.next [] none requests pages ∧ requests.Nodup ∧
      requests.length ≤ reader.maxPages ∧ reader.keepAll 0 kept pages = .ok final :=
  walk_eq_ok (Cursor.start kept) (Cursor.Tracks.start hpos kept)

end Rules

end TokenChain
