import Mathlib.Data.List.Basic
import Mathlib.Data.List.Nodup
import Mathlib.Data.List.Induction
import Mathlib.Order.Lattice

/-! Leased work with fencing tokens. A piece of work is entered once, granted to one holder at a
time under a lease, finished by the holder whose token is current, and finally closed. -/

namespace Fencing
set_option autoImplicit true

/-- What can happen to one piece of work. -/
inductive Act (α : Type u) (τ : Type v) (T : Type w) (ρ : Type x) where
  | enter (a : α)
  | grant (token : τ) (now lease : T)
  | finish (token : τ) (outcome : ρ)
  | close

/-- Where one piece of work stands; `grants` counts the grants since it was entered. -/
inductive Phase (α : Type u) (τ : Type v) (T : Type w) (ρ : Type x) where
  | absent
  | waiting (a : α)
  | held (a : α) (token : τ) (lease : T) (grants : Nat)
  | finished (a : α) (token : τ) (grants : Nat) (outcome : ρ)

def Act.isGrant : Act α τ T ρ → Bool
  | .grant .. => true
  | _ => false

def Act.grantToken? : Act α τ T ρ → Option τ
  | .grant token _ _ => some token
  | _ => none

def grantTokens (acts : List (Act α τ T ρ)) : List τ :=
  acts.filterMap Act.grantToken?

@[simp] theorem grantTokens_append (xs ys : List (Act α τ T ρ)) :
    grantTokens (xs ++ ys) = grantTokens xs ++ grantTokens ys :=
  List.filterMap_append

@[simp] theorem grantTokens_grant (token : τ) (now lease : T) (acts : List (Act α τ T ρ)) :
    grantTokens (.grant token now lease :: acts) = token :: grantTokens acts := rfl

variable [DecidableEq τ] [LinearOrder T]

/-- A lapsed lease may be granted again; only the current token finishes the work. -/
def Phase.step : Phase α τ T ρ → Act α τ T ρ → Option (Phase α τ T ρ)
  | .absent, .enter a => some (.waiting a)
  | .waiting a, .grant token _ lease => some (.held a token lease 1)
  | .waiting _, .close => some .absent
  | .held a _ lease n, .grant token' now lease' =>
    if lease ≤ now then some (.held a token' lease' (n + 1)) else none
  | .held a token _ n, .finish token' outcome =>
    if token = token' then some (.finished a token n outcome) else none
  | .held .., .close => some .absent
  | .finished .., .close => some .absent
  | _, _ => none

def Phase.run (p : Phase α τ T ρ) (acts : List (Act α τ T ρ)) : Option (Phase α τ T ρ) :=
  acts.foldlM Phase.step p

@[simp] theorem Phase.run_nil (p : Phase α τ T ρ) : p.run [] = some p := rfl

theorem Phase.run_cons (p : Phase α τ T ρ) (act : Act α τ T ρ) (acts : List (Act α τ T ρ)) :
    p.run (act :: acts) = (p.step act).bind (·.run acts) := rfl

theorem Phase.run_append (p : Phase α τ T ρ) (xs ys : List (Act α τ T ρ)) :
    p.run (xs ++ ys) = (p.run xs).bind (·.run ys) := by
  simp only [Phase.run, List.foldlM_append]
  rfl

theorem Phase.run_snoc {p q : Phase α τ T ρ} {acts : List (Act α τ T ρ)} (h : p.run acts = some q)
    (act : Act α τ T ρ) : p.run (acts ++ [act]) = q.step act := by
  rw [Phase.run_append, h, Option.bind_some, Phase.run_cons]
  cases q.step act <;> rfl

theorem Phase.run_split {p r : Phase α τ T ρ} {xs ys : List (Act α τ T ρ)}
    (h : p.run (xs ++ ys) = some r) : ∃ q, p.run xs = some q ∧ q.run ys = some r := by
  rw [Phase.run_append] at h
  exact Option.bind_eq_some_iff.1 h

/-- How the current life of the work, its acts since it was last entered, led to a phase. -/
def Phase.Lived (acts : List (Act α τ T ρ)) : Phase α τ T ρ → Prop
  | .absent => acts = [] ∨ ∃ pre, acts = pre ++ [.close]
  | .waiting a => ∃ pre, acts = pre ++ [.enter a]
  | .held a token lease n => ∃ pre life now,
      acts = pre ++ .enter a :: (life ++ [.grant token now lease]) ∧
      (∀ act ∈ life, act.isGrant = true) ∧ life.length + 1 = n
  | .finished a token n outcome => ∃ pre life now lease,
      acts = pre ++ .enter a :: (life ++ [.grant token now lease, .finish token outcome]) ∧
      (∀ act ∈ life, act.isGrant = true) ∧ life.length + 1 = n

theorem Phase.Lived.step {p q : Phase α τ T ρ} {acts : List (Act α τ T ρ)} {act : Act α τ T ρ}
    (h : p.Lived acts) (hs : p.step act = some q) : q.Lived (acts ++ [act]) := by
  cases p with
  | absent =>
    cases act <;> simp only [Phase.step, Option.some.injEq, reduceCtorEq] at hs
    subst hs
    exact ⟨acts, rfl⟩
  | waiting a =>
    obtain ⟨pre, rfl⟩ := h
    cases act with
    | grant token now lease =>
      simp only [Phase.step, Option.some.injEq] at hs
      subst hs
      exact ⟨pre, [], now, by simp, by simp, rfl⟩
    | close =>
      simp only [Phase.step, Option.some.injEq] at hs
      subst hs
      exact .inr ⟨_, rfl⟩
    | enter | finish => cases hs
  | held a token lease n =>
    obtain ⟨pre, life, now, rfl, hl, hn⟩ := h
    cases act with
    | enter => cases hs
    | grant token' now' lease' =>
      simp only [Phase.step, Option.ite_none_right_eq_some, Option.some.injEq] at hs
      obtain ⟨-, rfl⟩ := hs
      refine ⟨pre, life ++ [.grant token now lease], now', by simp, fun act ha => ?_, ?_⟩
      · rcases List.mem_append.1 ha with ha | ha
        · exact hl act ha
        · rw [List.mem_singleton.1 ha]
          rfl
      · rw [List.length_append, List.length_singleton, hn]
    | finish token' outcome =>
      simp only [Phase.step, Option.ite_none_right_eq_some, Option.some.injEq] at hs
      obtain ⟨rfl, rfl⟩ := hs
      exact ⟨pre, life, now, lease, by simp, hl, hn⟩
    | close =>
      simp only [Phase.step, Option.some.injEq] at hs
      subst hs
      exact .inr ⟨_, rfl⟩
  | finished a token n outcome =>
    cases act <;> simp only [Phase.step, Option.some.injEq, reduceCtorEq] at hs
    subst hs
    exact .inr ⟨_, rfl⟩

/-- How often the work was granted since it was last entered. -/
def grantsInLife (acts : List (Act α τ T ρ)) : Nat :=
  acts.foldl (fun n act =>
    match act with
    | .enter _ => 0
    | .grant .. => n + 1
    | .finish .. | .close => n) 0

omit [DecidableEq τ] [LinearOrder T] in
theorem grantsInLife_of_life (pre life : List (Act α τ T ρ)) (a : α)
    (h : ∀ act ∈ life, act.isGrant = true) :
    grantsInLife (pre ++ .enter a :: life) = life.length := by
  unfold grantsInLife
  rw [List.foldl_append, List.foldl_cons]
  induction life using List.reverseRecOn with
  | nil => rfl
  | append_singleton life act ih =>
    rw [List.foldl_append, ih (fun act ha => h act (List.mem_append_left _ ha)), List.foldl_cons,
      List.foldl_nil, List.length_append, List.length_singleton]
    cases act with
    | grant => rfl
    | enter | finish | close => cases h _ (List.mem_append_right _ (List.mem_singleton.2 rfl))

theorem run_lived {p : Phase α τ T ρ} {acts : List (Act α τ T ρ)}
    (h : Phase.absent.run acts = some p) : p.Lived acts := by
  induction acts using List.reverseRecOn generalizing p with
  | nil =>
    cases h
    exact .inl rfl
  | append_singleton acts act ih =>
    obtain ⟨q, hq, -⟩ := Phase.run_split h
    rw [Phase.run_snoc hq] at h
    exact (ih hq).step h

/-- The current holder is the one the last act granted. -/
theorem held_last_grant {acts : List (Act α τ T ρ)}
    (h : Phase.absent.run acts = some (.held a token lease n)) :
    ∃ pre now, acts = pre ++ [.grant token now lease] := by
  obtain ⟨pre, life, now, rfl, -, -⟩ := run_lived h
  exact ⟨pre ++ .enter a :: life, now, by simp⟩

theorem held_grants {acts : List (Act α τ T ρ)}
    (h : Phase.absent.run acts = some (.held a token lease n)) : grantsInLife acts = n := by
  obtain ⟨pre, life, now, rfl, hl, hn⟩ := run_lived h
  rw [grantsInLife_of_life, List.length_append, List.length_singleton, hn]
  intro act ha
  rcases List.mem_append.1 ha with ha | ha
  · exact hl act ha
  · rw [List.mem_singleton.1 ha]
    rfl

/-- A holder keeps its token only as long as nothing happens to its work. -/
theorem held_unchanged {acts mid : List (Act α τ T ρ)} (hn : (grantTokens (acts ++ mid)).Nodup)
    (h : Phase.absent.run acts = some (.held a token lease n))
    (h' : Phase.absent.run (acts ++ mid) = some (.held a' token lease' n')) : mid = [] := by
  obtain ⟨pre, now, rfl⟩ := held_last_grant h
  obtain ⟨pre', now', he⟩ := held_last_grant h'
  cases mid using List.reverseRecOn with
  | nil => rfl
  | append_singleton mid act =>
    rw [← List.append_assoc] at he
    obtain ⟨-, ha⟩ := List.append_inj' he rfl
    rw [List.singleton_inj] at ha
    subst ha
    simp [grantTokens, Act.grantToken?, List.nodup_append] at hn

end Fencing
