import LotusRisk.Lib.Emission

/-! Dialogues: machines that send a request, read its answer and go on or stop. -/

namespace Dialogue
open Effects Emission
set_option autoImplicit true

/-- A machine whose phases either send a request or are over. -/
structure Machine (P ρ ω : Type) where
  request : P → Option ρ
  next : P → ω → P

variable {P ρ ω ε α β : Type} {m : Machine P ρ ω} {p q : P}

/-- The exchanges lead from one phase to another. -/
inductive Machine.Run (m : Machine P ρ ω) : P → List (ρ × ω) → P → Prop
  | nil (p : P) : m.Run p [] p
  | cons (p : P) (r : ρ) (a : ω) (rest : List (ρ × ω)) (q : P) (h : m.request p = some r)
      (hrest : m.Run (m.next p a) rest q) : m.Run p ((r, a) :: rest) q

section Runs

theorem Machine.Run.append (h : m.Run p before q) (h' : m.Run q after s) :
    m.Run p (before ++ after) s := by
  induction h with
  | nil p => exact h'
  | cons p r a rest q hr _ ih => exact .cons p r a _ s hr (ih h')

theorem Machine.Run.single (h : m.request p = some r) (a : ω) :
    m.Run p [(r, a)] (m.next p a) := .cons p r a [] _ h (.nil _)

/-- Every exchange of a run is sent by a phase that the ones before it lead to. -/
theorem Machine.Run.split (h : m.Run p (before ++ e :: after) q) :
    ∃ s, m.Run p before s ∧ m.request s = some e.1 ∧ m.Run (m.next s e.2) after q := by
  induction before generalizing p with
  | nil =>
    obtain ⟨r, a⟩ := e
    cases h with
    | cons _ _ _ _ _ hr hrest => exact ⟨p, .nil p, hr, hrest⟩
  | cons e' before ih =>
    cases h with
    | cons _ r a _ _ hr hrest =>
      obtain ⟨s, hbefore, hrequest, hafter⟩ := ih hrest
      exact ⟨s, .cons p r a before s hr hbefore, hrequest, hafter⟩

/-- What holds at the start and is kept by every exchange holds at the end. -/
theorem Machine.Run.invariant {I : P → List (ρ × ω) → Prop} (h : m.Run p exchanges q)
    (hstart : I p [])
    (hstep : ∀ s before r a, I s before → m.request s = some r →
      I (m.next s a) (before ++ [(r, a)])) : I q exchanges := by
  have hgeneral : ∀ {p q exchanges}, m.Run p exchanges q → ∀ before, I p before →
      I q (before ++ exchanges) := by
    intro p q exchanges h
    induction h with
    | nil p =>
      intro before hi
      rw [List.append_nil]
      exact hi
    | cons p r a rest q hr _ ih =>
      intro before hi
      have hnext := ih (before ++ [(r, a)]) (hstep p before r a hi hr)
      rw [List.append_assoc] at hnext
      exact hnext
  exact hgeneral h [] hstart

end Runs

section Programs

/-- From the phase `p` the computation sends what the machine does, and ends in a phase that its
result is related to. -/
def Follows (m : Machine P ρ ω) (p : P) (x : Eff ε (List (ρ × ω)) α)
    (Q : P → Except ε α → Prop) : Prop :=
  Emits x fun new r => ∃ q, m.Run p new q ∧ Q q r

variable {Q : P → Except ε α → Prop} {R : P → Except ε β → Prop}

theorem follows_pure (h : Q p (.ok a)) : Follows m p (pure a : Eff ε (List (ρ × ω)) α) Q :=
  emits_pure ⟨p, .nil p, h⟩

theorem follows_ofExcept {x : Except ε α} (h : Q p x) :
    Follows m p (MonadExcept.ofExcept x : Eff ε (List (ρ × ω)) α) Q :=
  emits_ofExcept ⟨p, .nil p, h⟩

theorem follows_ask (answer : List (ρ × ω) → ρ → ω) (h : m.request p = some r) :
    Follows m p (ask answer r : Eff ε (List (ρ × ω)) ω)
      (fun q result => ∃ a, q = m.next p a ∧ result = .ok a) := by
  apply (emits_ask answer r).weaken
  rintro new result ⟨a, rfl, rfl⟩
  exact ⟨m.next p a, Machine.Run.single h a, a, rfl, rfl⟩

theorem Follows.weaken {x : Eff ε (List (ρ × ω)) α} {Q' : P → Except ε α → Prop}
    (hx : Follows m p x Q) (h : ∀ q r, Q q r → Q' q r) : Follows m p x Q' := by
  apply Emits.weaken hx
  rintro new r ⟨q, hrun, hq⟩
  exact ⟨q, hrun, h q r hq⟩

/-- After a result the rest goes on from the phase reached; what is raised is passed on. -/
theorem Follows.bind {x : Eff ε (List (ρ × ω)) α} {f : α → Eff ε (List (ρ × ω)) β}
    (hx : Follows m p x Q) (herror : ∀ q e, Q q (.error e) → R q (.error e))
    (hok : ∀ q a, Q q (.ok a) → Follows m q (f a) R) : Follows m p (x >>= f) R := by
  apply Emits.bind hx
  · rintro new e ⟨q, hrun, hq⟩
    exact ⟨q, hrun, herror q e hq⟩
  · rintro new a ⟨q, hrun, hq⟩
    apply Emits.weaken (hok q a hq)
    rintro later r ⟨s, hlater, hs⟩
    exact ⟨s, hrun.append hlater, hs⟩

end Programs

end Dialogue
