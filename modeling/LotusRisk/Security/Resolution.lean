import LotusRisk.Security.Models

namespace LotusRisk
open Effects
set_option autoImplicit true

section Ports

/-- `CredentialVerifier.verify`. -/
structure CredentialVerifier (σ : Type) where
  verify : String → SecurityM σ PyObject

structure GrantStore (σ : Type) where
  tenantMembers : PyObject → PyObject → SecurityM σ PyObject
  grantsFor : PyObject → PyObject → SecurityM σ PyObject
  applicationGrantsFor : PyObject → PyObject → SecurityM σ PyObject

structure PrincipalProviders (σ : Type) where
  verifier : Option (CredentialVerifier σ)
  grantStore : Option (GrantStore σ)

/-- Provider failure is unavailable authority, whatever was raised. -/
def securityProviderCall (operation : SecurityM σ α) : SecurityM σ α :=
  tryCatch operation (fun _ => throw .securityProviderUnavailable)

def declaredVerifierDenials : List (String × Int) := [
  ("missing_credential", 401),
  ("malformed_credential", 401),
  ("expired_credential", 401),
  ("wrong_audience", 401),
  ("wrong_issuer", 401),
  ("unknown_key_id", 401),
  ("revoked_principal", 401),
  ("present_but_unverified", 401),
  ("tenant_not_a_member", 403),
  ("capability_not_granted", 403),
  ("portfolio_outside_scope", 403),
  ("delegated_capability_not_held_by_user", 403),
  ("grant_store_unavailable", 503)]

/-- The handler of `credential_verifier_call`: declared denials pass, the rest is unavailable. What
reading the fields of the denial raises leaves the handler. -/
def boundedDenial : Raised → Raised
  | .principalDenied (.raises e) _ => e
  | .principalDenied (.value (.str reason)) status =>
    match status with
    | .raises e => e
    | .value (.int status) =>
      match declaredVerifierDenials.lookup reason with
      | none => .securityProviderUnavailable
      | some expected =>
        if status ≠ expected then .securityProviderUnavailable else denied reason expected
    | .value _ => .securityProviderUnavailable
  | _ => .securityProviderUnavailable

def credentialVerifierCall (operation : SecurityM σ α) : SecurityM σ α :=
  tryCatch operation (fun failure => throw (boundedDenial failure))

end Ports

def requireMembership (store : GrantStore σ) (subject tenant : PyObject) : SecurityM σ Unit := do
  match ← securityProviderCall (store.tenantMembers subject tenant) with
  | .bool membership => raiseUnless membership (denied "tenant_not_a_member" 403)
  | _ => throw .securityProviderUnavailable

/-- `isinstance(value, GrantSet)`, with what reading the fields of the grants gives. -/
def requireGrants : PyObject → SecurityM σ (Except Raised GrantSet)
  | .grants grants => pure (.ok grants)
  | .bareGrants e => pure (.error e)
  | _ => throw .securityProviderUnavailable

def delegatedGrants (principal : VerifiedCredential) (grants : Except Raised GrantSet)
    (store : GrantStore σ) (capability : Option String) : SecurityM σ GrantSet := do
  raiseUnless (!principal.actor.isNone) (denied "malformed_credential" 401)
  requireMembership store principal.actor principal.tenantId
  let result ←
    securityProviderCall (store.applicationGrantsFor principal.actor principal.tenantId)
  let application ← requireGrants result
  let grants ← MonadExcept.ofExcept grants
  let application ← MonadExcept.ofExcept application
  raiseUnless (!capability.any (fun c => c ∉ grants.capabilities ∧ c ∈ application.capabilities))
    (denied "delegated_capability_not_held_by_user" 403)
  GrantSet.new (grants.capabilities ∩ application.capabilities)
    (grants.portfolioIds ∩ application.portfolioIds)

/-- The grants of a direct credential are the subject's own, which are not read yet. -/
def effectiveGrants (principal : VerifiedCredential) (grants : Except Raised GrantSet)
    (store : GrantStore σ) (capability : Option String) : SecurityM σ (Except Raised GrantSet) :=
  if principal.kind.isText "delegated" then
    .ok <$> delegatedGrants principal grants store capability
  else pure grants

def requireCapability (grants : Except Raised GrantSet) (capability : Option String) :
    SecurityM σ GrantSet :=
  match capability with
  | none => throw (denied "capability_not_granted" 403)
  | some required => do
    let grants ← MonadExcept.ofExcept grants
    raiseUnless (required ∈ grants.capabilities) (denied "capability_not_granted" 403)
    pure grants

/-- The body of the `try` statement. -/
def establishPrincipal (verifier : CredentialVerifier σ) (providers : PrincipalProviders σ)
    (credential : String) (capability : Option String) : SecurityM σ ResolvedPrincipal := do
  match ← credentialVerifierCall (verifier.verify credential) with
  | .credential fields =>
    let principal ← requireValidProviderResult fields
    match providers.grantStore with
    | none => throw (denied "grant_store_unavailable" 503)
    | some store =>
      requireMembership store principal.subject principal.tenantId
      let result ← securityProviderCall (store.grantsFor principal.subject principal.tenantId)
      let grants ← requireGrants result
      let grants ← effectiveGrants principal grants store capability
      let grants ← requireCapability grants capability
      pure ⟨principal, grants⟩
  | _ => throw .securityProviderUnavailable

def unavailableDenied : Raised → Raised
  | .securityProviderUnavailable => denied "grant_store_unavailable" 503
  | e => e

def resolvePrincipal (credential capability : Option String) (providers : PrincipalProviders σ) :
    SecurityM σ ResolvedPrincipal :=
  match credential with
  | none => throw (denied "missing_credential" 401)
  | some text =>
    if text = "" then throw (denied "missing_credential" 401)
    else match providers.verifier with
      | none => throw (denied "grant_store_unavailable" 503)
      | some verifier =>
        tryCatch (establishPrincipal verifier providers text capability)
          (fun e => throw (unavailableDenied e))

section Denials

/-- A denial of the declared table: nothing a provider wrote is in it. -/
def Declared (e : Raised) : Prop := ∃ d ∈ declaredVerifierDenials, e = denied d.1 d.2

/-- What may be raised inside the `try` statement. -/
def Bounded (e : Raised) : Prop := Declared e ∨ e = .securityProviderUnavailable

theorem bounded_unavailable : Bounded .securityProviderUnavailable := .inr rfl

theorem bounded_denied (h : (reason, status) ∈ declaredVerifierDenials) :
    Bounded (denied reason status) :=
  .inl ⟨_, h, rfl⟩

/-- What reading the fields of a denial raises. -/
def Raised.fieldRaises : Raised → Option Raised
  | .principalDenied (.raises e) _ => some e
  | .principalDenied (.value (.str _)) (.raises e) => some e
  | _ => none

theorem boundedDenial_cases (raised : Raised) :
    Bounded (boundedDenial raised) ∨ raised.fieldRaises = some (boundedDenial raised) := by
  unfold boundedDenial
  split
  · exact .inr rfl
  · split
    · exact .inr rfl
    · split
      · exact .inl bounded_unavailable
      · rename_i expected he
        split
        · exact .inl bounded_unavailable
        · obtain ⟨before, after, hl, -⟩ := List.lookup_eq_some_iff.1 he
          refine .inl (bounded_denied ?_)
          rw [hl]
          exact List.mem_append_right _ List.mem_cons_self
    · exact .inl bounded_unavailable
  · exact .inl bounded_unavailable

theorem boundedDenial_of_fieldRaises {raised : Raised} (h : raised.fieldRaises = some e) :
    boundedDenial raised = e := by
  unfold Raised.fieldRaises at h
  split at h
  · exact Option.some.inj h
  · exact Option.some.inj h
  · cases h

theorem raises_securityProviderCall (operation : SecurityM σ α) :
    Raises (securityProviderCall operation) Bounded :=
  Raises.tryCatch (Raises.trivial operation) (fun _ _ => .throw bounded_unavailable)

theorem raises_requireMembership (store : GrantStore σ) (subject tenant : PyObject) :
    Raises (requireMembership store subject tenant) Bounded := by
  unfold requireMembership
  apply Raises.bind (raises_securityProviderCall _)
  intro membership
  cases membership with
  | bool b => exact raises_raiseUnless (bounded_denied (by decide))
  | _ => exact .throw bounded_unavailable

theorem raises_grantSet_new (capabilities portfolioIds : Finset String) :
    Raises (GrantSet.new capabilities portfolioIds : SecurityM σ GrantSet) Bounded := by
  unfold GrantSet.new
  split
  · exact .pure _ _
  · exact .throw bounded_unavailable

theorem raises_requireGrants (value : PyObject) :
    Raises (requireGrants value : SecurityM σ (Except Raised GrantSet)) Bounded := by
  cases value with
  | grants => exact .pure _ _
  | bareGrants => exact .pure _ _
  | _ => exact .throw bounded_unavailable

theorem declared_unavailableDenied : Declared (unavailableDenied e) ↔ Bounded e := by
  constructor
  · intro h
    cases e with
    | securityProviderUnavailable => exact bounded_unavailable
    | _ => exact .inl h
  · rintro (⟨d, hd, rfl⟩ | rfl)
    · exact ⟨d, hd, rfl⟩
    · exact ⟨("grant_store_unavailable", 503), by decide, rfl⟩

end Denials

section Grants

theorem returns_securityProviderCall {operation : SecurityM σ α} :
    Returns (securityProviderCall operation) s a s' ↔ Returns operation s a s' :=
  returns_tryCatch (fun _ _ _ _ => not_returns_throw)

theorem returns_credentialVerifierCall {operation : SecurityM σ α} :
    Returns (credentialVerifierCall operation) s a s' ↔ Returns operation s a s' :=
  returns_tryCatch (fun _ _ _ _ => not_returns_throw)

theorem returns_ofExcept {x : Except Raised α} :
    Returns (MonadExcept.ofExcept x : SecurityM σ α) s a s' ↔ x = .ok a ∧ s = s' := by
  cases x with
  | ok b => exact returns_pure.trans (by rw [Except.ok.injEq])
  | error e => exact iff_of_false not_returns_throw (fun h => by cases h.1)

theorem fails_ofExcept {x : Except Raised α} :
    Fails (MonadExcept.ofExcept x : SecurityM σ α) s e s' ↔ x = .error e ∧ s = s' := by
  cases x with
  | ok b => exact iff_of_false not_fails_pure (fun h => by cases h.1)
  | error e => exact fails_throw.trans (by rw [Except.error.injEq])

/-- A value that is a `GrantSet`, with what reading its fields gives. -/
def GrantsObject (value : PyObject) (grants : Except Raised GrantSet) : Prop :=
  value = match grants with
    | .ok grants => .grants grants
    | .error e => .bareGrants e

theorem grantsObject_ok (grants : GrantSet) : GrantsObject (.grants grants) (.ok grants) := rfl

theorem grantsObject_error (e : Raised) : GrantsObject (.bareGrants e) (.error e) := rfl

theorem returns_requireGrants {value : PyObject} :
    Returns (requireGrants value : SecurityM σ _) s grants s' ↔
      GrantsObject value grants ∧ s = s' := by
  unfold GrantsObject
  cases value with
  | grants g => cases grants <;> simp [requireGrants, returns_pure, eq_comm]
  | bareGrants e => cases grants <;> simp [requireGrants, returns_pure]
  | _ => cases grants <;> simp [requireGrants, not_returns_throw]

/-- Only the value `True` of the store is a membership. -/
theorem returns_requireMembership {store : GrantStore σ} {subject tenant : PyObject} :
    Returns (requireMembership store subject tenant) s () s' ↔
      Returns (store.tenantMembers subject tenant) s (.bool true) s' := by
  unfold requireMembership
  rw [returns_bind]
  constructor
  · rintro ⟨membership, s₁, hcall, h⟩
    rw [returns_securityProviderCall] at hcall
    cases membership with
    | bool b =>
      obtain ⟨rfl, rfl⟩ := returns_raiseUnless.1 h
      exact hcall
    | _ => exact absurd h not_returns_throw
  · intro h
    exact ⟨_, _, returns_securityProviderCall.2 h, returns_raiseUnless.2 ⟨rfl, rfl⟩⟩

/-- The application confirmed by the store, and the intersection with its grants. -/
def Delegation (store : GrantStore σ) (principal : VerifiedCredential) (grants : GrantSet) (s : σ)
    (effective : GrantSet) (s' : σ) : Prop :=
  ∃ s₁ application,
    Returns (store.tenantMembers principal.actor principal.tenantId) s (.bool true) s₁ ∧
    Returns (store.applicationGrantsFor principal.actor principal.tenantId) s₁
      (.grants application) s' ∧
    effective.capabilities = grants.capabilities ∩ application.capabilities ∧
    effective.portfolioIds = grants.portfolioIds ∩ application.portfolioIds

theorem returns_delegatedGrants {principal : VerifiedCredential} {effective : GrantSet}
    {store : GrantStore σ}
    (h : Returns (delegatedGrants principal result store capability) s effective s') :
    ∃ grants, result = .ok grants ∧ Delegation store principal grants s effective s' := by
  unfold delegatedGrants at h
  obtain ⟨_, _, ha, h⟩ := returns_bind.1 h
  obtain ⟨-, rfl⟩ := returns_raiseUnless.1 ha
  obtain ⟨_, s₁, hm, h⟩ := returns_bind.1 h
  obtain ⟨value, s₂, hc, h⟩ := returns_bind.1 h
  rw [returns_securityProviderCall] at hc
  obtain ⟨application, _, hvalue, h⟩ := returns_bind.1 h
  obtain ⟨hobject, rfl⟩ := returns_requireGrants.1 hvalue
  obtain ⟨grants, _, hgrants, h⟩ := returns_bind.1 h
  obtain ⟨rfl, rfl⟩ := returns_ofExcept.1 hgrants
  obtain ⟨application, _, happlication, h⟩ := returns_bind.1 h
  obtain ⟨rfl, rfl⟩ := returns_ofExcept.1 happlication
  obtain ⟨_, _, hu, h⟩ := returns_bind.1 h
  obtain ⟨-, rfl⟩ := returns_raiseUnless.1 hu
  obtain ⟨hcap, hport, rfl⟩ := returns_grantSet_new h
  rw [hobject] at hc
  exact ⟨grants, rfl, s₁, application, returns_requireMembership.1 hm, hc, hcap, hport⟩

theorem returns_effectiveGrants {principal : VerifiedCredential} {effective : GrantSet}
    {store : GrantStore σ}
    (h : Returns (effectiveGrants principal result store capability) s (.ok effective) s') :
    ∃ grants, result = .ok grants ∧
      (principal.kind = .str "delegated" → Delegation store principal grants s effective s') ∧
      (principal.kind ≠ .str "delegated" → effective = grants) := by
  unfold effectiveGrants at h
  split at h
  · rename_i hd
    rw [map_eq_pure_bind] at h
    obtain ⟨held, s₁, hdelegated, hpure⟩ := returns_bind.1 h
    obtain ⟨heq, rfl⟩ := returns_pure.1 hpure
    obtain ⟨grants, hgrants, hdelegation⟩ := returns_delegatedGrants hdelegated
    rw [Except.ok.inj heq] at hdelegation
    exact ⟨grants, hgrants, fun _ => hdelegation, fun hn => absurd (isText_iff.1 hd) hn⟩
  · rename_i hd
    obtain ⟨rfl, -⟩ := returns_pure.1 h
    exact ⟨effective, rfl, fun hk => absurd (isText_iff.2 hk) hd, fun _ => rfl⟩

theorem returns_requireCapability {grants : GrantSet}
    (h : Returns (requireCapability result capability : SecurityM σ GrantSet) s grants s') :
    result = .ok grants ∧ s = s' ∧ ∃ required, capability = some required ∧
      required ∈ grants.capabilities := by
  unfold requireCapability at h
  split at h
  · exact absurd h not_returns_throw
  · rename_i required
    obtain ⟨_, _, hgrants, h⟩ := returns_bind.1 h
    obtain ⟨rfl, rfl⟩ := returns_ofExcept.1 hgrants
    obtain ⟨_, _, hraise, h⟩ := returns_bind.1 h
    obtain ⟨hcap, rfl⟩ := returns_raiseUnless.1 hraise
    obtain ⟨rfl, rfl⟩ := returns_pure.1 h
    exact ⟨rfl, rfl, required, rfl, of_decide_eq_true hcap⟩

end Grants

section Principals

/-- The verifier returned a valid credential of a member of its tenant. -/
structure Confirmed (providers : PrincipalProviders σ) (text : String) (s : σ)
    (principal : VerifiedCredential) (store : GrantStore σ) (s₂ : σ) : Prop where
  verified : ∃ verifier fields s₁, providers.verifier = some verifier ∧
    Returns (verifier.verify text) s (.credential fields) s₁ ∧ fields.Reads principal ∧
    Returns (store.tenantMembers principal.subject principal.tenantId) s₁ (.bool true) s₂
  valid : ValidCredential principal
  held : providers.grantStore = some store

/-- The providers established the principal, one call after the other from `s`. -/
structure Established (providers : PrincipalProviders σ) (credential capability : Option String)
    (s : σ) (principal : ResolvedPrincipal) : Prop where
  presented : ∃ text store s₂ grants s₃ s₄, credential = some text ∧ text ≠ "" ∧
    Confirmed providers text s principal.credential store s₂ ∧
    Returns (store.grantsFor principal.credential.subject principal.credential.tenantId) s₂
      (.grants grants) s₃ ∧
    (principal.credential.kind = .str "delegated" →
      Delegation store principal.credential grants s₃ principal.grants s₄) ∧
    (principal.credential.kind ≠ .str "delegated" → principal.grants = grants)
  capable : ∃ required, capability = some required ∧ required ∈ principal.grants.capabilities

theorem Established.valid {providers : PrincipalProviders σ} {principal : ResolvedPrincipal}
    (h : Established providers credential capability s principal) :
    ValidCredential principal.credential := by
  obtain ⟨text, store, s₂, grants, s₃, s₄, -, -, hconfirmed, -⟩ := h.presented
  exact hconfirmed.valid

theorem returns_resolvePrincipal {providers : PrincipalProviders σ} {principal : ResolvedPrincipal}
    (h : Returns (resolvePrincipal credential capability providers) s principal s') :
    Established providers credential capability s principal := by
  unfold resolvePrincipal at h
  cases credential with
  | none => exact absurd h not_returns_throw
  | some text =>
    dsimp only at h
    split at h
    · exact absurd h not_returns_throw
    rename_i ht
    cases hv : providers.verifier with
    | none =>
      rw [hv] at h
      exact absurd h not_returns_throw
    | some verifier =>
      rw [hv] at h
      rw [returns_tryCatch (fun _ _ _ _ => not_returns_throw)] at h
      unfold establishPrincipal at h
      obtain ⟨result, s₁, hc, h⟩ := returns_bind.1 h
      rw [returns_credentialVerifierCall] at hc
      cases result with
      | credential fields =>
        obtain ⟨credential, _, hr, h⟩ := returns_bind.1 h
        obtain ⟨hreads, valid, rfl⟩ := returns_requireValidProviderResult hr
        cases hs : providers.grantStore with
        | none =>
          rw [hs] at h
          exact absurd h not_returns_throw
        | some store =>
          rw [hs] at h
          obtain ⟨_, s₂, hm, h⟩ := returns_bind.1 h
          obtain ⟨value, s₃, hg, h⟩ := returns_bind.1 h
          rw [returns_securityProviderCall] at hg
          obtain ⟨result, _, hvalue, h⟩ := returns_bind.1 h
          obtain ⟨hobject, rfl⟩ := returns_requireGrants.1 hvalue
          obtain ⟨effective, s₄, he, h⟩ := returns_bind.1 h
          obtain ⟨held, _, hcap, h⟩ := returns_bind.1 h
          obtain ⟨rfl, rfl, hcapable⟩ := returns_requireCapability hcap
          obtain ⟨rfl, rfl⟩ := returns_pure.1 h
          obtain ⟨grants, rfl, hd, hn⟩ := returns_effectiveGrants he
          rw [hobject] at hg
          exact ⟨⟨text, store, s₂, grants, s₃, s₄, rfl, ht, ⟨⟨verifier, fields, s₁, hv, hc, hreads,
            returns_requireMembership.1 hm⟩, valid, hs⟩, hg, hd, hn⟩, hcapable⟩
      | _ => exact absurd h not_returns_throw

end Principals

section Reads

/-- The store confirms the application, and answers with grants of it. -/
def ApplicationGrants (store : GrantStore σ) (principal : VerifiedCredential) (s : σ)
    (application : Except Raised GrantSet) : Prop :=
  ∃ s₁ value s₂, Returns (store.tenantMembers principal.actor principal.tenantId) s (.bool true) s₁ ∧
    Returns (store.applicationGrantsFor principal.actor principal.tenantId) s₁ value s₂ ∧
    GrantsObject value application

variable (providers : PrincipalProviders σ)

/-- What reading a field of an object that a provider handed over raises, in a run from `s`. -/
inductive ReadRaises (text : String) (capability : Option String) (s : σ) : Raised → Prop
  | denial (hverifier : providers.verifier = some verifier)
      (hdenial : Fails (verifier.verify text) s denial s₁)
      (h : denial.fieldRaises = some e) : ReadRaises text capability s e
  | credential (hverifier : providers.verifier = some verifier)
      (hreturned : Returns (verifier.verify text) s (.credential fields) s₁)
      (h : UnreadableField fields e) : ReadRaises text capability s e
  | direct (hconfirmed : Confirmed providers text s principal store s₂)
      (hkind : principal.kind ≠ .str "delegated") (hcapability : capability = some required)
      (hgrants : Returns (store.grantsFor principal.subject principal.tenantId) s₂
        (.bareGrants e) s₃) : ReadRaises text capability s e
  | user (hconfirmed : Confirmed providers text s principal store s₂)
      (hkind : principal.kind = .str "delegated")
      (hgrants : Returns (store.grantsFor principal.subject principal.tenantId) s₂
        (.bareGrants e) s₃)
      (happlication : ApplicationGrants store principal s₃ application) :
      ReadRaises text capability s e
  | application (hconfirmed : Confirmed providers text s principal store s₂)
      (hkind : principal.kind = .str "delegated")
      (hgrants : Returns (store.grantsFor principal.subject principal.tenantId) s₂
        (.grants grants) s₃)
      (happlication : ApplicationGrants store principal s₃ (.error e)) :
      ReadRaises text capability s e

variable {providers}

theorem fails_delegatedGrants {principal : VerifiedCredential} {store : GrantStore σ}
    (h : Fails (delegatedGrants principal grants store capability) s e s') :
    Bounded e ∨ ∃ application, ApplicationGrants store principal s application ∧
      (grants = .error e ∨ ∃ held, grants = .ok held ∧ application = .error e) := by
  unfold delegatedGrants at h
  rcases fails_bind.1 h with h | ⟨_, _, hactor, h⟩
  · rw [fails_raiseUnless h]
    exact .inl (bounded_denied (by decide))
  obtain ⟨-, rfl⟩ := returns_raiseUnless.1 hactor
  rcases fails_bind.1 h with h | ⟨_, s₄, hmember, h⟩
  · exact .inl (raises_requireMembership _ _ _ _ _ _ h)
  rcases fails_bind.1 h with h | ⟨value, s₅, hcall, h⟩
  · exact .inl (raises_securityProviderCall _ _ _ _ h)
  rcases fails_bind.1 h with h | ⟨application, _, hvalue, h⟩
  · exact .inl (raises_requireGrants _ _ _ _ h)
  obtain ⟨hobject, rfl⟩ := returns_requireGrants.1 hvalue
  have happlication : ApplicationGrants store principal _ application :=
    ⟨s₄, value, _, returns_requireMembership.1 hmember, returns_securityProviderCall.1 hcall,
      hobject⟩
  rcases fails_bind.1 h with h | ⟨held, _, hgrants, h⟩
  · exact .inr ⟨application, happlication, .inl (fails_ofExcept.1 h).1⟩
  obtain ⟨rfl, rfl⟩ := returns_ofExcept.1 hgrants
  rcases fails_bind.1 h with h | ⟨_, _, _, h⟩
  · exact .inr ⟨application, happlication, .inr ⟨held, rfl, (fails_ofExcept.1 h).1⟩⟩
  rcases fails_bind.1 h with h | ⟨_, _, _, h⟩
  · rw [fails_raiseUnless h]
    exact .inl (bounded_denied (by decide))
  · exact .inl (raises_grantSet_new _ _ _ _ _ h)

/-- What a confirmed credential's grants raise when they are weighed against the capability. -/
theorem fails_grants {principal : VerifiedCredential} {store : GrantStore σ}
    (hconfirmed : Confirmed providers text s principal store s₂)
    (hcall : Returns (store.grantsFor principal.subject principal.tenantId) s₂ value s₃)
    (hobject : GrantsObject value grants)
    (h : Fails (effectiveGrants principal grants store capability >>= fun grants =>
      requireCapability grants capability) s₃ e s') :
    Bounded e ∨ ReadRaises providers text capability s e := by
  rw [hobject] at hcall
  by_cases hkind : principal.kind = .str "delegated"
  · rw [effectiveGrants, if_pos (isText_iff.2 hkind), map_eq_pure_bind] at h
    rcases fails_bind.1 h with h | ⟨effective, _, hreturned, h⟩
    · rcases fails_bind.1 h with h | ⟨_, _, _, h⟩
      · rcases fails_delegatedGrants h with
          hbounded | ⟨application, happlication, rfl | ⟨held, rfl, rfl⟩⟩
        · exact .inl hbounded
        · exact .inr (.user hconfirmed hkind hcall happlication)
        · exact .inr (.application hconfirmed hkind hcall happlication)
      · exact absurd h not_fails_pure
    · obtain ⟨_, _, -, hpure⟩ := returns_bind.1 hreturned
      obtain ⟨rfl, rfl⟩ := returns_pure.1 hpure
      unfold requireCapability at h
      split at h
      · rw [← (fails_throw.1 h).1]
        exact .inl (bounded_denied (by decide))
      · rcases fails_bind.1 h with h | ⟨_, _, _, h⟩
        · cases (fails_ofExcept.1 h).1
        · rcases fails_bind.1 h with h | ⟨_, _, _, h⟩
          · rw [fails_raiseUnless h]
            exact .inl (bounded_denied (by decide))
          · exact absurd h not_fails_pure
  · rw [effectiveGrants, if_neg (fun hd => hkind (isText_iff.1 hd)), pure_bind] at h
    unfold requireCapability at h
    split at h
    · rw [← (fails_throw.1 h).1]
      exact .inl (bounded_denied (by decide))
    · rename_i required
      rcases fails_bind.1 h with h | ⟨_, _, _, h⟩
      · obtain ⟨rfl, rfl⟩ := fails_ofExcept.1 h
        exact .inr (.direct hconfirmed hkind rfl hcall)
      · rcases fails_bind.1 h with h | ⟨_, _, _, h⟩
        · rw [fails_raiseUnless h]
          exact .inl (bounded_denied (by decide))
        · exact absurd h not_fails_pure

/-- The resolution raises what is bounded, or what reading a field raises. -/
theorem fails_establishPrincipal (hverifier : providers.verifier = some verifier)
    (h : Fails (establishPrincipal verifier providers text capability) s e s') :
    Bounded e ∨ ReadRaises providers text capability s e := by
  unfold establishPrincipal at h
  rcases fails_bind.1 h with h | ⟨result, s₁, hverified, h⟩
  · obtain ⟨denial, hdenial, rfl⟩ := fails_tryCatch_throw.1 h
    rcases boundedDenial_cases denial with hbounded | hfield
    · exact .inl hbounded
    · exact .inr (.denial hverifier hdenial hfield)
  rw [returns_credentialVerifierCall] at hverified
  cases result with
  | credential fields =>
    rcases fails_bind.1 h with h | ⟨principal, _, hchecked, h⟩
    · rcases fails_requireValidProviderResult h with rfl | hfield
      · exact .inl bounded_unavailable
      · exact .inr (.credential hverifier hverified hfield)
    obtain ⟨hreads, hvalid, rfl⟩ := returns_requireValidProviderResult hchecked
    cases hstore : providers.grantStore with
    | none =>
      rw [hstore] at h
      rw [← (fails_throw.1 h).1]
      exact .inl (bounded_denied (by decide))
    | some store =>
      rw [hstore] at h
      rcases fails_bind.1 h with h | ⟨_, s₂, hmember, h⟩
      · exact .inl (raises_requireMembership _ _ _ _ _ _ h)
      rcases fails_bind.1 h with h | ⟨value, s₃, hcall, h⟩
      · exact .inl (raises_securityProviderCall _ _ _ _ h)
      rcases fails_bind.1 h with h | ⟨grants, _, hvalue, h⟩
      · exact .inl (raises_requireGrants _ _ _ _ h)
      obtain ⟨hobject, rfl⟩ := returns_requireGrants.1 hvalue
      have hconfirmed : Confirmed providers text s principal store s₂ :=
        ⟨⟨verifier, fields, s₁, hverifier, hverified, hreads, returns_requireMembership.1 hmember⟩,
          hvalid, hstore⟩
      apply fails_grants hconfirmed (returns_securityProviderCall.1 hcall) hobject
      rcases fails_bind.1 h with h | ⟨effective, s₄, heffective, h⟩
      · exact fails_bind.2 (.inl h)
      · rcases fails_bind.1 h with h | ⟨_, _, _, h⟩
        · exact fails_bind.2 (.inr ⟨effective, s₄, heffective, h⟩)
        · exact absurd h not_fails_pure
  | _ =>
    rw [← (fails_throw.1 h).1]
    exact .inl bounded_unavailable

/-- What the grants of a confirmed credential raise leaves the resolution. -/
theorem Confirmed.fails {principal : VerifiedCredential} {store : GrantStore σ}
    (h : Confirmed providers text s principal store s₂)
    (hcall : Returns (store.grantsFor principal.subject principal.tenantId) s₂ value s₃)
    (hobject : GrantsObject value grants)
    (hfails : Fails (effectiveGrants principal grants store capability >>= fun grants =>
      requireCapability grants capability) s₃ e s') :
    ∃ verifier, providers.verifier = some verifier ∧
      Fails (establishPrincipal verifier providers text capability) s e s' := by
  obtain ⟨verifier, fields, s₁, hverifier, hverified, hreads, hmember⟩ := h.verified
  refine ⟨verifier, hverifier, ?_⟩
  refine fails_bind.2 (.inr ⟨_, s₁, returns_credentialVerifierCall.2 hverified, ?_⟩)
  refine fails_bind.2 (.inr ⟨principal, s₁, returns_of_valid hreads h.valid s₁, ?_⟩)
  rw [h.held]
  refine fails_bind.2 (.inr ⟨(), s₂, returns_requireMembership.2 hmember, ?_⟩)
  refine fails_bind.2 (.inr ⟨value, s₃, returns_securityProviderCall.2 hcall, ?_⟩)
  refine fails_bind.2 (.inr ⟨grants, s₃, returns_requireGrants.2 ⟨hobject, rfl⟩, ?_⟩)
  rcases fails_bind.1 hfails with heffective | ⟨effective, s₄, heffective, hcapability⟩
  · exact fails_bind.2 (.inl heffective)
  · exact fails_bind.2 (.inr ⟨effective, s₄, heffective, fails_bind.2 (.inl hcapability)⟩)

/-- The grants of a delegated credential are read once the application's are there. -/
theorem fails_effectiveGrants {principal : VerifiedCredential} {store : GrantStore σ}
    (hvalid : ValidCredential principal) (hkind : principal.kind = .str "delegated")
    (happlication : ApplicationGrants store principal s application)
    (h : grants = .error e ∨ ∃ held, grants = .ok held ∧ application = .error e) :
    ∃ s', Fails (effectiveGrants principal grants store capability >>= fun grants =>
      requireCapability grants capability) s e s' := by
  obtain ⟨s₁, value, s₂, hmember, hcall, hobject⟩ := happlication
  have hactor : (!principal.actor.isNone) = true := by
    have htext := hvalid.delegated hkind
    cases hnone : principal.actor with
    | none =>
      rw [hnone] at htext
      cases htext
    | _ => rfl
  have hread : Fails (do
      let grants ← MonadExcept.ofExcept grants
      let application ← MonadExcept.ofExcept application
      raiseUnless
        (!capability.any (fun c => c ∉ grants.capabilities ∧ c ∈ application.capabilities))
        (denied "delegated_capability_not_held_by_user" 403)
      GrantSet.new (grants.capabilities ∩ application.capabilities)
        (grants.portfolioIds ∩ application.portfolioIds) : SecurityM σ GrantSet) s₂ e s₂ := by
    rcases h with rfl | ⟨held, rfl, rfl⟩
    · exact fails_bind.2 (.inl (fails_ofExcept.2 ⟨rfl, rfl⟩))
    · refine fails_bind.2 (.inr ⟨held, s₂, returns_ofExcept.2 ⟨rfl, rfl⟩, ?_⟩)
      exact fails_bind.2 (.inl (fails_ofExcept.2 ⟨rfl, rfl⟩))
  refine ⟨s₂, fails_bind.2 (.inl ?_)⟩
  rw [effectiveGrants, if_pos (isText_iff.2 hkind), map_eq_pure_bind]
  refine fails_bind.2 (.inl ?_)
  refine fails_bind.2 (.inr ⟨(), s, returns_raiseUnless.2 ⟨hactor, rfl⟩, ?_⟩)
  refine fails_bind.2 (.inr ⟨(), s₁, returns_requireMembership.2 hmember, ?_⟩)
  refine fails_bind.2 (.inr ⟨value, s₂, returns_securityProviderCall.2 hcall, ?_⟩)
  exact fails_bind.2 (.inr ⟨application, s₂, returns_requireGrants.2 ⟨hobject, rfl⟩, hread⟩)

/-- The grants of a direct credential are read for the capability. -/
theorem fails_directGrants {principal : VerifiedCredential} (store : GrantStore σ)
    (hkind : principal.kind ≠ .str "delegated") (required : String) (e : Raised) (s : σ) :
    Fails (effectiveGrants principal (.error e) store (some required) >>= fun grants =>
      requireCapability grants (some required)) s e s := by
  rw [effectiveGrants, if_neg (fun hd => hkind (isText_iff.1 hd)), pure_bind]
  exact fails_bind.2 (.inl (fails_ofExcept.2 ⟨rfl, rfl⟩))

/-- What reading a field raises leaves the body of the `try` statement. -/
theorem ReadRaises.fails (h : ReadRaises providers text capability s e) :
    ∃ verifier s', providers.verifier = some verifier ∧
      Fails (establishPrincipal verifier providers text capability) s e s' := by
  cases h with
  | denial hverifier hdenial h =>
    refine ⟨_, _, hverifier, fails_bind.2 (.inl (fails_tryCatch_throw.2 ⟨_, hdenial, ?_⟩))⟩
    exact boundedDenial_of_fieldRaises h
  | credential hverifier hreturned h =>
    exact ⟨_, _, hverifier, fails_bind.2 (.inr ⟨_, _,
      returns_credentialVerifierCall.2 hreturned, fails_bind.2 (.inl (h.fails _))⟩)⟩
  | direct hconfirmed hkind hcapability hgrants =>
    cases hcapability
    obtain ⟨verifier, hverifier, h⟩ :=
      hconfirmed.fails hgrants (grantsObject_error e) (fails_directGrants _ hkind _ e _)
    exact ⟨verifier, _, hverifier, h⟩
  | user hconfirmed hkind hgrants happlication =>
    obtain ⟨s', hfails⟩ :=
      fails_effectiveGrants hconfirmed.valid hkind happlication (.inl rfl)
    obtain ⟨verifier, hverifier, h⟩ := hconfirmed.fails hgrants (grantsObject_error e) hfails
    exact ⟨verifier, s', hverifier, h⟩
  | application hconfirmed hkind hgrants happlication =>
    obtain ⟨s', hfails⟩ :=
      fails_effectiveGrants hconfirmed.valid hkind happlication (.inr ⟨_, rfl, rfl⟩)
    obtain ⟨verifier, hverifier, h⟩ := hconfirmed.fails hgrants (grantsObject_ok _) hfails
    exact ⟨verifier, s', hverifier, h⟩

end Reads

section Closure

variable (providers : PrincipalProviders σ) (credential capability : Option String) (s : σ)

/-- The resolution establishes a principal or raises a declared denial. -/
def FailsClosed : Prop :=
  match (resolvePrincipal credential capability providers).run.run s with
  | (.ok principal, _) => Established providers credential capability s principal
  | (.error e, _) => Declared e

/-- Where reading a field of what the providers hand over raises, it raises a declared denial or
that the provider is unavailable. -/
def ReadableFields : Prop :=
  ∀ text, credential = some text → text ≠ "" →
    ∀ e, ReadRaises providers text capability s e → Bounded e

variable {providers credential capability s}

theorem resolvePrincipal_eq (htext : text ≠ "") (hverifier : providers.verifier = some verifier) :
    resolvePrincipal (some text) capability providers =
      tryCatch (establishPrincipal verifier providers text capability)
        (fun e => throw (unavailableDenied e)) := by
  rw [resolvePrincipal, if_neg htext, hverifier]

/-- A run that raises does so with a declared denial, or because a field could not be read. -/
theorem fails_resolvePrincipal
    (h : Fails (resolvePrincipal credential capability providers) s e s') :
    Declared e ∨ ∃ text raised, credential = some text ∧ text ≠ "" ∧
      ReadRaises providers text capability s raised ∧ e = unavailableDenied raised := by
  cases credential with
  | none =>
    rw [← (fails_throw.1 h).1]
    exact .inl ⟨("missing_credential", 401), by decide, rfl⟩
  | some text =>
    by_cases htext : text = ""
    · rw [resolvePrincipal, if_pos htext] at h
      rw [← (fails_throw.1 h).1]
      exact .inl ⟨("missing_credential", 401), by decide, rfl⟩
    cases hverifier : providers.verifier with
    | none =>
      rw [resolvePrincipal, if_neg htext, hverifier] at h
      rw [← (fails_throw.1 h).1]
      exact .inl ⟨("grant_store_unavailable", 503), by decide, rfl⟩
    | some verifier =>
      rw [resolvePrincipal_eq htext hverifier] at h
      obtain ⟨raised, hraised, rfl⟩ := fails_tryCatch_throw.1 h
      rcases fails_establishPrincipal hverifier hraised with hbounded | hread
      · exact .inl (declared_unavailableDenied.2 hbounded)
      · exact .inr ⟨text, raised, rfl, htext, hread, rfl⟩

/-- A verifier whose denial has no reason. -/
def bareDenialProviders : PrincipalProviders Unit :=
  ⟨some ⟨fun _ => throw (.principalDenied
    (.raises (.other "'BareDenial' object has no attribute 'reason'")) (.value (.int 401)))⟩, none⟩

end Closure

end LotusRisk
