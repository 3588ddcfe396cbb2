import Mathlib.Data.Finset.Basic
import LotusRisk.Lib.Effects
import LotusRisk.Python

namespace LotusRisk
open Effects
set_option autoImplicit true

/-- `not value.strip() or value != value.strip()` fails: the text is trimmed and not blank. -/
def trimmedText (text : String) : Bool := pyStrip text ≠ "" && text = pyStrip text

/-- Grants exist only with trimmed, non-blank names; `__post_init__` refuses any other. -/
structure GrantSet where
  capabilities : Finset String
  portfolioIds : Finset String
  capabilities_trimmed : ∀ value ∈ capabilities, trimmedText value = true
  portfolioIds_trimmed : ∀ value ∈ portfolioIds, trimmedText value = true

/-- The fields of the `VerifiedCredential` dataclass, which does not check their types. -/
structure CredentialFields (V : Type) where
  subject : V
  tenantId : V
  kind : V
  credentialId : V
  actor : V

mutual

/-- What a provider may return, or put into a field or an exception. -/
inductive PyObject where
  | none
  | bool (b : Bool)
  | int (n : Int)
  | str (text : String)
  | credential (fields : CredentialFields Attribute)
  | grants (grants : GrantSet)
  /-- A `GrantSet` that was not initialized. -/
  | bareGrants (raised : Raised)
  | other

/-- What reading a field of an object gives; one that was not set raises an `AttributeError`. -/
inductive Attribute where
  | value (value : PyObject)
  | raises (raised : Raised)

/-- An `Exception`: the two of the security package, or any other with its text. -/
inductive Raised where
  | principalDenied (reason status : Attribute)
  | securityProviderUnavailable
  | other (text : String)

end

/-- A credential whose fields have been read. -/
abbrev VerifiedCredential := CredentialFields PyObject

/-- The providers are called in a world they may read and change. -/
abbrev SecurityM (σ : Type) := Eff Raised σ

def denied (reason : String) (status : Int) : Raised :=
  .principalDenied (.value (.str reason)) (.value (.int status))

def Attribute.read : Attribute → SecurityM σ PyObject
  | .value v => pure v
  | .raises e => throw e

def raiseUnless (condition : Bool) (e : Raised) : SecurityM σ Unit :=
  if condition then pure () else throw e

def identityText (maximum : Nat) : PyObject → Bool
  | .str text => trimmedText text && text.length ≤ maximum
  | _ => false

def requireIdentityText (value : PyObject) (maximum : Nat) : SecurityM σ Unit :=
  raiseUnless (identityText maximum value) .securityProviderUnavailable

def PyObject.isText (text : String) : PyObject → Bool
  | .str value => value = text
  | _ => false

def PyObject.isNone : PyObject → Bool
  | .none => true
  | _ => false

def principalKinds : List String := ["user", "service", "delegated"]

/-- The fields are returned as they are read, which later reads repeat. -/
def requireValidProviderResult (principal : CredentialFields Attribute) :
    SecurityM σ VerifiedCredential := do
  let subject ← principal.subject.read
  let tenantId ← principal.tenantId.read
  let credentialId ← principal.credentialId.read
  requireIdentityText subject 512
  requireIdentityText tenantId 128
  requireIdentityText credentialId 512
  let kind ← principal.kind.read
  raiseUnless (principalKinds.any kind.isText) .securityProviderUnavailable
  let actor ← principal.actor.read
  if kind.isText "delegated" then requireIdentityText actor 512
  else raiseUnless actor.isNone .securityProviderUnavailable
  pure ⟨subject, tenantId, kind, credentialId, actor⟩

/-- `GrantSet(capabilities=…, portfolio_ids=…)` on two sets of texts. -/
def GrantSet.new (capabilities portfolioIds : Finset String) : SecurityM σ GrantSet :=
  if h : (∀ value ∈ capabilities, trimmedText value = true) ∧
      (∀ value ∈ portfolioIds, trimmedText value = true) then
    pure ⟨capabilities, portfolioIds, h.1, h.2⟩
  else throw .securityProviderUnavailable

structure ResolvedPrincipal where
  credential : VerifiedCredential
  grants : GrantSet

section Checks

theorem returns_raiseUnless {e : Raised} :
    Returns (raiseUnless condition e : SecurityM σ Unit) s u s' ↔ condition = true ∧ s = s' := by
  unfold raiseUnless
  cases condition with
  | true =>
    rw [if_pos rfl, returns_pure]
    simp
  | false =>
    rw [if_neg (by decide)]
    simp [not_returns_throw]

theorem raises_raiseUnless {P : Raised → Prop} (h : P e) :
    Raises (raiseUnless condition e : SecurityM σ Unit) P := by
  unfold raiseUnless
  split
  · exact .pure _ _
  · exact .throw h

/-- A credential that names its holder in bounded, trimmed texts. -/
structure ValidCredential (principal : VerifiedCredential) : Prop where
  subject : identityText 512 principal.subject = true
  tenantId : identityText 128 principal.tenantId = true
  credentialId : identityText 512 principal.credentialId = true
  kind : ∃ kind ∈ principalKinds, principal.kind = .str kind
  delegated : principal.kind = .str "delegated" → identityText 512 principal.actor = true
  direct : principal.kind ≠ .str "delegated" → principal.actor = .none

theorem isText_iff {value : PyObject} : value.isText text = true ↔ value = .str text := by
  cases value <;> simp [PyObject.isText]

theorem isNone_iff {value : PyObject} : value.isNone = true ↔ value = .none := by
  cases value <;> simp [PyObject.isNone]

theorem returns_requireIdentityText {value : PyObject} :
    Returns (requireIdentityText value maximum : SecurityM σ Unit) s u s' ↔
      identityText maximum value = true ∧ s = s' :=
  returns_raiseUnless

theorem returns_read {field : Attribute} :
    Returns (field.read : SecurityM σ PyObject) s value s' ↔
      field = .value value ∧ s = s' := by
  cases field with
  | value v =>
    rw [Attribute.read, returns_pure, Attribute.value.injEq]
  | raises e => exact iff_of_false not_returns_throw (fun h => by cases h.1)

theorem fails_read {field : Attribute} :
    Fails (field.read : SecurityM σ PyObject) s e s' ↔
      field = .raises e ∧ s = s' := by
  cases field with
  | value v => exact iff_of_false not_fails_pure (fun h => by cases h.1)
  | raises e => rw [Attribute.read, fails_throw, Attribute.raises.injEq]

theorem fails_raiseUnless {e : Raised}
    (h : Fails (raiseUnless condition e : SecurityM σ Unit) s e' s') : e' = e := by
  unfold raiseUnless at h
  split at h
  · exact absurd h not_fails_pure
  · exact (fails_throw.1 h).1.symm

/-- The fields of a credential, as they are read. -/
structure CredentialFields.Reads (fields : CredentialFields Attribute)
    (principal : VerifiedCredential) : Prop where
  subject : fields.subject = .value principal.subject
  tenantId : fields.tenantId = .value principal.tenantId
  kind : fields.kind = .value principal.kind
  credentialId : fields.credentialId = .value principal.credentialId
  actor : fields.actor = .value principal.actor

theorem returns_requireValidProviderResult {fields : CredentialFields Attribute}
    (h : Returns (requireValidProviderResult fields : SecurityM σ VerifiedCredential) s principal
      s') : fields.Reads principal ∧ ValidCredential principal ∧ s = s' := by
  unfold requireValidProviderResult at h
  obtain ⟨subject, _, hsubject_read, h⟩ := returns_bind.1 h
  obtain ⟨tenantId, _, htenantId_read, h⟩ := returns_bind.1 h
  obtain ⟨credentialId, _, hcredentialId_read, h⟩ := returns_bind.1 h
  obtain ⟨hsubject, rfl⟩ := returns_read.1 hsubject_read
  obtain ⟨htenantId, rfl⟩ := returns_read.1 htenantId_read
  obtain ⟨hcredentialId, rfl⟩ := returns_read.1 hcredentialId_read
  obtain ⟨_, _, h₁, h⟩ := returns_bind.1 h
  obtain ⟨_, _, h₂, h⟩ := returns_bind.1 h
  obtain ⟨_, _, h₃, h⟩ := returns_bind.1 h
  obtain ⟨subject_text, rfl⟩ := returns_requireIdentityText.1 h₁
  obtain ⟨tenantId_text, rfl⟩ := returns_requireIdentityText.1 h₂
  obtain ⟨credentialId_text, rfl⟩ := returns_requireIdentityText.1 h₃
  obtain ⟨kind, _, hkind_read, h⟩ := returns_bind.1 h
  obtain ⟨hkind, rfl⟩ := returns_read.1 hkind_read
  obtain ⟨_, _, h₄, h⟩ := returns_bind.1 h
  obtain ⟨hk, rfl⟩ := returns_raiseUnless.1 h₄
  obtain ⟨text, hm, hk⟩ := List.any_eq_true.1 hk
  have kind_text : ∃ text ∈ principalKinds, kind = .str text := ⟨text, hm, isText_iff.1 hk⟩
  obtain ⟨actor, _, hactor_read, h⟩ := returns_bind.1 h
  obtain ⟨hactor, rfl⟩ := returns_read.1 hactor_read
  split at h
  · rename_i hd
    obtain ⟨_, _, h₅, h⟩ := returns_bind.1 h
    obtain ⟨actor_text, rfl⟩ := returns_requireIdentityText.1 h₅
    obtain ⟨rfl, rfl⟩ := returns_pure.1 h
    exact ⟨⟨hsubject, htenantId, hkind, hcredentialId, hactor⟩,
      ⟨subject_text, tenantId_text, credentialId_text, kind_text, fun _ => actor_text,
        fun hn => absurd (isText_iff.1 hd) hn⟩, rfl⟩
  · rename_i hd
    obtain ⟨_, _, h₅, h⟩ := returns_bind.1 h
    obtain ⟨actor_none, rfl⟩ := returns_raiseUnless.1 h₅
    obtain ⟨rfl, rfl⟩ := returns_pure.1 h
    exact ⟨⟨hsubject, htenantId, hkind, hcredentialId, hactor⟩,
      ⟨subject_text, tenantId_text, credentialId_text, kind_text,
        fun he => absurd (isText_iff.2 he) hd, fun _ => isNone_iff.1 actor_none⟩, rfl⟩

/-- A credential whose fields are read and hold is returned as read. -/
theorem returns_of_valid {fields : CredentialFields Attribute} {principal : VerifiedCredential}
    (hreads : fields.Reads principal) (hvalid : ValidCredential principal) (s : σ) :
    Returns (requireValidProviderResult fields : SecurityM σ VerifiedCredential) s principal s := by
  obtain ⟨kind, hmem, hkind⟩ := hvalid.kind
  have hkinds : principalKinds.any principal.kind.isText = true :=
    List.any_eq_true.2 ⟨kind, hmem, isText_iff.2 hkind⟩
  refine returns_bind.2 ⟨_, s, returns_read.2 ⟨hreads.subject, rfl⟩, ?_⟩
  refine returns_bind.2 ⟨_, s, returns_read.2 ⟨hreads.tenantId, rfl⟩, ?_⟩
  refine returns_bind.2 ⟨_, s, returns_read.2 ⟨hreads.credentialId, rfl⟩, ?_⟩
  refine returns_bind.2 ⟨(), s, returns_requireIdentityText.2 ⟨hvalid.subject, rfl⟩, ?_⟩
  refine returns_bind.2 ⟨(), s, returns_requireIdentityText.2 ⟨hvalid.tenantId, rfl⟩, ?_⟩
  refine returns_bind.2 ⟨(), s, returns_requireIdentityText.2 ⟨hvalid.credentialId, rfl⟩, ?_⟩
  refine returns_bind.2 ⟨_, s, returns_read.2 ⟨hreads.kind, rfl⟩, ?_⟩
  refine returns_bind.2 ⟨(), s, returns_raiseUnless.2 ⟨hkinds, rfl⟩, ?_⟩
  refine returns_bind.2 ⟨_, s, returns_read.2 ⟨hreads.actor, rfl⟩, ?_⟩
  by_cases hdelegated : principal.kind = .str "delegated"
  · rw [if_pos (isText_iff.2 hdelegated)]
    exact returns_bind.2 ⟨(), s,
      returns_requireIdentityText.2 ⟨hvalid.delegated hdelegated, rfl⟩, rfl⟩
  · rw [if_neg (fun h => hdelegated (isText_iff.1 h))]
    exact returns_bind.2 ⟨(), s,
      returns_raiseUnless.2 ⟨isNone_iff.2 (hvalid.direct hdelegated), rfl⟩, rfl⟩

/-- The fields that name the holder are read, and hold. -/
structure NamedHolder (fields : CredentialFields Attribute) : Prop where
  subject : ∃ v, fields.subject = .value v ∧ identityText 512 v = true
  tenantId : ∃ v, fields.tenantId = .value v ∧ identityText 128 v = true
  credentialId : ∃ v, fields.credentialId = .value v ∧ identityText 512 v = true

/-- What reading the first field that cannot be read raises, where the checks come that far. -/
inductive UnreadableField (fields : CredentialFields Attribute) : Raised → Prop
  | subject (h : fields.subject = .raises e) : UnreadableField fields e
  | tenantId (hsubject : fields.subject = .value v) (h : fields.tenantId = .raises e) :
      UnreadableField fields e
  | credentialId (hsubject : fields.subject = .value v) (htenantId : fields.tenantId = .value w)
      (h : fields.credentialId = .raises e) : UnreadableField fields e
  | kind (hnamed : NamedHolder fields) (h : fields.kind = .raises e) : UnreadableField fields e
  | actor (hnamed : NamedHolder fields) (hkind : fields.kind = .value (.str text))
      (hmem : text ∈ principalKinds) (h : fields.actor = .raises e) : UnreadableField fields e

/-- The check of a credential raises for a field that does not hold or cannot be read. -/
theorem fails_requireValidProviderResult {fields : CredentialFields Attribute}
    (h : Fails (requireValidProviderResult fields : SecurityM σ VerifiedCredential) s e s') :
    e = .securityProviderUnavailable ∨ UnreadableField fields e := by
  unfold requireValidProviderResult at h
  rcases fails_bind.1 h with h | ⟨subject, s₁, hsubject_read, h⟩
  · exact .inr (.subject (fails_read.1 h).1)
  obtain ⟨hsubject, rfl⟩ := returns_read.1 hsubject_read
  rcases fails_bind.1 h with h | ⟨tenantId, s₁, htenantId_read, h⟩
  · exact .inr (.tenantId hsubject (fails_read.1 h).1)
  obtain ⟨htenantId, rfl⟩ := returns_read.1 htenantId_read
  rcases fails_bind.1 h with h | ⟨credentialId, s₁, hcredentialId_read, h⟩
  · exact .inr (.credentialId hsubject htenantId (fails_read.1 h).1)
  obtain ⟨hcredentialId, rfl⟩ := returns_read.1 hcredentialId_read
  rcases fails_bind.1 h with h | ⟨_, _, h₁, h⟩
  · exact .inl (fails_raiseUnless h)
  rcases fails_bind.1 h with h | ⟨_, _, h₂, h⟩
  · exact .inl (fails_raiseUnless h)
  rcases fails_bind.1 h with h | ⟨_, _, h₃, h⟩
  · exact .inl (fails_raiseUnless h)
  have hnamed : NamedHolder fields := ⟨⟨_, hsubject, (returns_requireIdentityText.1 h₁).1⟩,
    ⟨_, htenantId, (returns_requireIdentityText.1 h₂).1⟩,
    ⟨_, hcredentialId, (returns_requireIdentityText.1 h₃).1⟩⟩
  rcases fails_bind.1 h with h | ⟨kind, _, hkind_read, h⟩
  · exact .inr (.kind hnamed (fails_read.1 h).1)
  have hkind := (returns_read.1 hkind_read).1
  rcases fails_bind.1 h with h | ⟨_, _, h₄, h⟩
  · exact .inl (fails_raiseUnless h)
  obtain ⟨text, hmem, htext⟩ := List.any_eq_true.1 (returns_raiseUnless.1 h₄).1
  rw [isText_iff.1 htext] at hkind
  rcases fails_bind.1 h with h | ⟨actor, _, _, h⟩
  · exact .inr (.actor hnamed hkind hmem (fails_read.1 h).1)
  split at h
  all_goals
    rcases fails_bind.1 h with h | ⟨_, _, _, h⟩
    · exact .inl (fails_raiseUnless h)
    · exact absurd h not_fails_pure

/-- The checks before the kind of a credential pass if its holder is named. -/
theorem NamedHolder.fails {fields : CredentialFields Attribute} (h : NamedHolder fields)
    (hfails : ∀ subject tenantId credentialId, fields.subject = .value subject →
      fields.tenantId = .value tenantId → fields.credentialId = .value credentialId →
      Fails (do
        let kind ← fields.kind.read
        raiseUnless (principalKinds.any kind.isText) .securityProviderUnavailable
        let actor ← fields.actor.read
        if kind.isText "delegated" then requireIdentityText actor 512
        else raiseUnless actor.isNone .securityProviderUnavailable
        pure ⟨subject, tenantId, kind, credentialId, actor⟩ : SecurityM σ VerifiedCredential)
        s e s') :
    Fails (requireValidProviderResult fields : SecurityM σ VerifiedCredential) s e s' := by
  obtain ⟨subject, hsubject, hs⟩ := h.subject
  obtain ⟨tenantId, htenantId, ht⟩ := h.tenantId
  obtain ⟨credentialId, hcredentialId, hc⟩ := h.credentialId
  refine fails_bind.2 (.inr ⟨_, _, returns_read.2 ⟨hsubject, rfl⟩, ?_⟩)
  refine fails_bind.2 (.inr ⟨_, _, returns_read.2 ⟨htenantId, rfl⟩, ?_⟩)
  refine fails_bind.2 (.inr ⟨_, _, returns_read.2 ⟨hcredentialId, rfl⟩, ?_⟩)
  refine fails_bind.2 (.inr ⟨(), _, returns_requireIdentityText.2 ⟨hs, rfl⟩, ?_⟩)
  refine fails_bind.2 (.inr ⟨(), _, returns_requireIdentityText.2 ⟨ht, rfl⟩, ?_⟩)
  refine fails_bind.2 (.inr ⟨(), _, returns_requireIdentityText.2 ⟨hc, rfl⟩, ?_⟩)
  exact hfails subject tenantId credentialId hsubject htenantId hcredentialId

/-- What reading a field raises leaves the check. -/
theorem UnreadableField.fails {fields : CredentialFields Attribute}
    (h : UnreadableField fields e) (s : σ) :
    Fails (requireValidProviderResult fields : SecurityM σ VerifiedCredential) s e s := by
  cases h with
  | subject h => exact fails_bind.2 (.inl (fails_read.2 ⟨h, rfl⟩))
  | tenantId hsubject h =>
    refine fails_bind.2 (.inr ⟨_, _, returns_read.2 ⟨hsubject, rfl⟩, ?_⟩)
    exact fails_bind.2 (.inl (fails_read.2 ⟨h, rfl⟩))
  | credentialId hsubject htenantId h =>
    refine fails_bind.2 (.inr ⟨_, _, returns_read.2 ⟨hsubject, rfl⟩, ?_⟩)
    refine fails_bind.2 (.inr ⟨_, _, returns_read.2 ⟨htenantId, rfl⟩, ?_⟩)
    exact fails_bind.2 (.inl (fails_read.2 ⟨h, rfl⟩))
  | kind hnamed h =>
    apply hnamed.fails
    intro _ _ _ _ _ _
    exact fails_bind.2 (.inl (fails_read.2 ⟨h, rfl⟩))
  | actor hnamed hkind hmem h =>
    apply hnamed.fails
    intro _ _ _ _ _ _
    refine fails_bind.2 (.inr ⟨_, _, returns_read.2 ⟨hkind, rfl⟩, ?_⟩)
    have hany : principalKinds.any (PyObject.isText · (.str _)) = true :=
      List.any_eq_true.2 ⟨_, hmem, isText_iff.2 rfl⟩
    refine fails_bind.2 (.inr ⟨(), _, returns_raiseUnless.2 ⟨hany, rfl⟩, ?_⟩)
    exact fails_bind.2 (.inl (fails_read.2 ⟨h, rfl⟩))

theorem returns_grantSet_new {capabilities portfolioIds : Finset String}
    (h : Returns (GrantSet.new capabilities portfolioIds : SecurityM σ GrantSet) s grants s') :
    grants.capabilities = capabilities ∧ grants.portfolioIds = portfolioIds ∧ s = s' := by
  unfold GrantSet.new at h
  split at h
  · obtain ⟨rfl, rfl⟩ := returns_pure.1 h
    exact ⟨rfl, rfl, rfl⟩
  · exact absurd h not_returns_throw

end Checks

end LotusRisk
