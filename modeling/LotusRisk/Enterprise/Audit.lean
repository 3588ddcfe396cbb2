import LotusRisk.Lib.Redaction
import LotusRisk.Python

/-! The audit events of the service, and what they disclose. -/

namespace LotusRisk
set_option autoImplicit true

open JsonText
open Redaction

section Redacting

def redactFields : List String := ["password", "secret", "token", "authorization", "access_token",
  "id_token", "refresh_token", "cookie", "session_secret", "capability_set", "ssn",
  "account_number", "client_email"]

variable (lower : String → String)

/-- `key.lower() in _REDACT_FIELDS`. -/
def isRedactedField (key : String) : Bool := decide (lower key ∈ redactFields)

def redactedText : Json := .str "***REDACTED***"

def redactSensitive (value : Json) : Json := redact (isRedactedField lower) redactedText value

/-- No field below the path is one of the redacted ones, in any case. -/
def PublicPath (path : List Step) : Prop := Public (isRedactedField lower) path

/-- Of a value the redaction tells exactly what is outside the redacted fields: what is there it
shows, whatever such a field holds becomes the marker, and values that differ there only cannot be
told apart. -/
theorem redaction_discloses_public_only :
    (∀ value path, PublicPath lower path →
      valueAt (redactSensitive lower value) path =
        (valueAt value path).map (redactSensitive lower)) ∧
    (∀ value path key, PublicPath lower path → lower key ∈ redactFields →
      valueAt (redactSensitive lower value) (path ++ [.key key]) =
        (valueAt value (path ++ [.key key])).map fun _ => redactedText) ∧
    (∀ value path key step rest, PublicPath lower path → lower key ∈ redactFields →
      valueAt (redactSensitive lower value) (path ++ .key key :: step :: rest) = none) ∧
    (∀ v w, redactSensitive lower v = redactSensitive lower w ↔
      Agree (isRedactedField lower) v w) ∧
    ∀ value, redactSensitive lower (redactSensitive lower value) = redactSensitive lower value := by
  refine ⟨fun value path h => valueAt_redact value h, ?_, ?_, fun v w => redact_eq_iff,
    redact_redact⟩
  · intro value path key h hkey
    rw [redactSensitive, valueAt_redact_hidden value h (decide_eq_true hkey)]
    cases valueAt value (path ++ [.key key]) with
    | none => rfl
    | some inner => rfl
  · intro value path key step rest h hkey
    rw [redactSensitive, valueAt_redact_hidden value h (decide_eq_true hkey)]
    cases valueAt value (path ++ [.key key]) with
    | none => rfl
    | some inner => cases step <;> rfl

end Redacting

section Events

/-- An event as it is logged, its time left out. -/
structure AuditEvent where
  action : String
  actorId : String
  tenantId : String
  role : String
  correlationId : String
  policyVersion : String
  metadata : Json

/-- `emit_audit_event`. -/
def auditEvent (lower : String → String) (policyVersion action actorId tenantId role : String)
    (correlationId : Option String) (metadata : Json) : AuditEvent where
  action := action
  actorId := actorId
  tenantId := tenantId
  role := role
  correlationId := correlationId.getD ""
  policyVersion := policyVersion
  metadata := redactSensitive lower metadata

end Events

end LotusRisk
