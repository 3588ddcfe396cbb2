import Mathlib.Data.List.DropRight
import LotusRisk.Lib.Dict
import LotusRisk.Lib.Foremost
import LotusRisk.Lib.Json
import LotusRisk.Python

/-! The capability that a write request must hold, as the configured rules say. -/

namespace LotusRisk
set_option autoImplicit true

open JsonText
open Relational

section Rules

variable [PyText]

def writeMethods : List String := ["POST", "PUT", "PATCH", "DELETE"]

/-- `text.partition(" ")`, of a text that has the separator. -/
def partitionSpace (text : String) : Option (String × String) :=
  match text.toList.span (· ≠ ' ') with
  | (_, []) => none
  | (before, _ :: after) => some (String.ofList before, String.ofList after)

/-- `_valid_capability_rule`; the keys of a JSON object are texts. -/
def validCapabilityRule (key : String) (value : Json) : Option String :=
  match value with
  | .str capability =>
    if pyStrip capability = "" ∨ key ≠ pyStrip key ∨ capability ≠ pyStrip capability then none
    else
      match partitionSpace key with
      | some (method, path) =>
        if PyText.upper method ∈ writeMethods ∧ path.toList.head? = some '/' then some capability
        else none
      | none => none
  | _ => none

/-- A valid item is kept, with its capability. -/
def loadRule (item : String × Json) : Option (String × String) :=
  (validCapabilityRule item.1 item.2).map fun capability => (item.1, capability)

/-- `load_capability_rules`, of the object that the setting holds. -/
def loadCapabilityRules (rules : Dict String Json) : Dict String String :=
  Dict.ofList (rules.items.filterMap loadRule)

/-- `rule_path.rstrip("/")`. -/
def rstripSlash (rulePath : List Char) : List Char := rulePath.rdropWhile (· = '/')

def normalizedRulePath (rulePath : List Char) : List Char :=
  if rstripSlash rulePath = [] then [ '/'] else rstripSlash rulePath

/-- `_path_matches_rule`. -/
def pathMatchesRule (path rulePath : List Char) : Bool :=
  path = normalizedRulePath rulePath || (normalizedRulePath rulePath ++ [ '/']).isPrefixOf path

/-- The key in capitals starts with the method in capitals and a space. -/
def keyNamesMethod (method key : String) : Bool :=
  ((PyText.upper method).toList ++ [ ' ']).isPrefixOf (PyText.upper key).toList

/-- `key[len(prefix):]`. -/
def rulePathOf (method key : String) : List Char :=
  key.toList.drop ((PyText.upper method).toList ++ [ ' ']).length

/-- What a rule adds to the matching ones: the length of its path, and its capability. -/
def matchingRule (method path : String) (rule : String × String) : Option (Nat × String) :=
  if keyNamesMethod method rule.1 ∧ pathMatchesRule path.toList (rulePathOf method rule.1) then
    some ((rstripSlash (rulePathOf method rule.1)).length, rule.2)
  else none

/-- `max(matching_rules, key=...)` keeps the first of the longest. -/
def requiredCapabilityFromRules (rules : Dict String String) (method path : String) :
    Option String :=
  Foremost.choose Prod.fst Prod.snd (rules.items.filterMap (matchingRule method path))

/-- `_required_capability`. -/
def requiredCapability (rules : Dict String Json) (method path : String) : Option String :=
  requiredCapabilityFromRules (loadCapabilityRules rules) method path

end Rules

section Requests

variable [PyText]

/-- The settings of the environment that authorize a write. -/
structure EnterpriseSettings where
  enforceAuthz : Bool
  capabilityRules : Dict String Json

def authorizationEnforced (settings : EnterpriseSettings) (method : String) : Bool :=
  decide (PyText.upper method ∈ writeMethods) && settings.enforceAuthz

/-- `_REQUIRED_HEADERS`, sorted. -/
def requiredHeaders : List String := ["x-actor-id", "x-correlation-id", "x-role", "x-tenant-id"]

/-- `bool(headers.get(name))`, of names in lower case. -/
def hasHeader (headers : Dict String String) (name : String) : Bool :=
  (headers.getD name "") ≠ ""

def missingRequiredHeaders (headers : Dict String String) : List String :=
  requiredHeaders.filter fun header => !hasHeader headers header

def hasServiceIdentity (headers : Dict String String) : Bool :=
  hasHeader headers "x-service-identity" || hasHeader headers "authorization"

/-- `_capability_set`. -/
def capabilitySet (headers : Dict String String) : List String :=
  (((headers.getD "x-capabilities" "").splitOn ",").map pyStrip).filter (· ≠ "")

def missingCapabilityReason (settings : EnterpriseSettings) (method path : String)
    (headers : Dict String String) : Option String :=
  match requiredCapability settings.capabilityRules method path with
  | none => some "missing_capability_rule"
  | some capability =>
    if capability ≠ "" ∧ capability ∉ capabilitySet headers then
      some s!"missing_capability:{capability}"
    else none

/-- The reason for which a write is refused; `none` allows it. -/
def authorizeWriteRequest (settings : EnterpriseSettings) (method path : String)
    (headers : Dict String String) : Option String :=
  if !authorizationEnforced settings method then none
  else
    let missing := missingRequiredHeaders headers
    if missing ≠ [] then
      let names := ",".intercalate missing
      some s!"missing_headers:{names}"
    else if !hasServiceIdentity headers then some "missing_service_identity"
    else missingCapabilityReason settings method path headers

end Requests

end LotusRisk
