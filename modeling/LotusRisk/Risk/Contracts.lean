import LotusRisk.Calendar
import LotusRisk.Lib.Dict

namespace LotusRisk
set_option autoImplicit true

open Relational

/-- A return observation, in percentage points. -/
structure ReturnPoint (K : Type) where
  date : Date
  value : K
deriving DecidableEq

/-- The values a metric's `details` may hold. -/
inductive DetailValue (K : Type) where
  | str (s : String)
  | float (x : K)
  | int (i : Int)
  | bool (b : Bool)
  | none
deriving DecidableEq

structure RiskValue (K : Type) where
  value : Option K
  details : Option (Dict String (DetailValue K))

/-- `error = details.get("error")`, when it is a string. -/
def RiskValue.error (v : RiskValue K) : Option String :=
  match v.details.bind (fun details => details.get? "error") with
  | some (.str message) => some message
  | _ => none

def metricError (message : String) : RiskValue K where
  value := none
  details := some (Dict.ofList [("error", .str message)])

/-- `benchmark_context` of a risk period result, which the contract keeps as a dict. -/
structure BenchmarkContextPayload where
  requested : Bool
  available : Bool
  aligned : Bool
  reason : String
  requestedMetricCount : Nat
  requestedMetrics : List String
deriving DecidableEq

end LotusRisk
