import LotusRisk.Drawdown.Wealth
import LotusRisk.Lib.FloatOps
import LotusRisk.Risk.Contracts

/-! The payloads of the upstream services, as Python values, and the errors raised on them. -/

namespace LotusRisk
set_option autoImplicit true

structure UpstreamServiceError where
  service : String
  operation : String
  statusCode : Nat
  code : String
  message : String
  details : List (String × String)
  retryable : Bool
deriving DecidableEq, Repr

def dependencyDetails (service operation category : String) (extra : List (String × String)) :
    List (String × String) :=
  [("service", service), ("operation", operation), ("category", category)] ++ extra

def invalidUpstreamPayload (service operation message : String)
    (details : List (String × String)) : UpstreamServiceError where
  service := service
  operation := operation
  statusCode := 502
  code := "UPSTREAM_INVALID_RESPONSE"
  message := message
  details := dependencyDetails service operation "invalid_response" details
  retryable := false

def missingUpstreamData (service operation message : String) (details : List (String × String)) :
    UpstreamServiceError where
  service := service
  operation := operation
  statusCode := 424
  code := "FAILED_DEPENDENCY"
  message := message
  details := dependencyDetails service operation "data_gap" details
  retryable := false

/-- What leaves a function that reads an upstream payload. -/
inductive SourceException where
  | upstream (error : UpstreamServiceError)
  | python (error : PyException)
deriving DecidableEq, Repr

/-- The value of a float or of a Decimal; infinities and NaN are not told apart. -/
inductive PyNumber (K : Type) where
  | finite (x : K)
  | nonFinite
deriving DecidableEq

/-- A decoded JSON value. Dates are what a caller may pass in place of their texts. -/
inductive PyValue (K : Type) where
  | none
  | bool (b : Bool)
  | int (i : Int)
  | float (x : PyNumber K)
  | str (s : String)
  | date (d : Date)
  | list (items : List (PyValue K))
  | dict (entries : List (String × PyValue K))

/-- The conversions between texts and values that the standard library fixes. The results hold
whichever texts they accept. -/
structure PyTexts (K : Type) where
  /-- `str(value)` of what is not a string. -/
  str : PyValue K → String
  /-- `repr(value)`. -/
  repr : PyValue K → String
  /-- `float(text)`. -/
  float : String → Option (PyNumber K)
  /-- `Decimal(text)`. -/
  decimal : String → Option (PyNumber K)
  /-- `date.fromisoformat(text)`. -/
  fromisoformat : String → Option Date

def PyTexts.pyStr (texts : PyTexts K) : PyValue K → String
  | .str s => s
  | value => texts.str value

/-- `entries.get(key)`. -/
def getEntry (entries : List (String × PyValue K)) (key : String) : PyValue K :=
  (entries.lookup key).getD .none

/-- The field holds the given text. -/
def declares (entries : List (String × PyValue K)) (field text : String) : Bool :=
  match getEntry entries field with
  | .str value => value = text
  | _ => false

/-- `mapping_or_empty`. -/
def mappingOrEmpty : PyValue K → List (String × PyValue K)
  | .dict entries => entries
  | _ => []

def PyValue.isNone : PyValue K → Bool
  | .none => true
  | _ => false

/-- `x == 0` of a number. -/
class ZeroTest (K : Type) where
  isZero : K → Bool

instance (priority := low) [DecidableEq K] [Zero K] : ZeroTest K := ⟨fun x => decide (x = 0)⟩

instance : ZeroTest Float := ⟨fun x => x.beq 0⟩

/-- `bool(value)`. -/
def PyValue.truthy [ZeroTest K] : PyValue K → Bool
  | .none => false
  | .bool b => b
  | .int i => i ≠ 0
  | .float (.finite x) => !ZeroTest.isZero x
  | .float .nonFinite => true
  | .str s => s ≠ ""
  | .date _ => true
  | .list items => !items.isEmpty
  | .dict entries => !entries.isEmpty

section PlainTexts

def digitsValue (digits : List Char) : Option Nat :=
  if digits ≠ [] ∧ digits.all Char.isDigit then
    some (digits.foldl (fun value digit => 10 * value + (digit.toNat - 48)) 0)
  else none

/-- The extended calendar format of `date.fromisoformat`. -/
def isoDate (text : String) : Option Date :=
  match text.toList with
  | [y₁, y₂, y₃, y₄, '-', m₁, m₂, '-', d₁, d₂] => do
    let year ← digitsValue [y₁, y₂, y₃, y₄]
    let month ← digitsValue [m₁, m₂]
    let day ← digitsValue [d₁, d₂]
    if h : 1 ≤ year ∧ year ≤ 9999 ∧ 1 ≤ month ∧ month ≤ 12 ∧ 1 ≤ day ∧ day ≤ daysInMonth year month
    then some ⟨year, month, day, h⟩ else none
  | _ => none

/-- A number without sign and exponent. -/
def plainNumber [FloatOps K] (text : String) : Option (PyNumber K) :=
  match text.toList.span Char.isDigit with
  | (whole, []) => do
    let value ← digitsValue whole
    some (.finite (FloatOps.ofInt value))
  | (whole, point :: fraction) => do
    let value ← digitsValue (whole ++ fraction)
    let unit := 10 ^ fraction.length
    if point = '.' ∧ whole ≠ [] then
      some (.finite (FloatOps.div (FloatOps.ofInt value) (FloatOps.ofInt unit)))
    else none

/-- The conversions on dates and numbers in their plain formats. -/
def plainTexts [FloatOps K] : PyTexts K where
  str _ := ""
  repr _ := ""
  float := plainNumber
  decimal := plainNumber
  fromisoformat := isoDate

example : isoDate "2026-01-05" = firstWeek.head? := by decide

end PlainTexts

/-- How `float(value)` fails: with a `TypeError` or a `ValueError`, or with an `OverflowError`. -/
inductive FloatFailure where
  | invalid
  | overflow
deriving DecidableEq

/-- `float(value)`. -/
def PyTexts.toFloat [FloatOps K] (texts : PyTexts K) :
    PyValue K → Except FloatFailure (PyNumber K)
  | .bool b => .ok (.finite (FloatOps.ofInt (if b then 1 else 0)))
  | .int i => if beyondFloat i then .error .overflow else .ok (.finite (FloatOps.ofInt i))
  | .float x => .ok x
  | .str s =>
    match texts.float s with
    | some x => .ok x
    | Option.none => .error .invalid
  | .none | .date _ | .list _ | .dict _ => .error .invalid

/-- `Decimal(str(value))`, where `none` stands for `InvalidOperation`. -/
def PyTexts.toDecimal [IntCast K] (texts : PyTexts K) : PyValue K → Option (PyNumber K)
  | .int i => some (.finite i)
  | .float x => some x
  | .str s => texts.decimal s
  | .none | .bool _ | .date _ | .list _ | .dict _ => Option.none

/-- `ReturnPoint(date=..., value=...)`, which admits finite values only. -/
def returnPoint (date : Date) : PyNumber K → Except SourceException (ReturnPoint K)
  | .finite value => .ok ⟨date, value⟩
  | .nonFinite =>
    .error (.python (.validationError [⟨"value", "Input should be a finite number"⟩]))

end LotusRisk
