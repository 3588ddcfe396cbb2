import Mathlib.Algebra.Order.Floor.Ring
import Mathlib.Data.List.Forall2
import Mathlib.Data.Rat.Floor
import Mathlib.Tactic.Linarith
import Mathlib.Tactic.FieldSimp
import Mathlib.Tactic.Positivity
import Mathlib.Tactic.NormNum
import Mathlib.Tactic.Ring
import LotusRisk.Lib.Sha256

namespace LotusRisk
set_option autoImplicit true

/-- One entry of a pydantic `ValidationError`: the field path and the message. -/
structure FieldError where
  loc : String
  message : String
deriving DecidableEq, Repr

/-- The exceptions that leave a modelled function. -/
inductive PyException where
  | valueError (message : String)
  | keyError (key : String)
  | typeError (message : String)
  | overflowError (message : String)
  | runtimeError (message : String)
  | validationError (errors : List FieldError)
  | idempotencyConflict (message : String)
  | admissionConflict (message : String)
  | integrityError
  | dataError
  | qualifiedFailure (code : String)
  /-- A trapped signal of `decimal`. -/
  | decimalSignal (name : String)
deriving DecidableEq, Repr

/-- `except (TypeError, ValueError, KeyError, json.JSONDecodeError)`: a pydantic validation error
and the two conflicts are `ValueError`s, a database error is none of them. -/
def PyException.isInputError : PyException → Bool
  | .valueError _ | .keyError _ | .typeError _ | .validationError _ | .idempotencyConflict _
  | .admissionConflict _ => true
  | .runtimeError _ | .overflowError _ | .integrityError | .dataError | .qualifiedFailure _
  | .decimalSignal _ => false

/-- `if condition: raise e`. -/
def raiseIf (condition : Bool) (e : PyException) : Except PyException Unit :=
  if condition then .error e else .ok ()

@[simp] theorem raiseIf_true (e : PyException) : raiseIf true e = .error e := rfl

@[simp] theorem raiseIf_false (e : PyException) : raiseIf false e = .ok () := rfl

theorem bind_eq_ok {x : Except ε α} {f : α → Except ε β} :
    (x >>= f) = .ok b ↔ ∃ a, x = .ok a ∧ f a = .ok b := by
  cases x with
  | error e => simp [bind, Except.bind]
  | ok a => simp [bind, Except.bind]

theorem mapError_eq_ok {x : Except ε α} {f : ε → ε'} : x.mapError f = .ok a ↔ x = .ok a := by
  cases x <;> simp [Except.mapError]

theorem ok_of_isSome {x : Except ε α} (h : x.toOption.isSome = true) : ∃ a, x = .ok a := by
  cases x with
  | error e => cases h
  | ok a => exact ⟨a, rfl⟩

theorem ok_of_any {x : Except ε α} {p : α → Bool} (h : x.toOption.any p = true) :
    ∃ a, x = .ok a ∧ p a = true := by
  cases x with
  | error e => cases h
  | ok a => exact ⟨a, rfl, h⟩

theorem error_of_isNone {x : Except ε α} (h : x.toOption.isNone = true) : ∃ e, x = .error e := by
  cases x with
  | error e => exact ⟨e, rfl⟩
  | ok a => cases h

theorem mapM_eq_ok {f : α → Except ε β} {as : List α} {bs : List β} :
    as.mapM f = .ok bs ↔ List.Forall₂ (fun a b => f a = .ok b) as bs := by
  induction as generalizing bs with
  | nil =>
    rw [List.mapM_nil, List.forall₂_nil_left_iff]
    constructor
    · intro h
      cases h
      rfl
    · rintro rfl
      rfl
  | cons a as ih =>
    rw [List.mapM_cons, List.forall₂_cons_left_iff, bind_eq_ok]
    constructor
    · rintro ⟨b, hb, h⟩
      obtain ⟨bs', hbs, h⟩ := bind_eq_ok.1 h
      cases h
      exact ⟨b, bs', hb, ih.1 hbs, rfl⟩
    · rintro ⟨b, bs', hb, hbs, rfl⟩
      exact ⟨b, hb, bind_eq_ok.2 ⟨bs', ih.2 hbs, rfl⟩⟩

/-- What is read of each result is known from its element. -/
theorem map_of_mapM_ok {f : α → Except ε β} {g : β → γ} {k : α → γ} {as : List α} {bs : List β}
    (h : ∀ a b, f a = .ok b → g b = k a) (hok : as.mapM f = .ok bs) : bs.map g = as.map k := by
  have hall := mapM_eq_ok.1 hok
  clear hok
  induction hall with
  | nil => rfl
  | cons hhead _ ih => rw [List.map_cons, List.map_cons, h _ _ hhead, ih]

theorem exists_of_mem_right {R : β → γ → Prop} {l : List β} {l' : List γ}
    (h : List.Forall₂ R l l') (hb : b ∈ l') : ∃ a ∈ l, R a b := by
  induction h with
  | nil => cases hb
  | cons hab _ ih =>
    rcases List.mem_cons.1 hb with rfl | hb
    · exact ⟨_, List.mem_cons_self, hab⟩
    · obtain ⟨a, ha, hr⟩ := ih hb
      exact ⟨a, List.mem_cons_of_mem _ ha, hr⟩

/-- A computation that never raises is mapped. -/
theorem mapM_ok {f : α → Except ε β} {g : α → β} {as : List α} (h : ∀ a ∈ as, f a = .ok (g a)) :
    as.mapM f = .ok (as.map g) := by
  rw [mapM_eq_ok, List.forall₂_map_right_iff, List.forall₂_same]
  exact h

/-- A computation that succeeds on each element succeeds on the list, and keeps what it gives. -/
theorem exists_mapM_ok (f : α → Except ε β) (P : β → Prop) (as : List α)
    (h : ∀ a ∈ as, ∃ b, f a = .ok b ∧ P b) :
    ∃ bs, as.mapM f = .ok bs ∧ bs.length = as.length ∧ ∀ b ∈ bs, P b := by
  induction as with
  | nil => exact ⟨[], rfl, rfl, fun b hb => by cases hb⟩
  | cons a as ih =>
    obtain ⟨b, hb, hp⟩ := h a List.mem_cons_self
    obtain ⟨bs, hbs, hlen, hps⟩ := ih (fun a ha => h a (List.mem_cons_of_mem _ ha))
    refine ⟨b :: bs, ?_, ?_, ?_⟩
    · rw [List.mapM_cons, hb]
      exact bind_eq_ok.2 ⟨b, rfl, bind_eq_ok.2 ⟨bs, hbs, rfl⟩⟩
    · rw [List.length_cons, List.length_cons, hlen]
    · intro c hc
      rcases List.mem_cons.1 hc with rfl | hc
      · exact hp
      · exact hps c hc

theorem raiseIf_eq_ok {e : PyException} : raiseIf condition e = .ok u ↔ condition = false := by
  cases condition <;> simp

theorem raiseIf_bind_eq_ok {e : PyException} {k : Unit → Except PyException α} :
    (raiseIf condition e >>= k) = .ok a ↔ condition = false ∧ k () = .ok a := by
  cases condition with
  | true => simp [bind, Except.bind]
  | false => simp [bind, Except.bind]

/-- Microseconds since the epoch; every stored timestamp is read back as UTC. -/
abbrev Timestamp := Int

/-- The float operations the service performs. The comparisons are Python's, so both `lt x y` and
`lt y x` may fail; `round6` is `round(x, 6)` and `sum` is the built-in. -/
class PyFloat (F : Type) where
  zero : F
  one : F
  /-- The literal `0.000001`. -/
  tolerance : F
  add : F → F → F
  sub : F → F → F
  mul : F → F → F
  neg : F → F
  abs : F → F
  sum : List F → F
  round6 : F → F
  lt : F → F → Bool
  eq : F → F → Bool
  repr : F → String
  /-- The format `{x:.6f}`. -/
  fixed6 : F → String
  lt_zero_zero : lt zero zero = false
  lt_zero_of_zero_le : ∀ x, (lt zero x || eq zero x) = true → lt x zero = false
  round6_nonneg : ∀ x, lt x zero = false → lt (round6 x) zero = false

namespace PyFloat

variable [PyFloat F]

/-- `x <= y`. -/
def le (x y : F) : Bool := lt x y || eq x y

/-- `max(x, y)` keeps its first argument unless the second is greater. -/
def max (x y : F) : F := if lt x y then y else x

/-- `max(xs, default=d)`. -/
def maxD (d : F) : List F → F
  | [] => d
  | x :: xs => xs.foldl max x

theorem round6_max_zero (x : F) : lt (round6 (max x zero)) zero = false := by
  apply round6_nonneg
  unfold max
  split
  · exact lt_zero_zero
  · rename_i h
    simpa using h

end PyFloat

/-- Text functions of the Python runtime. -/
class PyText where
  /-- `str.upper`. -/
  upper : String → String
  /-- `hashlib.sha256(text.encode("utf-8")).hexdigest()`. -/
  sha256 : String → String

/-- `str.isspace` of one character. -/
def isPySpace (c : Char) : Bool :=
  c.toNat ∈ [0x09, 0x0a, 0x0b, 0x0c, 0x0d, 0x1c, 0x1d, 0x1e, 0x1f, 0x20, 0x85, 0xa0, 0x1680, 0x2000,
    0x2001, 0x2002, 0x2003, 0x2004, 0x2005, 0x2006, 0x2007, 0x2008, 0x2009, 0x200a, 0x2028, 0x2029,
    0x202f, 0x205f, 0x3000]

/-- `str.strip()`. -/
def pyStrip (text : String) : String :=
  String.ofList ((text.toList.dropWhile isPySpace).reverse.dropWhile isPySpace).reverse

namespace AsciiRuntime

/-- The runtime on texts of ASCII characters. -/
scoped instance : PyText where
  upper text := String.ofList (text.toList.map Char.toUpper)
  sha256 text := Sha256.hexdigest text.toUTF8.toList

end AsciiRuntime

/-- The integer is not rounded to a finite float. -/
@[irreducible] def beyondFloat (i : Int) : Bool := decide (2 ^ 1024 - 2 ^ 970 ≤ i.natAbs)

section ExactArithmetic

/-- The nearest integer, ties to even. -/
def roundHalfEven (q : ℚ) : ℤ :=
  if q - ⌊q⌋ < 1 / 2 then ⌊q⌋
  else if 1 / 2 < q - ⌊q⌋ then ⌊q⌋ + 1
  else if ⌊q⌋ % 2 = 0 then ⌊q⌋ else ⌊q⌋ + 1

theorem abs_roundHalfEven_sub_le (q : ℚ) : |(roundHalfEven q : ℚ) - q| ≤ 1 / 2 := by
  have h0 := Int.floor_le q
  have h1 := Int.lt_floor_add_one q
  unfold roundHalfEven
  rw [abs_le]
  split
  · constructor <;> linarith
  · split
    · push_cast
      constructor <;> linarith
    · split <;> push_cast <;> constructor <;> linarith

theorem roundHalfEven_nonneg (h : 0 ≤ q) : 0 ≤ roundHalfEven q := by
  have hf : 0 ≤ ⌊q⌋ := Int.floor_nonneg.2 h
  unfold roundHalfEven
  split
  · exact hf
  · split
    · omega
    · split <;> omega

/-- `round(x, 6)` of an exact number. -/
def roundSix (q : ℚ) : ℚ := roundHalfEven (q * 1000000) / 1000000

theorem abs_roundSix_sub_le (q : ℚ) : |roundSix q - q| ≤ 5 / 10000000 := by
  have h := abs_le.1 (abs_roundHalfEven_sub_le (q * 1000000))
  unfold roundSix
  rw [abs_le]
  constructor <;> linarith

theorem roundSix_nonneg (h : 0 ≤ q) : 0 ≤ roundSix q := by
  have hr : 0 ≤ roundHalfEven (q * 1000000) := roundHalfEven_nonneg (by positivity)
  unfold roundSix
  positivity

/-- `places` decimal places of a number that has no more of them. -/
def decimalDigits (places : Nat) (q : ℚ) : String :=
  let scaled := (q * 10 ^ places).num.natAbs
  let fraction := toString (scaled % 10 ^ places)
  (if q < 0 then "-" else "") ++ toString (scaled / 10 ^ places) ++ "." ++
    String.ofList (List.replicate (places - fraction.length) '0') ++ fraction

/-- The shortest decimal text, for a number with at most seventeen decimal places. -/
def decimalRepr (q : ℚ) : String :=
  let places := (List.range 17).find? (fun n => (q * 10 ^ (n + 1)).den = 1)
  decimalDigits (places.getD 16 + 1) q

/-- Exact arithmetic, with no rounding but the explicit one. -/
instance : PyFloat ℚ where
  zero := 0
  one := 1
  tolerance := 1 / 1000000
  add := (· + ·)
  sub := (· - ·)
  mul := (· * ·)
  neg := (- ·)
  abs := (|·|)
  sum := List.sum
  round6 := roundSix
  lt x y := decide (x < y)
  eq x y := decide (x = y)
  repr := decimalRepr
  fixed6 q := decimalDigits 6 (roundSix q)
  lt_zero_zero := by decide
  lt_zero_of_zero_le x h := by
    rw [Bool.or_eq_true, decide_eq_true_iff, decide_eq_true_iff, ← le_iff_lt_or_eq] at h
    exact decide_eq_false (not_lt.2 h)
  round6_nonneg x h := by
    have hx : 0 ≤ x := by simpa using h
    simpa using roundSix_nonneg hx

@[simp] theorem rat_zero : (PyFloat.zero : ℚ) = 0 := rfl
@[simp] theorem rat_one : (PyFloat.one : ℚ) = 1 := rfl
@[simp] theorem rat_tolerance : (PyFloat.tolerance : ℚ) = 1 / 1000000 := rfl
@[simp] theorem rat_add (x y : ℚ) : PyFloat.add x y = x + y := rfl
@[simp] theorem rat_sub (x y : ℚ) : PyFloat.sub x y = x - y := rfl
@[simp] theorem rat_mul (x y : ℚ) : PyFloat.mul x y = x * y := rfl
@[simp] theorem rat_neg (x : ℚ) : PyFloat.neg x = -x := rfl
@[simp] theorem rat_abs (x : ℚ) : PyFloat.abs x = |x| := rfl
@[simp] theorem rat_sum (l : List ℚ) : PyFloat.sum l = l.sum := rfl
@[simp] theorem rat_round6 (x : ℚ) : PyFloat.round6 x = roundSix x := rfl
@[simp] theorem rat_lt (x y : ℚ) : PyFloat.lt x y = decide (x < y) := rfl
@[simp] theorem rat_eq (x y : ℚ) : PyFloat.eq x y = decide (x = y) := rfl

@[simp] theorem rat_le (x y : ℚ) : PyFloat.le x y = decide (x ≤ y) := by
  rw [PyFloat.le, rat_lt, rat_eq, ← Bool.decide_or]
  exact decide_eq_decide.2 le_iff_lt_or_eq.symm

@[simp] theorem rat_max (x y : ℚ) : PyFloat.max x y = Max.max x y := by
  unfold PyFloat.max
  rw [rat_lt]
  rcases lt_or_ge x y with h | h
  · rw [if_pos (decide_eq_true h), max_eq_right h.le]
  · rw [if_neg (by simpa using h), max_eq_left h]

end ExactArithmetic

section Calendar

def isLeap (year : Nat) : Bool := year % 4 = 0 && (year % 100 ≠ 0 || year % 400 = 0)

def daysInMonth (year month : Nat) : Nat :=
  if month = 2 then (if isLeap year then 29 else 28)
  else if month = 4 ∨ month = 6 ∨ month = 9 ∨ month = 11 then 30 else 31

/-- A proleptic Gregorian date, as `datetime.date`. -/
structure Date where
  year : Nat
  month : Nat
  day : Nat
  valid : 1 ≤ year ∧ year ≤ 9999 ∧ 1 ≤ month ∧ month ≤ 12 ∧ 1 ≤ day ∧ day ≤ daysInMonth year month
deriving DecidableEq

def Date.before (a b : Date) : Bool :=
  a.year < b.year || (a.year = b.year && (a.month < b.month ||
    (a.month = b.month && a.day < b.day)))

def zeroPadded (width n : Nat) : String :=
  String.ofList (List.replicate (width - (toString n).length) '0') ++ toString n

def Date.isoformat (d : Date) : String :=
  zeroPadded 4 d.year ++ "-" ++ zeroPadded 2 d.month ++ "-" ++ zeroPadded 2 d.day

/-- A UTC `datetime.datetime`. -/
structure UtcDateTime where
  date : Date
  hour : Nat
  minute : Nat
  second : Nat
  microsecond : Nat
  valid : hour < 24 ∧ minute < 60 ∧ second < 60 ∧ microsecond < 1000000
deriving DecidableEq

/-- The JSON text pydantic gives a UTC datetime. -/
def UtcDateTime.isoformat (t : UtcDateTime) : String :=
  t.date.isoformat ++ "T" ++ zeroPadded 2 t.hour ++ ":" ++ zeroPadded 2 t.minute ++ ":" ++
    zeroPadded 2 t.second ++
    (if t.microsecond = 0 then "" else "." ++ zeroPadded 6 t.microsecond) ++ "Z"

end Calendar

end LotusRisk
