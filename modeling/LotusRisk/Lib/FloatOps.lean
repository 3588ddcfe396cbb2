import Mathlib.Algebra.Order.Field.Basic
import Mathlib.Algebra.Order.Group.Abs
import Mathlib.Algebra.BigOperators.Group.List.Basic
import Mathlib.Data.Int.Cast.Defs

/-! Arithmetic as a program does it on its numbers: exact in a field, rounded on doubles. What is
proved over any arithmetic holds of both. -/

set_option autoImplicit true

/-- The operations on the numbers of a program. -/
class FloatOps (F : Type u) where
  ofInt : Int → F
  add : F → F → F
  sub : F → F → F
  mul : F → F → F
  div : F → F → F
  sum : List F → F
  isNaN : F → Bool

/-- Arithmetic with comparisons, of which both may fail. -/
class OrderedFloatOps (F : Type u) extends FloatOps F where
  abs : F → F
  lt : F → F → Bool

/-- Numbers of which some are special, and what the finite ones are exactly. -/
class ValuedFloat (F : Type u) (V : outParam (Type v)) extends OrderedFloatOps F where
  isFinite : F → Bool
  value : F → V
  isFinite_div_hundred (x : F) : isFinite x = true → isFinite (div x (ofInt 100)) = true

namespace FloatOps

variable [FloatOps F]

/-- A product from the left. -/
def prod (xs : List F) : F := xs.foldl mul (ofInt 1)

end FloatOps

section Exact

variable {K : Type u}

/-- The arithmetic of a field rounds nothing, and has no NaN. -/
instance (priority := low) exactFloatOps [Field K] : FloatOps K where
  ofInt i := i
  add := (· + ·)
  sub := (· - ·)
  mul := (· * ·)
  div := (· / ·)
  sum := List.sum
  isNaN _ := false

instance (priority := low) exactOrderedFloatOps [Field K] [LinearOrder K] : OrderedFloatOps K where
  abs x := |x|
  lt x y := decide (x < y)

instance (priority := low) exactValuedFloat [Field K] [LinearOrder K] : ValuedFloat K K where
  isFinite _ := true
  value x := x
  isFinite_div_hundred _ _ := rfl

@[simp] theorem exact_value [Field K] [LinearOrder K] (x : K) : ValuedFloat.value x = x := rfl

namespace FloatOps

variable [Field K]

@[simp] theorem exact_ofInt (i : Int) : (ofInt i : K) = i := rfl
@[simp] theorem exact_add (x y : K) : add x y = x + y := rfl
@[simp] theorem exact_sub (x y : K) : sub x y = x - y := rfl
@[simp] theorem exact_mul (x y : K) : mul x y = x * y := rfl
@[simp] theorem exact_div (x y : K) : div x y = x / y := rfl
@[simp] theorem exact_sum (xs : List K) : sum xs = xs.sum := rfl
@[simp] theorem exact_isNaN (x : K) : isNaN x = false := rfl

@[simp] theorem exact_prod (xs : List K) : prod xs = xs.prod := by
  have hfrom : ∀ start : K, xs.foldl mul start = start * xs.prod := by
    induction xs with
    | nil => exact fun start => (mul_one start).symm
    | cons x xs ih =>
      intro start
      rw [List.foldl_cons, ih, exact_mul, List.prod_cons, mul_assoc]
  rw [prod, hfrom, exact_ofInt, Int.cast_one, one_mul]

end FloatOps

end Exact
