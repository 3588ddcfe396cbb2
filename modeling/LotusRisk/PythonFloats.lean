import LotusRisk.Lib.Doubles
import LotusRisk.Python

/-! The floats of the Python runtime, which are doubles. -/

namespace LotusRisk
set_option autoImplicit true

open Doubles
open Float.Model

section Rounding

/-- The double nearest to a decimal number. -/
def nearestDouble (digits : Nat) (exponent : Int) : Float :=
  ⟨Float.Model.ofScientific digits exponent⟩

/-- `round(x, 6)` rounds the exact value to six places, and reads the digits back. -/
def roundDouble (x : Float) : Float :=
  match x.toModel.unpack with
  | .finite s m e _ =>
    let digits := roundHalfEven (m * 2 ^ e * 1000000)
    match s with
    | .positive => nearestDouble digits.toNat (-6)
    | .negative => -nearestDouble digits.toNat (-6)
  | _ => x

example : roundDouble 0.1234567 = 0.123457 ∧ roundDouble 2.5e-7 = 0 := by decide +kernel

theorem signed_ofScientific (spec m e) : Signed .positive (UnpackedFloat.ofScientific spec m e) := by
  unfold UnpackedFloat.ofScientific
  split_ifs
  · exact ⟨rfl, rfl⟩
  · exact ⟨rfl, rfl⟩
  · exact ⟨rfl, rfl⟩
  · exact signed_roundWithAccuracy _ _ _ _ _
  · exact signed_roundWithAccuracy _ _ _ _ _

/-- What is not below zero is not rounded below it. -/
theorem roundDouble_nonneg (x : Float) (h : x.lt 0 = false) : (roundDouble x).lt 0 = false := by
  unfold roundDouble
  split
  · rename_i s m e hm hx
    cases s with
    | positive => exact lt_zero_of_signed (signed_pack (signed_ofScientific _ _ _))
    | negative =>
      have hzero : (0 : Float).toModel.unpack = .zero .positive := rfl
      rw [lt_eq_false, order, hx, hzero] at h
      exact absurd rfl h
  · exact h

end Rounding

section Texts

def signText : UnpackedFloat.Sign → String
  | .positive => ""
  | .negative => "-"

/-- `f"{x:.6f}"`. -/
def fixedDouble (x : Float) : String :=
  match x.toModel.unpack with
  | .notANumber => "nan"
  | .infinity s => signText s ++ "inf"
  | .zero s => signText s ++ "0.000000"
  | .finite s m e _ => signText s ++ decimalDigits 6 (roundSix (m * 2 ^ e))

/-- The position of the decimal point before the first digit that counts. -/
def decimalPoint (q : ℚ) : Int :=
  let positions := (List.range 700).map fun i => (i : Int) - 330
  (positions.find? fun k => q < 10 ^ k).getD 0

/-- The fewest digits that read back as the double, after `0.`, and the position of the point. -/
def shortestDigits (x : Float) (q : ℚ) : Nat × Int :=
  let point := decimalPoint q
  let rounded := (List.range 17).map fun n =>
    ((roundHalfEven (q * 10 ^ ((n : Int) + 1 - point))).toNat, point - ((n : Int) + 1))
  (rounded.find? fun digits => nearestDouble digits.1 digits.2 == x.abs).getD (0, 0)

/-- Digits with their point, or with an exponent if it is far away. -/
def digitsText (digits : List Char) (point : Int) : String :=
  let zeros n := String.ofList (List.replicate n '0')
  let places := point.toNat
  if -4 < point ∧ point ≤ 0 then "0." ++ zeros (-point).toNat ++ String.ofList digits
  else if 0 < point ∧ point ≤ 16 then
    if digits.length ≤ places then
      String.ofList digits ++ zeros (places - digits.length) ++ ".0"
    else String.ofList (digits.take places) ++ "." ++ String.ofList (digits.drop places)
  else
    let exponent := point - 1
    let fraction := if digits.length = 1 then "" else "." ++ String.ofList (digits.drop 1)
    String.ofList (digits.take 1) ++ fraction ++ "e" ++ (if exponent < 0 then "-" else "+") ++
      zeroPadded 2 exponent.natAbs

/-- `repr(x)`. -/
def reprDouble (x : Float) : String :=
  match x.toModel.unpack with
  | .notANumber => "nan"
  | .infinity s => signText s ++ "inf"
  | .zero s => signText s ++ "0.0"
  | .finite s m e _ =>
    let shortest := shortestDigits x (m * 2 ^ e)
    let digits := Nat.toDigits 10 shortest.1
    signText s ++ digitsText digits (shortest.2 + digits.length)

example : [0.1, 1e22, 1.5, -0.0, 123456.789, 5e-324, 0.00001].map reprDouble =
    ["0.1", "1e+22", "1.5", "-0.0", "123456.789", "5e-324", "1e-05"] := by decide +kernel

end Texts

instance : PyFloat Float where
  zero := 0
  one := 1
  tolerance := 0.000001
  add := (· + ·)
  sub := (· - ·)
  mul := (· * ·)
  neg := (- ·)
  abs := Float.abs
  sum := Doubles.sum
  round6 := roundDouble
  lt := Float.lt
  eq := Float.beq
  repr := reprDouble
  fixed6 := fixedDouble
  lt_zero_zero := by decide +kernel
  lt_zero_of_zero_le x h := lt_eq_false_of_le h
  round6_nonneg := roundDouble_nonneg

end LotusRisk
