import Mathlib
import LotusRisk.Lib.FloatOps

/-! Doubles of IEEE 754: their order, their special values, and sums of them. -/

namespace Doubles
set_option autoImplicit true

open Float.Model
open Float.Model.UnpackedFloat (Sign unpackSign packComponents ExtendedMantissa)

section Order

/-- The order of two doubles, which a NaN has with none. -/
def order (x y : Float) : Option Ordering :=
  UnpackedFloat.compare x.toModel.unpack y.toModel.unpack

theorem lt_eq (x y : Float) : x.lt y = (order x y == some .lt) := by
  rw [Bool.eq_iff_iff]
  simp [Float.lt, LT.lt, Float.Model.lt, UnpackedFloat.lt, order]

theorem beq_eq (x y : Float) : x.beq y = (order x y == some .eq) := rfl

/-- At most: less or equal. -/
def le (x y : Float) : Bool := x.lt y || x.beq y

theorem le_iff {x y : Float} : le x y = true ↔ order x y = some .lt ∨ order x y = some .eq := by
  rw [le, lt_eq, beq_eq, Bool.or_eq_true, beq_iff_eq, beq_iff_eq]

theorem lt_eq_false {x y : Float} : x.lt y = false ↔ order x y ≠ some .lt := by
  rw [lt_eq, beq_eq_false_iff_ne]

theorem order_swap (x y : Float) : order y x = (order x y).map Ordering.swap := by
  unfold order
  generalize x.toModel.unpack = a
  generalize y.toModel.unpack = b
  cases a with
  | notANumber => cases b <;> rfl
  | infinity s => cases b with
    | notANumber => cases s <;> rfl
    | infinity t => cases s <;> cases t <;> rfl
    | zero t => cases s <;> cases t <;> rfl
    | finite t _ _ _ => cases s <;> cases t <;> rfl
  | zero s => cases b with
    | notANumber => cases s <;> rfl
    | infinity t => cases s <;> cases t <;> rfl
    | zero t => cases s <;> cases t <;> rfl
    | finite t _ _ _ => cases s <;> cases t <;> rfl
  | finite s _ _ _ => cases b with
    | notANumber => cases s <;> rfl
    | infinity t => cases s <;> cases t <;> rfl
    | zero t => cases s <;> cases t <;> rfl
    | finite t _ _ _ =>
      cases s <;> cases t <;>
        simp [UnpackedFloat.compare, Ordering.swap_then, Int.compare_swap, Nat.compare_swap]

theorem isNaN_eq (x : Float) : x.isNaN = x.toModel.unpack.isNaN := rfl

theorem isFinite_eq (x : Float) : x.isFinite = x.toModel.unpack.isFinite := rfl

theorem order_eq_none {x y : Float} :
    order x y = none ↔ x.isNaN = true ∨ y.isNaN = true := by
  rw [isNaN_eq, isNaN_eq, order]
  generalize x.toModel.unpack = a
  generalize y.toModel.unpack = b
  cases a with
  | notANumber => simp [UnpackedFloat.compare, UnpackedFloat.isNaN]
  | infinity s => cases s <;> cases b <;> simp [UnpackedFloat.compare, UnpackedFloat.isNaN]
  | zero s => cases b with
    | notANumber => simp [UnpackedFloat.compare, UnpackedFloat.isNaN]
    | zero t => simp [UnpackedFloat.compare, UnpackedFloat.isNaN]
    | infinity t => cases t <;> simp [UnpackedFloat.compare, UnpackedFloat.isNaN]
    | finite t _ _ _ => cases t <;> simp [UnpackedFloat.compare, UnpackedFloat.isNaN]
  | finite s _ _ _ => cases b with
    | notANumber => cases s <;> simp [UnpackedFloat.compare, UnpackedFloat.isNaN]
    | zero t => cases s <;> simp [UnpackedFloat.compare, UnpackedFloat.isNaN]
    | infinity t => cases s <;> cases t <;> simp [UnpackedFloat.compare, UnpackedFloat.isNaN]
    | finite t _ _ _ => cases s <;> cases t <;> simp [UnpackedFloat.compare, UnpackedFloat.isNaN]

/-- What is at most another is not greater. -/
theorem lt_eq_false_of_le {x y : Float} (h : le x y = true) : y.lt x = false := by
  rw [lt_eq_false, order_swap x y]
  rcases le_iff.1 h with h | h <;> rw [h] <;> simp

/-- Numbers, but not the NaN, are ordered one way or the other. -/
theorem le_of_lt_eq_false {x y : Float} (hx : x.isNaN = false) (hy : y.isNaN = false)
    (h : x.lt y = false) : le y x = true := by
  rw [le_iff, order_swap x y]
  rw [lt_eq_false] at h
  cases horder : order x y with
  | none =>
    rcases order_eq_none.1 horder with hnan | hnan
    · rw [hx] at hnan
      cases hnan
    · rw [hy] at hnan
      cases hnan
  | some o =>
    rw [horder] at h
    cases o with
    | lt => exact absurd rfl h
    | eq => exact .inr rfl
    | gt => exact .inl rfl

/-- Between finite bounds there are no special values. -/
theorem isFinite_of_le {low high x : Float} (hlow : low.isFinite = true)
    (hhigh : high.isFinite = true) (h : le low x = true) (h' : le x high = true) :
    x.isFinite = true := by
  rw [isFinite_eq] at *
  rw [le_iff, order] at h h'
  revert hlow hhigh h h'
  generalize low.toModel.unpack = a
  generalize high.toModel.unpack = b
  generalize x.toModel.unpack = c
  intro hlow hhigh h h'
  cases c with
  | notANumber => cases a <;> simp [UnpackedFloat.compare, UnpackedFloat.isFinite] at hlow h
  | zero s => rfl
  | finite s _ _ _ => rfl
  | infinity s =>
    cases s with
    | positive =>
      cases b <;> simp [UnpackedFloat.compare, UnpackedFloat.isFinite] at hhigh h'
    | negative =>
      cases a with
      | zero s => simp [UnpackedFloat.compare] at h
      | finite s _ _ _ => cases s <;> simp [UnpackedFloat.compare] at h
      | _ => cases hlow

end Order

section Packing

/-- The sign of a number. -/
def signOf : UnpackedFloat → Sign
  | .notANumber => .positive
  | .infinity s | .zero s | .finite s _ _ _ => s

/-- A number of a sign, not the NaN. -/
def Signed (s : Sign) (a : UnpackedFloat) : Prop := a.isNaN = false ∧ signOf a = s

theorem exists_signed {a : UnpackedFloat} (h : a.isNaN = false) : ∃ s, Signed s a :=
  ⟨signOf a, h, rfl⟩

theorem signed_unpack_packComponents {spec : Format} {s : Sign} {exponent mantissa}
    (h : exponent = -1#_ → mantissa = 0#_) :
    Signed s (UnpackedFloat.unpack spec (packComponents spec s exponent mantissa)) := by
  simp only [UnpackedFloat.unpack, UnpackedFloat.unpackExponent_packComponents,
    UnpackedFloat.unpackMantissa_packComponents, UnpackedFloat.unpackSign_packComponents,
    Sign.ofBitVec_toBitVec]
  split_ifs with hexponent hmantissa
  · exact ⟨rfl, rfl⟩
  · exact absurd (h hexponent) hmantissa
  · exact ⟨rfl, rfl⟩
  · exact ⟨rfl, rfl⟩
  · exact ⟨rfl, rfl⟩

/-- A number is packed with its sign; it may overflow to an infinity. -/
theorem signed_pack {a : UnpackedFloat} (h : Signed s a) : Signed s (pack a).unpack := by
  have hbits : (pack a).unpack = UnpackedFloat.unpack Format.binary64
      (UnpackedFloat.pack Format.binary64 a) := rfl
  rw [hbits]
  obtain ⟨hnan, rfl⟩ := h
  cases a with
  | notANumber => cases hnan
  | infinity s => exact signed_unpack_packComponents (fun _ => rfl)
  | zero s => exact signed_unpack_packComponents (fun _ => rfl)
  | finite s m e hm =>
    rw [UnpackedFloat.pack]
    dsimp only
    split_ifs with hlarge hnormal
    · exact signed_unpack_packComponents (fun _ => rfl)
    · apply signed_unpack_packComponents
      intro heq
      have hbits := congrArg BitVec.toNat heq
      simp at hbits hlarge
      omega
    · apply signed_unpack_packComponents
      intro heq
      exact absurd heq (by decide)

theorem signed_roundWithAccuracy (spec s m e acc) :
    Signed s (UnpackedFloat.roundWithAccuracy spec s m e acc) := by
  unfold UnpackedFloat.roundWithAccuracy
  dsimp only
  split <;> exact ⟨rfl, rfl⟩

/-- A number that is not negative is not less than zero. -/
theorem lt_zero_of_signed {x : Float} (h : Signed .positive x.toModel.unpack) :
    x.lt 0 = false := by
  have hzero : (0 : Float).toModel.unpack = .zero .positive := rfl
  rw [lt_eq_false, order, hzero]
  obtain ⟨hnan, hsign⟩ := h
  revert hnan hsign
  generalize x.toModel.unpack = a
  intro hnan hsign
  cases a with
  | notANumber => cases hnan
  | infinity s => cases hsign; simp [UnpackedFloat.compare]
  | zero s => cases hsign; simp [UnpackedFloat.compare]
  | finite s m e hm => cases hsign; simp [UnpackedFloat.compare]

end Packing

section Arithmetic

theorem toModel_add (x y : Float) : (x + y).toModel.unpack =
    (pack (UnpackedFloat.add Format.binary64 x.toModel.unpack y.toModel.unpack)).unpack := rfl

theorem isNaN_pack {a : UnpackedFloat} (h : a.isNaN = false) : (pack a).unpack.isNaN = false := by
  obtain ⟨s, hsigned⟩ := exists_signed h
  exact (signed_pack hsigned).1

theorem isNaN_normalize (spec m e s) : (UnpackedFloat.normalize spec m e s).isNaN = false := by
  unfold UnpackedFloat.normalize
  split
  · exact (signed_roundWithAccuracy _ _ _ _ _).1
  · rfl
  · exact (signed_roundWithAccuracy _ _ _ _ _).1

/-- A finite term makes no NaN of a sum. -/
theorem isNaN_add {x y : Float} (hx : x.isNaN = false) (hy : y.isFinite = true) :
    (x + y).isNaN = false := by
  rw [isNaN_eq, toModel_add]
  apply isNaN_pack
  rw [isNaN_eq] at hx
  rw [isFinite_eq] at hy
  revert hx hy
  generalize x.toModel.unpack = a
  generalize y.toModel.unpack = b
  intro hx hy
  cases a with
  | notANumber => cases hx
  | infinity s => cases b <;> first | rfl | cases hy
  | zero s =>
    cases b with
    | zero t => cases s <;> cases t <;> rfl
    | finite t _ _ _ => rfl
    | _ => cases hy
  | finite s _ _ _ =>
    cases b with
    | zero t => rfl
    | finite t _ _ _ => exact isNaN_normalize _ _ _ _
    | _ => cases hy

/-- A difference from a finite number is a number. -/
theorem isNaN_sub {x y : Float} (hx : x.isNaN = false) (hy : y.isFinite = true) :
    (x - y).isNaN = false := by
  have hmodel : (x - y).toModel.unpack =
    (pack (UnpackedFloat.sub Format.binary64 x.toModel.unpack y.toModel.unpack)).unpack := rfl
  rw [isNaN_eq, hmodel]
  apply isNaN_pack
  rw [isNaN_eq] at hx
  rw [isFinite_eq] at hy
  revert hx hy
  generalize x.toModel.unpack = a
  generalize y.toModel.unpack = b
  intro hx hy
  cases a with
  | notANumber => cases hx
  | infinity s => cases b <;> first | rfl | cases hy
  | zero s =>
    cases b with
    | zero t => cases s <;> cases t <;> rfl
    | finite t _ _ _ => rfl
    | _ => cases hy
  | finite s _ _ _ =>
    cases b with
    | zero t => rfl
    | finite t _ _ _ => exact isNaN_normalize _ _ _ _
    | _ => cases hy

theorem isNaN_abs {x : Float} (hx : x.isNaN = false) : x.abs.isNaN = false := by
  have hmodel : x.abs.toModel.unpack = (pack x.toModel.unpack.abs).unpack := rfl
  rw [isNaN_eq, hmodel]
  apply isNaN_pack
  rw [isNaN_eq] at hx
  revert hx
  generalize x.toModel.unpack = a
  intro hx
  cases a <;> first | rfl | cases hx

/-- A finite number differs from itself by nothing. -/
theorem sub_self {x : Float} (h : x.isFinite = true) : x - x = 0 := by
  have hmodel : (x - x).toModel =
    pack (UnpackedFloat.sub Format.binary64 x.toModel.unpack x.toModel.unpack) := rfl
  have hzero : UnpackedFloat.sub Format.binary64 x.toModel.unpack x.toModel.unpack =
      .zero .positive := by
    rw [isFinite_eq] at h
    revert h
    generalize x.toModel.unpack = a
    intro h
    cases a with
    | zero s => cases s <;> rfl
    | finite s m e hm =>
      simp [UnpackedFloat.sub, UnpackedFloat.normalize]
    | _ => cases h
  rw [hzero] at hmodel
  exact congrArg Float.ofModel hmodel

end Arithmetic

section Sums

/-- A number that no sum of its like takes below zero: what is at least zero. -/
def Nonnegative (a : UnpackedFloat) : Prop := Signed .positive a ∨ ∃ s, a = .zero s

theorem nonnegative_of_le {x : Float} (h : le 0 x = true) : Nonnegative x.toModel.unpack := by
  have hzero : (0 : Float).toModel.unpack = .zero .positive := rfl
  rw [le_iff, order, hzero] at h
  revert h
  generalize x.toModel.unpack = a
  intro h
  cases a with
  | notANumber => simp [UnpackedFloat.compare] at h
  | zero s => exact .inr ⟨s, rfl⟩
  | infinity s =>
    cases s with
    | positive => exact .inl ⟨rfl, rfl⟩
    | negative => simp [UnpackedFloat.compare] at h
  | finite s _ _ _ =>
    cases s with
    | positive => exact .inl ⟨rfl, rfl⟩
    | negative => simp [UnpackedFloat.compare] at h

theorem nonnegative_normalize (h : 0 ≤ m) :
    Nonnegative (UnpackedFloat.normalize spec m e s) := by
  unfold UnpackedFloat.normalize
  split
  · rename_i hlt
    exact absurd (Int.compare_eq_lt.1 hlt) (Int.not_lt.2 h)
  · exact .inr ⟨s, rfl⟩
  · exact .inl (signed_roundWithAccuracy _ _ _ _ _)

theorem nonnegative_add {a b : UnpackedFloat} (ha : Nonnegative a) (hb : Nonnegative b) :
    Nonnegative (UnpackedFloat.add Format.binary64 a b) := by
  rcases ha with ⟨hnan, hsign⟩ | ⟨s, rfl⟩
  · rcases hb with ⟨hnan', hsign'⟩ | ⟨t, rfl⟩
    · cases a with
      | notANumber => cases hnan
      | zero s =>
        cases b with
        | zero t => cases s <;> cases t <;> exact .inr ⟨_, rfl⟩
        | _ => exact .inl ⟨hnan', hsign'⟩
      | infinity s =>
        cases hsign
        cases b with
        | notANumber => cases hnan'
        | infinity t =>
          cases hsign'
          exact .inl ⟨rfl, rfl⟩
        | _ => exact .inl ⟨rfl, rfl⟩
      | finite s m e hm =>
        cases hsign
        cases b with
        | notANumber => cases hnan'
        | infinity t => exact .inl ⟨rfl, hsign'⟩
        | zero t => exact .inl ⟨rfl, rfl⟩
        | finite t m' e' hm' =>
          cases hsign'
          exact nonnegative_normalize (Int.add_nonneg (Int.natCast_nonneg _) (Int.natCast_nonneg _))
    · cases a with
      | notANumber => cases hnan
      | zero s => cases s <;> cases t <;> exact .inr ⟨_, rfl⟩
      | _ => exact .inl ⟨hnan, hsign⟩
  · rcases hb with ⟨hnan', hsign'⟩ | ⟨t, rfl⟩
    · cases b with
      | notANumber => cases hnan'
      | zero t => cases s <;> cases t <;> exact .inr ⟨_, rfl⟩
      | _ => exact .inl ⟨hnan', hsign'⟩
    · cases s <;> cases t <;> exact .inr ⟨_, rfl⟩

theorem nonnegative_pack {a : UnpackedFloat} (h : Nonnegative a) : Nonnegative (pack a).unpack := by
  rcases h with h | ⟨s, rfl⟩
  · exact .inl (signed_pack h)
  · cases s <;> exact .inr ⟨_, rfl⟩

theorem isNaN_of_nonnegative {x : Float} (h : Nonnegative x.toModel.unpack) : x.isNaN = false := by
  rw [isNaN_eq]
  rcases h with h | ⟨s, hs⟩
  · exact h.1
  · rw [hs]
    rfl

/-- One term of a compensated sum: what the rounding of the sum has lost is kept apart. -/
def compensatedStep (state : Float × Float) (x : Float) : Float × Float :=
  let total := state.1 + x
  (total, if le x.abs state.1.abs then state.2 + ((state.1 - total) + x)
    else state.2 + ((x - total) + state.1))

/-- What was lost is added in the end, if it is a finite number. -/
def compensated (state : Float × Float) : Float :=
  if !state.2.beq 0 && state.2.isFinite then state.1 + state.2 else state.1

/-- A compensated sum from the left. -/
def sum : List Float → Float
  | [] => 0
  | x :: xs => compensated (xs.foldl compensatedStep (0 + x, 0))

example : sum [0.1, 0.2, 0.3, 0.4] = 1 ∧ 0.1 + 0.2 + 0.3 + 0.4 = (1 : Float) := by decide +kernel

example : (sum [1e308, 1e308]).isFinite = false := by decide +kernel

theorem isNaN_compensated {state : Float × Float} (h : state.1.isNaN = false) :
    (compensated state).isNaN = false := by
  unfold compensated
  split
  · rename_i hfinite
    exact isNaN_add h (Bool.and_eq_true_iff.1 hfinite).2
  · exact h

theorem nonnegative_toModel_add {x y : Float} (hx : Nonnegative x.toModel.unpack)
    (hy : le 0 y = true) : Nonnegative (x + y).toModel.unpack :=
  nonnegative_pack (nonnegative_add hx (nonnegative_of_le hy))

theorem nonnegative_zero : Nonnegative (0 : Float).toModel.unpack := .inr ⟨.positive, rfl⟩

/-- A sum of what is at least zero is a number. -/
theorem isNaN_foldl_add {xs : List Float} (h : ∀ x ∈ xs, le 0 x = true) :
    (xs.foldl (· + ·) 0).isNaN = false := by
  apply isNaN_of_nonnegative
  have hall : ∀ start : Float, Nonnegative start.toModel.unpack →
      Nonnegative (xs.foldl (· + ·) start).toModel.unpack := by
    induction xs with
    | nil => exact fun _ hstart => hstart
    | cons x xs ih =>
      intro start hstart
      exact ih (fun y hy => h y (List.mem_cons_of_mem x hy)) _
        (nonnegative_toModel_add hstart (h x List.mem_cons_self))
  exact hall 0 nonnegative_zero

theorem nonnegative_foldl_compensatedStep {xs : List Float} (h : ∀ x ∈ xs, le 0 x = true)
    (state : Float × Float) (hstate : Nonnegative state.1.toModel.unpack) :
    Nonnegative (xs.foldl compensatedStep state).1.toModel.unpack := by
  induction xs generalizing state with
  | nil => exact hstate
  | cons x xs ih =>
    exact ih (fun y hy => h y (List.mem_cons_of_mem x hy)) _
      (nonnegative_toModel_add hstate (h x List.mem_cons_self))

theorem isNaN_sum {xs : List Float} (h : ∀ x ∈ xs, le 0 x = true) : (sum xs).isNaN = false := by
  cases xs with
  | nil => rfl
  | cons x xs =>
    apply isNaN_compensated
    apply isNaN_of_nonnegative
    apply nonnegative_foldl_compensatedStep (fun y hy => h y (List.mem_cons_of_mem x hy))
    exact nonnegative_toModel_add nonnegative_zero (h x List.mem_cons_self)

end Sums

section Division

/-- The mantissa and the exponent of a finite double. -/
theorem bounds_of_unpack {x : Float} (h : x.toModel.unpack = .finite s m e hm) :
    m < 2 ^ 53 ∧ e ≤ 971 := by
  unfold Float.Model.unpack UnpackedFloat.unpack at h
  dsimp only at h
  split_ifs at h with hinfinite hzero hexponent hmantissa
  · obtain ⟨-, rfl, rfl⟩ := UnpackedFloat.finite.inj h
    refine ⟨Nat.lt_of_lt_of_le (BitVec.isLt _) (by decide), ?_⟩
    rw [hexponent]
    decide
  · obtain ⟨-, rfl, rfl⟩ := UnpackedFloat.finite.inj h
    refine ⟨BitVec.isLt _, ?_⟩
    have hbias : (Format.binary64.exponentBias : Int) = 1023 := rfl
    rw [hbias]
    revert hinfinite
    generalize UnpackedFloat.unpackExponent _ = exponent
    intro hinfinite
    have hlt : exponent.toNat < 2048 := exponent.isLt
    have hne : exponent.toNat ≠ 2047 := fun heq => hinfinite (BitVec.eq_of_toNat_eq heq)
    omega

theorem mantissa_shiftRight_le (em : ExtendedMantissa) (n : Nat) :
    (em >>> n).mantissa ≤ em.mantissa := by
  change (n.repeat ExtendedMantissa.shiftRightOne em).mantissa ≤ em.mantissa
  induction n with
  | zero => exact Nat.le_refl _
  | succ n ih => exact Nat.le_trans (Nat.div_le_self _ 2) ih

theorem roundedMantissa_le (em : ExtendedMantissa) : em.roundedMantissa ≤ em.mantissa + 1 := by
  unfold ExtendedMantissa.roundedMantissa
  cases em.accuracy with
  | exact => exact Nat.le_succ _
  | inexact o =>
    cases o with
    | lt => exact Nat.le_succ _
    | eq => exact Nat.add_le_add_left (Nat.le_of_lt_succ (Nat.mod_lt _ Nat.two_pos)) _
    | gt => exact Nat.le_refl _

theorem mantissa_ofMantissaAndAccuracy (m acc) :
    (ExtendedMantissa.ofMantissaAndAccuracy m acc).mantissa = m := by
  unfold ExtendedMantissa.ofMantissaAndAccuracy
  split <;> rfl

theorem shiftToTargetExponent_le (m : Nat) (e : Int) (acc) :
    (UnpackedFloat.shiftToTargetExponent Format.binary64 m e acc).1.mantissa ≤ m ∧
      (UnpackedFloat.shiftToTargetExponent Format.binary64 m e acc).2 =
        max e (max (m.log2 + 1 + e - 53) (-1074)) := by
  constructor
  · refine Nat.le_trans (mantissa_shiftRight_le _ _) ?_
    rw [mantissa_ofMantissaAndAccuracy]
  · unfold UnpackedFloat.shiftToTargetExponent UnpackedFloat.shiftToExponent
    dsimp only
    rw [Format.targetExponent, totalExponent]
    simp only [Format.mantissaBits, Format.minExponent]
    omega

theorem log2_le_of_lt {m n : Nat} (h : m < 2 ^ (n + 1)) : m.log2 ≤ n := by
  by_cases hm : m = 0
  · rw [hm]
    exact Nat.zero_le n
  · exact Nat.le_of_lt_succ ((Nat.log2_lt hm).2 h)

theorem isFinite_unpack_packComponents {spec : Format} {s : Sign} {exponent mantissa}
    (h : exponent ≠ -1#_) :
    (UnpackedFloat.unpack spec (packComponents spec s exponent mantissa)).isFinite = true := by
  simp only [UnpackedFloat.unpack, UnpackedFloat.unpackExponent_packComponents,
    UnpackedFloat.unpackMantissa_packComponents]
  rw [if_neg h]
  split_ifs <;> rfl

/-- A number whose exponent is that of a finite double is packed as one. -/
theorem isFinite_pack {s : Sign} {m : Nat} {e : Int} {hm : 0 < m} (he : e ≤ 971) :
    (pack (.finite s m e hm)).unpack.isFinite = true := by
  have hbits : (pack (.finite s m e hm)).unpack = UnpackedFloat.unpack Format.binary64
      (UnpackedFloat.pack Format.binary64 (.finite s m e hm)) := rfl
  rw [hbits, UnpackedFloat.pack]
  have hbias : (Format.binary64.exponentBias : Int) = 1023 := rfl
  dsimp only
  rw [hbias]
  have hsmall : (e + 1023 + ((52 : Nat) : Int)).toNat ≤ 2046 := by omega
  generalize (e + 1023 + ((52 : Nat) : Int)).toNat = biased at *
  rw [if_neg (by omega)]
  split_ifs
  · apply isFinite_unpack_packComponents
    intro heq
    have hbiased := congrArg BitVec.toNat heq
    simp at hbiased
    omega
  · exact isFinite_unpack_packComponents (by decide)

/-- A number of few digits and a small exponent is rounded to a finite one. -/
theorem isFinite_roundWithAccuracy (s : Sign) (acc) (hm : m < 2 ^ 55) (he : e ≤ 964) :
    (pack (UnpackedFloat.roundWithAccuracy Format.binary64 s m e acc)).unpack.isFinite = true := by
  unfold UnpackedFloat.roundWithAccuracy
  dsimp only
  have hfirst := shiftToTargetExponent_le m e acc
  have hrounded := roundedMantissa_le
    (UnpackedFloat.shiftToTargetExponent Format.binary64 m e acc).1
  have hlog := log2_le_of_lt hm
  generalize UnpackedFloat.shiftToTargetExponent Format.binary64 m e acc = first at *
  obtain ⟨em, e₁⟩ := first
  obtain ⟨hmantissa, rfl⟩ := hfirst
  have hsecond := shiftToTargetExponent_le em.roundedMantissa
    (max e (max (m.log2 + 1 + e - 53) (-1074))) .exact
  have hlog' : em.roundedMantissa.log2 ≤ 55 := by
    apply log2_le_of_lt
    dsimp only at hmantissa hrounded
    omega
  generalize UnpackedFloat.shiftToTargetExponent Format.binary64 em.roundedMantissa _ _ = last at *
  obtain ⟨em', e₂⟩ := last
  obtain ⟨-, rfl⟩ := hsecond
  split_ifs
  · cases s <;> rfl
  · apply isFinite_pack
    omega

/-- A finite double is divided by a hundred without overflow. -/
theorem isFinite_div {x y : Float} (hx : x.isFinite = true)
    (hy : y.toModel.unpack = .finite .positive 7036874417766400 (-46) hpos) :
    (x / y).isFinite = true := by
  have hmodel : (x / y).toModel.unpack =
    (pack (UnpackedFloat.div Format.binary64 x.toModel.unpack y.toModel.unpack)).unpack := rfl
  rw [isFinite_eq] at hx
  rw [isFinite_eq, hmodel, hy]
  cases hunpack : x.toModel.unpack with
  | notANumber =>
    rw [hunpack] at hx
    cases hx
  | infinity s =>
    rw [hunpack] at hx
    cases hx
  | zero s =>
    change (pack (.zero (s / .positive))).unpack.isFinite = true
    generalize s / .positive = sign
    cases sign <;> rfl
  | finite s m e hm =>
    obtain ⟨hmantissa, hexponent⟩ := bounds_of_unpack hunpack
    have hlog := log2_le_of_lt hmantissa
    rw [UnpackedFloat.div]
    unfold UnpackedFloat.divCore
    dsimp only
    have htarget : Format.binary64.targetExponent
        (totalExponent m e - totalExponent 7036874417766400 (-46)) =
        max (m.log2 + 1 + e - 7 - 53) (-1074) := by
      have htotal : totalExponent 7036874417766400 (-46) = 7 := by decide +kernel
      rw [htotal]
      rfl
    rw [htarget]
    apply isFinite_roundWithAccuracy
    · rw [Nat.div_lt_iff_lt_mul (by decide), Nat.shiftLeft_eq]
      have hshift : m.log2 + 1 + (e - -46 - min (e - -46)
          (max (m.log2 + 1 + e - 7 - 53) (-1074))).toNat ≤ 106 := by omega
      generalize (e - -46 - min (e - -46) _).toNat = shift at *
      calc m * 2 ^ shift < 2 ^ (m.log2 + 1) * 2 ^ shift :=
            Nat.mul_lt_mul_of_pos_right Nat.lt_log2_self (Nat.two_pow_pos _)
        _ = 2 ^ (m.log2 + 1 + shift) := (Nat.pow_add 2 _ _).symm
        _ ≤ 2 ^ 106 := Nat.pow_le_pow_right Nat.two_pos hshift
        _ ≤ 2 ^ 55 * 7036874417766400 := by decide
    · omega

end Division

section Values

/-- What a finite double is exactly. -/
def value (x : Float) : ℚ :=
  match x.toModel.unpack with
  | .finite .positive m e _ => m * 2 ^ e
  | .finite .negative m e _ => -(m * 2 ^ e)
  | _ => 0

example : value 0.5 = 1 / 2 ∧ value (-3) = -3 := by decide +kernel

end Values

end Doubles

section Doubles

/-- The integer is read as the nearest double. -/
def doubleOfInt (i : Int) : Float := ⟨Float.Model.ofInt i⟩

instance : OrderedFloatOps Float where
  ofInt := doubleOfInt
  add := (· + ·)
  sub := (· - ·)
  mul := (· * ·)
  div := (· / ·)
  sum := Doubles.sum
  isNaN := Float.isNaN
  abs := Float.abs
  lt := Float.lt

instance : ValuedFloat Float ℚ where
  isFinite := Float.isFinite
  value := Doubles.value
  isFinite_div_hundred _ h := Doubles.isFinite_div h rfl

end Doubles
