import Mathlib
import Colorimetry.Proofs.Binary32.Operations
import Colorimetry.Scalar

/-!
# Arithmetic in units

`Units` is binary32 arithmetic without floats: an integer that counts multiples of `2 ^ -149`, or
nothing for a value that is not finite, with every result rounded by `nearest` and refused by `fit`
beyond the greatest finite value. `units` takes a float to its units. It respects addition,
subtraction, multiplication, negation, zero and one without any condition, and division by a finite
value (`units_div`), so a formula may be evaluated in units, where evaluation is a matter of
integers, and what comes out is true of floats. Finite floats compare as their units do.

What is forgotten are the signs of zeros, and which of the non-finite values a result is. In
particular a non-finite operand of `+`, `-` or `*` makes the result non-finite whatever the other
one is (`propagates`), which is how an overflow anywhere in a matrix shows in its determinant.
-/

namespace Colorimetry

/-- **Arithmetic in which nothing becomes finite again**: what is finite comes from finite operands.
Quotients are left out, since a finite value divided by an infinite one is zero. -/
structure Arithmetic.Propagates (α : Type) [Arithmetic α] : Prop where
  neg {x : α} : isFinite (-x) = true → isFinite x = true
  add {x y : α} : isFinite (x + y) = true → isFinite x = true ∧ isFinite y = true
  sub {x y : α} : isFinite (x - y) = true → isFinite x = true ∧ isFinite y = true
  mul {x y : α} : isFinite (x * y) = true → isFinite x = true ∧ isFinite y = true

namespace Binary32

open Float.Model (Format UnpackedFloat)

/-- A finite binary32 value in multiples of `2 ^ -149`, or nothing. -/
def Units : Type := Option ℤ
  deriving DecidableEq

namespace Units

/-- A multiple of `2 ^ -149`. -/
def ofNat (n : ℕ) : Units := some (n : ℤ)

/-- A rounded integer, unless it is beyond the finite values. -/
def ofResult (x : Option ℤ) : Units := x.bind fit

/-- A decimal literal. -/
def ofDecimal (m : ℕ) (fraction : Bool) (e : ℕ) : Units :=
  if fraction then fit (nearest (m * 2 ^ 149) (10 ^ e)) else fit (nearest (m * 10 ^ e * 2 ^ 149) 1)

instance : Arithmetic Units where
  zero := some 0
  one := some (2 ^ 149)
  add x y := ofResult (lift (fun a b => nearestInt (a + b) 1) x y)
  sub x y := ofResult (lift (fun a b => nearestInt (a - b) 1) x y)
  mul x y := ofResult (lift (fun a b => nearestInt (a * b) (2 ^ 149)) x y)
  div x y := y.bind fun b => ofResult (x.bind (quotient · b))
  neg x := x.map (-·)
  ofScientific := ofDecimal
  beq x y := x.any fun a => y.any (a == ·)
  isFinite := Option.isSome

end Units

/-! ### Floats in units -/

/-- The units of a float. -/
def units (x : Float32) : Units := unitsOf x.toModel.unpack

section Operations

variable {x y : Float32} {a b : ℤ}

theorem canonical_toModel (x : Float32) : Canonical x.toModel.unpack :=
  (canonical_unpack _).1

/-- The units of a packed result. -/
theorem units_pack {u : UnpackedFloat} (h : Canonical u) :
    units (.ofModel (.pack u)) = Units.ofResult (unitsOf u) :=
  unitsOf_unpack_pack h

/-- The units of a float are below the limit. -/
theorem fit_of_units (h : units x = some a) : fit a = some a := by
  have hfit := unitsOf_overflow (canonical_toModel x)
  have hsame : overflow x.toModel.unpack = x.toModel.unpack := (canonical_unpack _).2
  have hx : unitsOf x.toModel.unpack = some a := h
  rw [hsame, hx] at hfit
  exact hfit.symm

/-- The units of a float have twenty-four digits. -/
theorem nearestInt_of_units (h : units x = some a) : nearestInt a 1 = a :=
  nearestInt_unitsOf (canonical_toModel x) h

theorem units_zero : units 0 = 0 := by decide +kernel

theorem units_one : units 1 = 1 := by decide +kernel

theorem units_neg (x : Float32) : units (-x) = -units x := by
  obtain ⟨hunits, hcan⟩ := neg_spec (canonical_toModel x)
  refine (units_pack hcan).trans ?_
  rw [hunits]
  change Units.ofResult ((units x : Option ℤ).map (-·)) = (units x : Option ℤ).map (-·)
  cases h : units x with
  | none => rfl
  | some a =>
    have hfit := fit_of_units h
    rw [fit, Option.ite_none_right_eq_some] at hfit
    exact if_pos (by rw [Int.natAbs_neg]; exact hfit.1)

theorem units_add (x y : Float32) : units (x + y) = units x + units y := by
  obtain ⟨hunits, hcan⟩ := add_spec (canonical_toModel x) (canonical_toModel y)
  refine (units_pack hcan).trans ?_
  rw [hunits]
  rfl

theorem units_sub (x y : Float32) : units (x - y) = units x - units y := by
  obtain ⟨hunits, hcan⟩ := sub_spec (canonical_toModel x) (canonical_toModel y)
  refine (units_pack hcan).trans ?_
  rw [hunits]
  rfl

theorem units_mul (x y : Float32) : units (x * y) = units x * units y := by
  obtain ⟨hunits, hcan⟩ := mul_spec (canonical_toModel x) (canonical_toModel y)
  refine (units_pack hcan).trans ?_
  rw [hunits]
  rfl

/-- Division by a finite value. -/
theorem units_div (x : Float32) {y : Float32} (h : units y ≠ none) :
    units (x / y) = units x / units y := by
  obtain ⟨b, hb⟩ := Option.ne_none_iff_exists'.mp h
  obtain ⟨hunits, hcan⟩ := div_spec (canonical_toModel x) (canonical_toModel y) hb
  refine (units_pack hcan).trans ?_
  rw [hunits, hb]
  rfl

/-- Every value but infinities and the undefined one has units. -/
theorem isFinite_eq_isSome (x : Float32) : x.isFinite = Option.isSome (units x) := by
  change x.toModel.unpack.isFinite = (unitsOf x.toModel.unpack).isSome
  cases x.toModel.unpack <;> rfl

end Operations

/-! ### Finite results -/

/-- A rounded result of two values is finite only if there are two values. -/
theorem Units.isFinite_of_lift {f : ℤ → ℤ → ℤ} {u v : Units}
    (h : Arithmetic.isFinite (ofResult (lift f u v)) = true) :
    Arithmetic.isFinite u = true ∧ Arithmetic.isFinite v = true := by
  cases u with
  | none => cases h
  | some a =>
    cases v with
    | none => cases h
    | some b => exact ⟨rfl, rfl⟩

theorem Units.propagates : Arithmetic.Propagates Units where
  neg {u} h := by
    cases u with
    | none => cases h
    | some a => rfl
  add h := isFinite_of_lift h
  sub h := isFinite_of_lift h
  mul h := isFinite_of_lift h

/-- **In binary32 nothing becomes finite again.** -/
theorem propagates : Arithmetic.Propagates Float32 := by
  have hunits (x : Float32) : Arithmetic.isFinite x = Arithmetic.isFinite (units x) :=
    isFinite_eq_isSome x
  refine ⟨fun {x} h => ?_, fun {x y} h => ?_, fun {x y} h => ?_, fun {x y} h => ?_⟩
  · rw [hunits, units_neg] at h
    rw [hunits]
    exact Units.propagates.neg h
  · rw [hunits, units_add] at h
    rw [hunits, hunits y]
    exact Units.propagates.add h
  · rw [hunits, units_sub] at h
    rw [hunits, hunits y]
    exact Units.propagates.sub h
  · rw [hunits, units_mul] at h
    rw [hunits, hunits y]
    exact Units.propagates.mul h

/-! ### Comparisons -/

section Comparisons

variable {x y : Float32} {a b : ℤ}

/-- Finite floats compare as their units. -/
theorem compare_units_eq (hx : units x = some a) (hy : units y = some b) :
    x.toModel.unpack.compare y.toModel.unpack = some (compare a b) :=
  compare_spec (canonical_toModel x) (canonical_toModel y) hx hy

theorem lt_iff_compare (x y : Float32) :
    x < y ↔ (x.toModel.unpack.compare y.toModel.unpack == some .lt) = true :=
  decide_eq_true_iff

theorem le_iff_compare (x y : Float32) :
    x ≤ y ↔ ((x.toModel.unpack.compare y.toModel.unpack).any (·.isLE)) = true :=
  decide_eq_true_iff

theorem lt_iff (hx : units x = some a) (hy : units y = some b) : x < y ↔ a < b := by
  rw [lt_iff_compare, compare_units_eq hx hy, ← compare_lt_iff_lt]
  simp

theorem le_iff (hx : units x = some a) (hy : units y = some b) : x ≤ y ↔ a ≤ b := by
  rw [le_iff_compare, compare_units_eq hx hy, ← compare_le_iff_le]
  simp [Ordering.isLE_iff_ne_gt]

theorem beq_iff (hx : units x = some a) (hy : units y = some b) : (x == y) = true ↔ a = b := by
  have hdef : (x == y) = (x.toModel.unpack.compare y.toModel.unpack == some .eq) := rfl
  rw [hdef, compare_units_eq hx hy, ← compare_eq_iff_eq]
  simp

/-- Between finite floats there are only finite ones. -/
theorem exists_units_of_le_of_lt {z : Float32} {c : ℤ} (hx : units x = some a)
    (hz : units z = some c) (hxy : x ≤ y) (hyz : y < z) : ∃ b : ℤ, units y = some b := by
  rw [le_iff_compare] at hxy
  rw [lt_iff_compare] at hyz
  have hx' : unitsOf x.toModel.unpack = some a := hx
  have hz' : unitsOf z.toModel.unpack = some c := hz
  change ∃ b : ℤ, unitsOf y.toModel.unpack = some b
  generalize x.toModel.unpack = u at hxy hx'
  generalize z.toModel.unpack = v at hyz hz'
  cases hy : y.toModel.unpack with
  | notANumber =>
    rw [hy] at hyz
    cases v <;> cases hyz
  | infinity s =>
    rw [hy] at hxy hyz
    cases s with
    | positive =>
      cases v with
      | notANumber | infinity => cases hz'
      | zero | finite => cases hyz
    | negative =>
      cases u with
      | notANumber | infinity => cases hx'
      | zero | finite => cases hxy
  | zero s => exact ⟨_, rfl⟩
  | finite s m e hm => exact ⟨_, rfl⟩

end Comparisons

end Binary32
end Colorimetry
