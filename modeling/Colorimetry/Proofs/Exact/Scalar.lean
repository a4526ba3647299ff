import Mathlib
import Colorimetry.Linear.Vec4

/-!
# Exact scalars

The second reading of every formula of this library: over a field whose equality is decided, the
operations of `Colorimetry.Arithmetic` are those of the field, decimal literals are the fractions
they are written as, and nothing is ever infinite or undefined. Over an ordered field the
comparisons of `Colorimetry.Scalar` are those of the order.

What holds here holds of the formula, before any rounding: which matrices compose, which are
inverse to each other, and for which data a matrix is singular. The functions of
`Colorimetry.Elementary` are those of the real numbers over the reals, and are left open over other
fields: a statement that names no laws of them is one about arbitrary functions.

The samples that a display shows are those of the unit cube (`unitCube`), of whatever scalars.
-/

namespace Colorimetry

/-- The arithmetic of a field. -/
instance (priority := low) exactArithmetic {K : Type} [Field K] [DecidableEq K] : Arithmetic K where
  isFinite _ := true

/-- The comparisons of an ordered field. -/
instance (priority := low) exactScalar {K : Type} [Field K] [LinearOrder K] : Scalar K where
  decideLT := inferInstance
  decideLE := inferInstance
  abs x := |x|

/-- Roots, powers, logarithms and exponentials of real numbers. -/
noncomputable instance : Elementary ℝ where
  sqrt := Real.sqrt
  pow x y := x ^ y
  log := Real.log
  exp := Real.exp

section Laws

variable {K : Type} [Field K] [DecidableEq K]

@[simp] theorem isFinite_exact (x : K) : Arithmetic.isFinite x = true := rfl

/-- Equality of exact scalars is equality. -/
@[simp] theorem beq_exact (x y : K) : (x == y) = decide (x = y) := rfl

end Laws

/-- Over an ordered field the greater of two values is their maximum. -/
theorem larger_eq_max {K : Type} [Field K] [LinearOrder K] (x y : K) : larger x y = max x y := by
  unfold larger
  by_cases h : x < y
  · rw [if_pos h, max_eq_right h.le]
  · rw [if_neg h, if_pos (by simp), max_eq_left (not_lt.mp h)]

/-! ### Samples in range -/

/-- The samples whose channels are between zero and one. -/
def unitCube (K : Type) [Zero K] [One K] [LE K] : Set (Rgb K) :=
  {v | (0 ≤ v.r ∧ v.r ≤ 1) ∧ (0 ≤ v.g ∧ v.g ≤ 1) ∧ (0 ≤ v.b ∧ v.b ≤ 1)}

/-- Black is in the unit cube, and so is every gray up to white. -/
theorem gray_mem_unitCube {K : Type} [Zero K] [One K] [LE K] {x : K} (hx : 0 ≤ x) (hx' : x ≤ 1) :
    Rgb.gray x ∈ unitCube K :=
  ⟨⟨hx, hx'⟩, ⟨hx, hx'⟩, ⟨hx, hx'⟩⟩

/-! ### Real functions -/

@[simp] theorem sqrt_real (x : ℝ) : Elementary.sqrt x = √x := rfl

@[simp] theorem pow_real (x y : ℝ) : Elementary.pow x y = x ^ y := rfl

@[simp] theorem log_real (x : ℝ) : Elementary.log x = Real.log x := rfl

@[simp] theorem exp_real (x : ℝ) : Elementary.exp x = Real.exp x := rfl

end Colorimetry
