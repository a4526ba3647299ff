/-!
# Scalars

The numbers that colours, chromaticities and matrix entries are made of. Everything in this
library that computes is written over an arbitrary scalar type and evaluated in the order in
which it is written, so that one definition can be read in two ways: at `Float32` it is what a
renderer computes, every operation rounded to a binary32 value, and at an exact field it is the
formula that the rounding approximates.

Three classes keep apart what a formula may use.

* `Arithmetic` – the field operations, decimal literals, a test for equality and one for
  finiteness. Matrices need no more.
* `Scalar` – an order and an absolute value besides. Piecewise curves and clamping need it.
* `Elementary` – roots, powers, logarithms and exponentials. Transfer curves need it. It stands
  apart from `Scalar` so that a statement about a curve can say which laws of these functions it
  rests on, and no others.
-/

namespace Colorimetry

/-- The operations that a matrix needs of its entries. Over an exact field every value is
finite; in binary32 a result may be infinite or not a number. -/
class Arithmetic (α : Type) extends
    Zero α, One α, Add α, Sub α, Mul α, Div α, Neg α, OfScientific α, BEq α where
  /-- Neither infinite nor undefined. -/
  isFinite : α → Bool

/-- Scalars that can be compared. -/
class Scalar (α : Type) extends Arithmetic α, LT α, LE α where
  /-- `x < y` is decided by the comparison itself. -/
  decideLT : (x y : α) → Decidable (x < y)
  /-- `x ≤ y` is decided by the comparison itself. -/
  decideLE : (x y : α) → Decidable (x ≤ y)
  /-- The value without its sign. -/
  abs : α → α

/-- The functions that transfer curves are made of. -/
class Elementary (α : Type) where
  /-- The square root. -/
  sqrt : α → α
  /-- `pow x y` is the power of base `x` and exponent `y`. -/
  pow : α → α → α
  /-- The natural logarithm. -/
  log : α → α
  /-- The exponential. -/
  exp : α → α

section Order

variable {α : Type} [Scalar α]

instance (priority := low) decidableLT (x y : α) : Decidable (x < y) := Scalar.decideLT x y

instance (priority := low) decidableLE (x y : α) : Decidable (x ≤ y) := Scalar.decideLE x y

/-- **The greater of two values, an undefined one left out**: of a value and a value that is not
equal to itself, the former is the greater. Over an exact field this is the maximum. -/
def larger (x y : α) : α := if x < y then y else if x == x then x else y

end Order

/-! ### Binary32 -/

instance : Arithmetic Float32 where
  isFinite := Float32.isFinite

instance : Scalar Float32 where
  decideLT x y := inferInstanceAs (Decidable (x < y))
  decideLE x y := inferInstanceAs (Decidable (x ≤ y))
  abs := Float32.abs

/-- The square root is the binary32 operation. The other functions are the binary64 ones, rounded
once to binary32: twenty-nine spare bits leave a doubly rounded result only where the exact value
lies within a hair of a tie. -/
instance : Elementary Float32 where
  sqrt := Float32.sqrt
  pow x y := (Float.pow x.toFloat y.toFloat).toFloat32
  log x := (Float.log x.toFloat).toFloat32
  exp x := (Float.exp x.toFloat).toFloat32

end Colorimetry
