import Colorimetry.Transfer.Curve

/-!
# Tables of a curve

A curve is shown by its values at evenly spaced points that span the unit interval. The points of
a table of `n` rows are the quotients `i / (n - 1)`, so a table of a single row spans nothing, and
one without rows divides by nothing. `evenlySpaced` is written over the conversion of a row number
to a scalar: in binary32 a row number above 2²⁴ is rounded before it is divided.
-/

namespace Colorimetry.Transfer

/-- The points `i / (n - 1)` for `i` from zero up to `n`. -/
def evenlySpaced {α : Type} [Div α] (ofCount : Nat → α) (n : Nat) : List α :=
  (List.range n).map fun i => ofCount i / ofCount (n - 1)

/-- The values of a curve at evenly spaced points, each with its point. -/
def Curve.tabulate {α : Type} [Scalar α] [Elementary α] (c : Curve α) (ofCount : Nat → α)
    (n : Nat) : List (α × α) :=
  (evenlySpaced ofCount n).map fun x => (x, c.apply x)

end Colorimetry.Transfer
