import Mathlib
import Colorimetry.Proofs.Binary32.Units

/-!
# The undefined value

Binary32 has a value that is not a number. Arithmetic never gets rid of it: where an operand is
undefined, so is the result, on whichever side the operand stands. A comparison with it fails,
and from there on it is a matter of how a formula is written what becomes of it. `larger` leaves it
out, so that it makes a number of it; `clampTo` keeps it, as both of its tests fail.

All this is read off the model of floats, in which the operations are tables with a row and a
column for the undefined value.
-/

namespace Colorimetry.Binary32

open Float.Model (UnpackedFloat)

section Undefined

variable {x y : Float32}

theorem isNaN_iff : x.isNaN = true ↔ x.toModel.unpack = .notANumber := by
  change x.toModel.unpack.isNaN = true ↔ _
  cases x.toModel.unpack <;> simp [UnpackedFloat.isNaN]

theorem isNaN_pack_notANumber : (Float32.ofModel (.pack .notANumber)).isNaN = true := by
  decide +kernel

/-! ### Arithmetic -/

/-- An operation whose table has a row for the undefined value keeps it on the left, -/
theorem isNaN_of_row {f : UnpackedFloat → UnpackedFloat → UnpackedFloat}
    (hf : ∀ v, f .notANumber v = .notANumber) (hx : x.isNaN = true) (y : Float32) :
    (Float32.ofModel (.pack (f x.toModel.unpack y.toModel.unpack))).isNaN = true := by
  rw [isNaN_iff.mp hx, hf]
  exact isNaN_pack_notANumber

/-- and one whose table has a column for it keeps it on the right. -/
theorem isNaN_of_column {f : UnpackedFloat → UnpackedFloat → UnpackedFloat}
    (hf : ∀ u, f u .notANumber = .notANumber) (x : Float32) (hy : y.isNaN = true) :
    (Float32.ofModel (.pack (f x.toModel.unpack y.toModel.unpack))).isNaN = true := by
  rw [isNaN_iff.mp hy, hf]
  exact isNaN_pack_notANumber

theorem isNaN_add_left (hx : x.isNaN = true) (y : Float32) : (x + y).isNaN = true :=
  isNaN_of_row (f := UnpackedFloat.add .binary32) (fun _ => rfl) hx y

theorem isNaN_add_right (x : Float32) (hy : y.isNaN = true) : (x + y).isNaN = true :=
  isNaN_of_column (f := UnpackedFloat.add .binary32) (fun u => by cases u <;> rfl) x hy

theorem isNaN_sub_left (hx : x.isNaN = true) (y : Float32) : (x - y).isNaN = true :=
  isNaN_of_row (f := UnpackedFloat.sub .binary32) (fun _ => rfl) hx y

theorem isNaN_sub_right (x : Float32) (hy : y.isNaN = true) : (x - y).isNaN = true :=
  isNaN_of_column (f := UnpackedFloat.sub .binary32) (fun u => by cases u <;> rfl) x hy

theorem isNaN_mul_left (hx : x.isNaN = true) (y : Float32) : (x * y).isNaN = true :=
  isNaN_of_row (f := UnpackedFloat.mul .binary32) (fun _ => rfl) hx y

theorem isNaN_mul_right (x : Float32) (hy : y.isNaN = true) : (x * y).isNaN = true :=
  isNaN_of_column (f := UnpackedFloat.mul .binary32) (fun u => by cases u <;> rfl) x hy

theorem isNaN_div_left (hx : x.isNaN = true) (y : Float32) : (x / y).isNaN = true :=
  isNaN_of_row (f := UnpackedFloat.div .binary32) (fun _ => rfl) hx y

theorem isNaN_div_right (x : Float32) (hy : y.isNaN = true) : (x / y).isNaN = true :=
  isNaN_of_column (f := UnpackedFloat.div .binary32) (fun u => by cases u <;> rfl) x hy

/-! ### Comparisons -/

/-- The undefined value is below nothing, -/
theorem not_lt_of_isNaN_left (hx : x.isNaN = true) (y : Float32) : ¬ x < y := by
  rw [lt_iff_compare, isNaN_iff.mp hx]
  exact Bool.false_ne_true

/-- and nothing is below it. -/
theorem not_lt_of_isNaN_right (x : Float32) (hy : y.isNaN = true) : ¬ x < y := by
  rw [lt_iff_compare, isNaN_iff.mp hy]
  cases x.toModel.unpack <;> exact Bool.false_ne_true

/-- It is not even equal to itself. -/
theorem beq_self_of_isNaN (hx : x.isNaN = true) : (x == x) = false := by
  have hdef : (x == x) = (x.toModel.unpack.compare x.toModel.unpack == some .eq) := rfl
  rw [hdef, isNaN_iff.mp hx]
  rfl

/-- **The greater of the undefined value and another one is the other one.** -/
theorem larger_of_isNaN_left (hx : x.isNaN = true) (y : Float32) : larger x y = y := by
  rw [larger, if_neg (not_lt_of_isNaN_left hx y), beq_self_of_isNaN hx]
  rfl

end Undefined

end Colorimetry.Binary32
