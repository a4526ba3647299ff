import Mathlib
import Colorimetry.Proofs.Binary32.NotANumber
import Colorimetry.Transfer.Curve

/-!
# Curves keep the undefined value

No curve makes a number of the undefined value. A comparison with the joint of two segments fails,
so the segment from the joint on is evaluated, and each formula passes the value on in its own way:

| formula | how the undefined value gets through |
| --- | --- |
| a power law | as the base of a power |
| the perceptual quantizer, encoding | as the base of both powers |
| the perceptual quantizer, decoding | by the denominator alone |
| hybrid log-gamma, encoding | under the logarithm |
| hybrid log-gamma, decoding | under the exponential |

The decoding of the perceptual quantizer is the one that could have gone wrong: its numerator is cut
off at zero, which makes zero of the undefined value (`Pq.numerator_of_isNaN`).

Arithmetic is that of binary32. Powers, logarithms and exponentials come from the platform and have
no definition to look into, so they are left open and enter with one law each (`KeepsUndefined`).
That of powers holds for exponents other than zero, and no curve has the exponent zero
(`TransferFunction.hasPower_curve`). Of the square root nothing is asked: it stands below the joint
of hybrid log-gamma, where the undefined value is not.
-/

namespace Colorimetry

open Binary32

/-- **Elementary functions that make no number of the undefined value.** A power with the exponent
zero is one whatever the base is, and is left out. -/
structure KeepsUndefined (e : Elementary Float32) : Prop where
  pow {x p : Float32} : x.isNaN = true → (p == 0) = false → (e.pow x p).isNaN = true
  log {x : Float32} : x.isNaN = true → (e.log x).isNaN = true
  exp {x : Float32} : x.isNaN = true → (e.exp x).isNaN = true

namespace Transfer

variable [e : Elementary Float32] {x : Float32}

/-! ### Formulas -/

namespace Record

variable {c : Record Float32}

theorem isNaN_encode (he : KeepsUndefined e) (hp : (c.p == 0) = false) (hx : x.isNaN = true) :
    (c.encode x).isNaN = true := by
  rw [encode, if_neg (not_lt_of_isNaN_left hx _)]
  exact isNaN_sub_left (isNaN_mul_right _ (he.pow hx hp)) _

theorem isNaN_decode (he : KeepsUndefined e) (hp : (c.p == 0) = false) (hx : x.isNaN = true) :
    (c.decode x).isNaN = true := by
  rw [decode, if_neg (not_lt_of_isNaN_left hx _)]
  exact he.pow (isNaN_div_left (isNaN_add_left hx _) _) hp

end Record

namespace Pq

theorem isNaN_encode (he : KeepsUndefined e) (hx : x.isNaN = true) : (encode x).isNaN = true := by
  have hm1 : ((m1 : Float32) == 0) = false := by decide +kernel
  have hm2 : ((m2 : Float32) == 0) = false := by decide +kernel
  have hn : (Elementary.pow x m1).isNaN = true := he.pow hx hm1
  have hnumerator : (c1 + c2 * Elementary.pow x m1).isNaN = true :=
    isNaN_add_right _ (isNaN_mul_right _ hn)
  exact he.pow (isNaN_div_left hnumerator _) hm2

omit e in
/-- The cut at zero makes zero of the undefined value. -/
theorem numerator_of_isNaN (hx : x.isNaN = true) : larger (x - c1) 0 = 0 :=
  larger_of_isNaN_left (isNaN_sub_left hx _) 0

theorem isNaN_decode (he : KeepsUndefined e) (hx : x.isNaN = true) : (decode x).isNaN = true := by
  have hm1 : ((1 / m1 : Float32) == 0) = false := by decide +kernel
  have hm2 : ((1 / m2 : Float32) == 0) = false := by decide +kernel
  have hn : (Elementary.pow x (1 / m2)).isNaN = true := he.pow hx hm2
  have hdenominator : (c2 - c3 * Elementary.pow x (1 / m2)).isNaN = true :=
    isNaN_sub_right _ (isNaN_mul_right _ hn)
  exact he.pow (isNaN_div_right _ hdenominator) hm1

end Pq

namespace Hlg

theorem isNaN_encode (he : KeepsUndefined e) (hx : x.isNaN = true) : (encode x).isNaN = true := by
  rw [encode, if_neg (not_lt_of_isNaN_left hx _)]
  have hlog : (Elementary.log (12.0 * x - b)).isNaN = true :=
    he.log (isNaN_sub_left (isNaN_mul_right _ hx) _)
  exact isNaN_add_left (isNaN_mul_right _ hlog) _

theorem isNaN_decode (he : KeepsUndefined e) (hx : x.isNaN = true) : (decode x).isNaN = true := by
  rw [decode, if_neg (not_lt_of_isNaN_left hx _)]
  have hexp : (Elementary.exp ((x - c) / a)).isNaN = true :=
    he.exp (isNaN_div_left (isNaN_sub_left hx _) _)
  exact isNaN_div_left (isNaN_add_left hexp _) _

end Hlg

/-! ### Curves -/

/-- A power law has an exponent other than zero. -/
def Kind.hasPower : Kind Float32 → Bool
  | .piecewise record => !(record.p == 0)
  | .pq => true
  | .hlg => true

/-- A curve whose exponent is not zero keeps the undefined value. -/
theorem Curve.isNaN_apply (he : KeepsUndefined e) {c : Curve Float32}
    (hc : c.kind.hasPower = true) (hx : x.isNaN = true) : (c.apply x).isNaN = true := by
  obtain ⟨direction, kind⟩ := c
  cases kind with
  | piecewise record =>
    have hp : (record.p == 0) = false := Bool.not_eq_true' _ ▸ hc
    cases direction with
    | encode => exact Record.isNaN_encode he hp hx
    | decode => exact Record.isNaN_decode he hp hx
  | pq =>
    cases direction with
    | encode => exact Pq.isNaN_encode he hx
    | decode => exact Pq.isNaN_decode he hx
  | hlg =>
    cases direction with
    | encode => exact Hlg.isNaN_encode he hx
    | decode => exact Hlg.isNaN_decode he hx

end Transfer

open Transfer

/-- **No curve of the table has the exponent zero**, in neither direction. -/
theorem TransferFunction.hasPower_curve (tf : TransferFunction) (direction : Direction) :
    (tf.curve direction : Curve Float32).kind.hasPower = true := by
  cases tf <;> cases direction <;> decide +kernel

/-- The curve of a name is one of the table. -/
theorem Transfer.Curve.exists_of_ofName {α : Type} [Arithmetic α] {name : String}
    {direction : Direction} {c : Curve α} (h : Curve.ofName name direction = .ok c) :
    ∃ tf : TransferFunction, c = tf.curve direction := by
  cases htf : TransferFunction.ofName name with
  | error cause =>
    rw [ofName, htf] at h
    cases h
  | ok tf =>
    rw [ofName, htf] at h
    cases h
    exact ⟨tf, rfl⟩

end Colorimetry
