import Colorimetry.Scalar

/-!
# The perceptual quantizer

SMPTE ST 2084 encodes luminance up to 10000 cd/m² in steps of about equal visibility. Linear
values are relative to that peak. The input is not clamped: below encoded black the difference
under the outer power is cut off at zero, and a negative value has no power.
-/

namespace Colorimetry.Transfer.Pq

variable {α : Type} [Scalar α] [Elementary α]

/-- The luminance, in cd/m², of a linear value of one. -/
def peak : α := 10000.0

/-- The exponent of linear light, 2610/16384. -/
def m1 : α := 0.1593017578125

/-- The exponent of the encoded value, 2523/32. -/
def m2 : α := 78.84375

/-- The constant of the numerator, `c3 - c2 + 1`. -/
def c1 : α := 0.8359375

/-- The factor of the numerator, 2413/128. -/
def c2 : α := 18.8515625

/-- The factor of the denominator, 2392/128. -/
def c3 : α := 18.6875

/-- An encoded value decoded to linear light. -/
def decode (v : α) : α :=
  let n := Elementary.pow v (1 / m2)
  Elementary.pow (larger (n - c1) 0 / (c2 - c3 * n)) (1 / m1)

/-- Linear light encoded. -/
def encode (l : α) : α :=
  let n := Elementary.pow l m1
  Elementary.pow ((c1 + c2 * n) / (1 + c3 * n)) m2

/-- An encoded value decoded to a luminance in cd/m². -/
def decodeNits (v : α) : α := decode v * peak

/-- A luminance in cd/m² encoded. -/
def encodeNits (nits : α) : α := encode (nits / peak)

end Colorimetry.Transfer.Pq
