import Colorimetry.Scalar

/-!
# Hybrid log-gamma

The curve of ITU-R BT.2100 that a display of standard range can show too: a square root in the
shadows and a logarithm in the highlights, joined where linear light is a twelfth and the signal
a half. The input is not clamped, and the logarithm applies from the joint on.
-/

namespace Colorimetry.Transfer.Hlg

variable {α : Type} [Scalar α] [Elementary α]

/-- The factor of the logarithm. -/
def a : α := 0.17883277

/-- The offset under the logarithm. -/
def b : α := 1 - 4.0 * a

/-- The offset of the logarithmic segment, which makes the segments meet. -/
def c : α := 0.5 - a * Elementary.log (4.0 * a)

/-- Linear light encoded. -/
def encode (l : α) : α :=
  if l < 1 / 12.0 then Elementary.sqrt (3.0 * l)
  else a * Elementary.log (12.0 * l - b) + c

/-- A signal decoded to linear light. -/
def decode (v : α) : α :=
  if v < 0.5 then v * v / 3.0
  else (Elementary.exp ((v - c) / a) + b) / 12.0

end Colorimetry.Transfer.Hlg
