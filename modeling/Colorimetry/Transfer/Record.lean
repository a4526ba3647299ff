import Colorimetry.Scalar
import Colorimetry.Number.Style

/-!
# Piecewise curves

Every curve of standard dynamic range is a member of one family: a power law, with a straight
segment below a knee where the slope of the power would be too steep. A `Record` holds the
coefficients of one member for one direction:

| direction | below the knee | from the knee on |
|---|---|---|
| `Record.encode` | `l * linear` | `(1 + a) * l ^ p - a` |
| `Record.decode` | `v / linear` | `((v + a) / (1 + a)) ^ p` |

The table (`Record.table`) holds the encoding direction. `Record.decoding` derives the record of
the other one: the exponent is inverted, the offset and the slope are kept, and the knee moves
from the linear to the encoded axis.

The perceptual quantizer and hybrid log-gamma have no such coefficients. They stand in the table
with zeros, so that their names are known, and are evaluated in closed form; a name that is not
in the table is looked up as a record of zeros too, and `Record.isUnknown` tells the two apart.
-/

namespace Colorimetry.Transfer

/-- The coefficients of a piecewise curve for one direction. -/
structure Record (α : Type) where
  /-- The name of the curve. -/
  name : String
  /-- The exponent of the power segment. -/
  p : α
  /-- The offset of the power segment. -/
  a : α
  /-- Where the power segment begins. -/
  knee : α
  /-- The slope of the straight segment. -/
  linear : α
  deriving Repr

namespace Record

/-! ### The table -/

section Table

variable {α : Type} [Arithmetic α]

/-- A name without coefficients. -/
def zeroed (name : String) : Record α := ⟨name, 0, 0, 0, 0⟩

/-- ITU-R BT.709. -/
def bt709 : Record α := ⟨"BT.709", 0.45, 0.099, 0.018, 4.5⟩

/-- SMPTE 240M. -/
def smpte240m : Record α := ⟨"SMPTE 240M", 0.45, 0.1115, 0.0228, 4.0⟩

/-- IEC 61966-2-1 sRGB. -/
def srgb : Record α := ⟨"sRGB", 1 / 2.4, 0.055, 0.04045 / 12.92, 12.92⟩

/-- Adobe RGB (1998), a pure power of 563/256. -/
def adobeRgb : Record α := ⟨"AdobeRGB", 1 / 2.19921875, 0, 0, 1⟩

/-- DCI-P3, a pure power of 2.6. -/
def dciP3 : Record α := ⟨"DCI-P3", 1 / 2.6, 0, 0, 1⟩

/-- ProPhoto RGB. -/
def proPhotoRgb : Record α := ⟨"ProPhotoRGB", 1 / 1.8, 0, 0.001953, 16.0⟩

/-- SMPTE ST 2084, evaluated in closed form. -/
def st2084 : Record α := zeroed "ST2084"

/-- No encoding at all. -/
def identity : Record α := ⟨"Linear", 1, 0, 0, 1⟩

/-- Hybrid log-gamma, evaluated in closed form. -/
def hlg : Record α := zeroed "HLG"

/-- The encoding records, in the order in which they are listed. -/
def table : List (Record α) :=
  [bt709, smpte240m, srgb, adobeRgb, dciP3, proPhotoRgb, st2084, identity, hlg]

/-- The encoding record of a name. -/
def find? (name : String) : Option (Record α) := table.find? fun c => c.name == name

/-- Every coefficient is zero. -/
def isZero (c : Record α) : Bool := c.p == 0 && c.a == 0 && c.knee == 0 && c.linear == 0

/-- A record of zeros under a name that the table does not have. -/
def isUnknown (c : Record α) : Bool := c.isZero && (find? c.name : Option (Record α)).isNone

/-- The record of the opposite direction. A record of zeros stays one, rather than dividing by
zero. -/
def decoding (c : Record α) : Record α :=
  if c.isZero then c else { c with p := 1 / c.p, knee := c.knee * c.linear }

/-- The encoding record of a name, or zeros under that name. -/
def lookupEncoding (name : String) : Record α := (find? name).getD (zeroed name)

/-- The decoding record of a name, or zeros under that name. -/
def lookupDecoding (name : String) : Record α :=
  match find? name with
  | some c => c.decoding
  | none => zeroed name

end Table

/-! ### Evaluation -/

section Evaluation

variable {α : Type} [Scalar α] [Elementary α]

/-- Linear light encoded with an encoding record. Only the segment that applies is evaluated. -/
def encode (c : Record α) (l : α) : α :=
  if l < c.knee then l * c.linear else (1 + c.a) * Elementary.pow l c.p - c.a

/-- An encoded value decoded with a decoding record. Only the segment that applies is evaluated.
-/
def decode (c : Record α) (v : α) : α :=
  if v < c.knee then v / c.linear else Elementary.pow ((v + c.a) / (1 + c.a)) c.p

end Evaluation

/-- A record as a line of a table: the name and the coefficients with six places. -/
def describe (c : Record Float32) : String :=
  c.name ++ " " ++ Number.fixed 6 c.p ++ " " ++ Number.fixed 6 c.a ++ " " ++
    Number.fixed 6 c.knee ++ " " ++ Number.fixed 6 c.linear

end Record

end Colorimetry.Transfer
