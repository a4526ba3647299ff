import Colorimetry.Linear.Vec4
import Colorimetry.Wire

/-!
# Colorspaces

A colorspace is three primaries and a white point, each given by its CIE chromaticity. The
built-in ones are listed in `Colorspace.table`, in the order in which a name is looked up. sRGB
stands there beside BT.709, with the same primaries under its own name; on the wire it has no
value of its own.

The `y` of a chromaticity must not be zero, with one exception: the primaries (1, 0), (0, 1) and
(0, 0) stand for the axes of XYZ themselves (`Colorspace.isXyzPassthrough`).
-/

namespace Colorimetry

/-- A CIE chromaticity. -/
structure Chromaticity (α : Type) where
  /-- The share of `X`. -/
  x : α
  /-- The share of `Y`. -/
  y : α
  deriving BEq, Repr

/-- Primaries and white point of a set of RGB values. -/
structure Colorspace (α : Type) where
  /-- The name. -/
  name : String
  /-- The white point. -/
  whitepoint : Chromaticity α
  /-- The red primary. -/
  r : Chromaticity α
  /-- The green primary. -/
  g : Chromaticity α
  /-- The blue primary. -/
  b : Chromaticity α
  deriving Repr

section Points

variable {α : Type} [Arithmetic α]

namespace Chromaticity

/-- The XYZ coordinates of a chromaticity at a luminance. -/
def toXyz (c : Chromaticity α) (luminance : α) : Vec4 α :=
  let inv := 1 / c.y
  .point (luminance * c.x * inv) luminance (luminance * (1 - c.x - c.y) * inv)

/-- Daylight of about 6500 K. -/
def d65 : Chromaticity α := ⟨0.3127, 0.3290⟩

/-- Daylight of about 5000 K. -/
def d50 : Chromaticity α := ⟨0.3457, 0.3585⟩

/-- Average daylight, the white of the first colour television. -/
def illuminantC : Chromaticity α := ⟨0.310, 0.316⟩

/-- Equal energy. -/
def illuminantE : Chromaticity α := ⟨1 / 3.0, 1 / 3.0⟩

/-- The white of theatrical projection. -/
def dci : Chromaticity α := ⟨0.314, 0.351⟩

/-- The white of the ACES spaces, of about 6000 K. -/
def aces : Chromaticity α := ⟨0.32168, 0.33767⟩

end Chromaticity

namespace Colorspace

/-- The white point in XYZ, at a luminance of one. -/
def whiteXyz (cs : Colorspace α) : Vec4 α := cs.whitepoint.toXyz 1

/-- The primaries are the axes of XYZ, so that samples already are XYZ. -/
def isXyzPassthrough (cs : Colorspace α) : Bool :=
  cs.r == ⟨1, 0⟩ && cs.g == ⟨0, 1⟩ && cs.b == ⟨0, 0⟩

/-! ### The table -/

/-- ITU-R BT.470 System M. -/
def bt470m : Colorspace α :=
  ⟨"BT.470 M", .illuminantC, ⟨0.67, 0.33⟩, ⟨0.21, 0.71⟩, ⟨0.14, 0.08⟩⟩

/-- ITU-R BT.470 System B, G. -/
def bt470bg : Colorspace α :=
  ⟨"BT.470 B/G", .d65, ⟨0.64, 0.33⟩, ⟨0.29, 0.60⟩, ⟨0.15, 0.06⟩⟩

/-- SMPTE 170M, whose primaries are those of SMPTE 240M too. -/
def smpte170m : Colorspace α :=
  ⟨"SMPTE 170M", .d65, ⟨0.630, 0.340⟩, ⟨0.310, 0.595⟩, ⟨0.155, 0.070⟩⟩

/-- ITU-R BT.709. -/
def bt709 : Colorspace α :=
  ⟨"BT.709", .d65, ⟨0.64, 0.33⟩, ⟨0.30, 0.60⟩, ⟨0.15, 0.06⟩⟩

/-- sRGB, whose primaries are those of BT.709. -/
def srgb : Colorspace α := { bt709 with name := "sRGB" }

/-- ITU-R BT.2020. -/
def bt2020 : Colorspace α :=
  ⟨"BT.2020", .d65, ⟨0.708, 0.292⟩, ⟨0.170, 0.797⟩, ⟨0.131, 0.046⟩⟩

/-- Adobe RGB (1998). -/
def adobeRgb : Colorspace α :=
  ⟨"AdobeRGB", .d65, ⟨0.64, 0.33⟩, ⟨0.21, 0.71⟩, ⟨0.15, 0.06⟩⟩

/-- DCI-P3 with the DCI white. -/
def dciP3 : Colorspace α :=
  ⟨"DCI-P3", .dci, ⟨0.680, 0.320⟩, ⟨0.265, 0.690⟩, ⟨0.150, 0.060⟩⟩

/-- ProPhoto RGB. -/
def proPhotoRgb : Colorspace α :=
  ⟨"ProPhotoRGB", .d50, ⟨0.7347, 0.2653⟩, ⟨0.1596, 0.8404⟩, ⟨0.0366, 0.0001⟩⟩

/-- CIE 1931 RGB. -/
def cieRgb : Colorspace α :=
  ⟨"CIE RGB", .illuminantE, ⟨0.7347, 0.2653⟩, ⟨0.2738, 0.7174⟩, ⟨0.1666, 0.0089⟩⟩

/-- CIE 1931 XYZ. -/
def cieXyz : Colorspace α :=
  ⟨"CIE XYZ", .illuminantE, ⟨1, 0⟩, ⟨0, 1⟩, ⟨0, 0⟩⟩

/-- ACES primaries #0; the blue one lies outside the visible colours. -/
def acesAp0 : Colorspace α :=
  ⟨"ACES AP0", .aces, ⟨0.7347, 0.2653⟩, ⟨0, 1⟩, ⟨0.0001, -0.077⟩⟩

/-- ACES primaries #1. -/
def acesAp1 : Colorspace α :=
  ⟨"ACES AP1", .aces, ⟨0.713, 0.293⟩, ⟨0.165, 0.830⟩, ⟨0.128, 0.044⟩⟩

/-- Every built-in colorspace. -/
def table : List (Colorspace α) :=
  [bt470m, bt470bg, smpte170m, bt709, srgb, bt2020, adobeRgb, dciP3, proPhotoRgb, cieRgb, cieXyz,
    acesAp0, acesAp1]

/-- The built-in colorspace with a given name. -/
def find? (name : String) : Option (Colorspace α) := table.find? fun cs => cs.name == name

/-- The built-in colorspace with a given name, or the error that there is none. -/
def require (name : String) : Except LookupError (Colorspace α) :=
  match find? name with
  | some cs => .ok cs
  | none => .error (.unknownColorspace name)

/-- The colorspace of the chromaticities that a client has named. -/
def ofWire? (c : Wire.Chromaticities) : Option (Colorspace α) := c.name?.bind find?

end Colorspace

end Points

end Colorimetry
