import Colorimetry.Wire

/-!
# Code points of video streams

A decoder reports the colorimetry of a stream by the code points of ITU-T H.273: colour
primaries, transfer characteristics, matrix coefficients and a flag for the full range. The wire
knows fewer standards than the recommendation does. Code points of one and the same colorimetry
share a value, and one that is reserved, unspecified or not supported falls back to what does the
least harm: undefined primaries, linear transfer, a BT.601 matrix.
-/

namespace Colorimetry

/-- The description of a decoded stream. -/
structure CodePoints where
  /-- Colour primaries, table 2 of the recommendation. -/
  primaries : Nat
  /-- Transfer characteristics, table 3. -/
  transfer : Nat
  /-- Matrix coefficients, table 4. -/
  matrix : Nat
  /-- The full-range flag. -/
  fullRange : Bool
  deriving DecidableEq, Repr

namespace CodePoints

/-- High definition video. -/
def bt709 : CodePoints := ⟨1, 1, 1, false⟩

/-- High dynamic range with the perceptual quantizer. -/
def bt2100Pq : CodePoints := ⟨9, 16, 9, false⟩

/-- High dynamic range with hybrid log-gamma. -/
def bt2100Hlg : CodePoints := ⟨9, 18, 9, false⟩

/-- The chromaticities of a stream. SMPTE 240M shares the primaries of SMPTE 170M, and both
P3 code points name the same primaries. -/
def chromaticities (s : CodePoints) : Wire.Chromaticities :=
  match s.primaries with
  | 1 => .bt709
  | 4 => .bt470m
  | 5 => .bt470bg
  | 6 | 7 => .smpte170m
  | 9 => .bt2020
  | 10 => .cieXyz
  | 11 | 12 => .dciP3
  | _ => .undefined

/-- The transfer function of a stream. The display gammas and the curves of BT.2020 are taken for
the curve of BT.709. -/
def transferFunction (s : CodePoints) : Wire.Transfer :=
  match s.transfer with
  | 1 | 4 | 5 | 6 | 14 | 15 => .bt709
  | 7 => .smpte240m
  | 16 => .st2084
  | 18 => .hlg
  | _ => .linear

/-- The YCbCr encoding of a stream. -/
def encoding (s : CodePoints) : Wire.Encoding :=
  match s.matrix with
  | 1 => .bt709
  | 5 | 6 => .bt601
  | 7 => .smpte240m
  | 9 | 10 => .bt2020
  | _ => .bt601

/-- The quantization range of a stream. -/
def quantization (s : CodePoints) : Wire.Quantization := .ofFull s.fullRange

end CodePoints

end Colorimetry
