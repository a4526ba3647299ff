import Colorimetry.Colorspace.Conversion
import Colorimetry.Command.Report.Layout
import Colorimetry.YCbCr

/-!
# Reports on matrices

The conversion between two colorspaces (`ConversionReport`) and the matrix of a YCbCr encoding
(`YcbcrReport`).
-/

namespace Colorimetry.Command

open Text Layout

/-- The conversion between two colorspaces. -/
structure ConversionReport where
  /-- The source. -/
  source : Colorspace Float32
  /-- The destination. -/
  destination : Colorspace Float32
  /-- The cone responses. -/
  cone : ConeResponse
  /-- The factor of the result. -/
  scale : Float32
  /-- The conversion. -/
  matrix : Mat4 Float32
  /-- A sample and what becomes of it. -/
  sample : Option (Rgb Float32 × Rgb Float32)

namespace ConversionReport

/-- The lines for a reader. -/
def lines (r : ConversionReport) : List String :=
  let title := r.source.name ++ " -> " ++ r.destination.name ++ " (" ++ r.cone.name ++
    ", scale " ++ Number.Style.plain.format r.scale ++ ")"
  titled title r.matrix ++
    match r.sample with
    | none => []
    | some sample => ["", mapping sample]

/-- The report for a program. -/
def json (r : ConversionReport) : Json := .object ([
  ("src", .string r.source.name),
  ("dst", .string r.destination.name),
  ("cone", .string r.cone.name),
  ("luminance_scale", .number r.scale),
  ("matrix", matrixJson r.matrix)] ++
  optionalField "sample" mappingJson r.sample)

end ConversionReport

/-- The matrix of a YCbCr encoding. -/
structure YcbcrReport where
  /-- The encoding. -/
  encoding : ColorEncoding Float32
  /-- Whether samples take every code value. -/
  fullRange : Bool
  /-- The factor from a stored sample to a code value. -/
  multiplier : Float32
  /-- Whether samples are decoded. -/
  inverse : Bool
  /-- The matrix. -/
  matrix : Mat4 Float32

namespace YcbcrReport

/-- What the matrix does. -/
def direction (r : YcbcrReport) : String := if r.inverse then "ycbcr_to_rgb" else "rgb_to_ycbcr"

/-- The lines for a reader. -/
def lines (r : YcbcrReport) : List String :=
  let weights := r.encoding.name ++ ": kr " ++ Number.fixed 4 r.encoding.kr ++ " kg " ++
    Number.fixed 4 r.encoding.kg ++ " kb " ++ Number.fixed 4 r.encoding.kb
  let title := r.direction ++ " (" ++ rangeName r.fullRange ++ " range, bpc_mul " ++
    Number.Style.plain.format r.multiplier ++ ")"
  weights :: titled title r.matrix

/-- The report for a program. -/
def json (r : YcbcrReport) : Json := .object [
  ("encoding", .string r.encoding.name),
  ("kr", .number r.encoding.kr),
  ("kg", .number r.encoding.kg),
  ("kb", .number r.encoding.kb),
  ("full_range", .bool r.fullRange),
  ("bpc_mul", .number r.multiplier),
  ("direction", .string r.direction),
  ("matrix", matrixJson r.matrix)]

end YcbcrReport

end Colorimetry.Command
