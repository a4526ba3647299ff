import Colorimetry.Command.Report.Layout
import Colorimetry.Surface.Pipeline

/-!
# Reports on surfaces

What a renderer gets for a surface and an output: the decoding of stored samples, the conversion,
and what becomes of a sample.
-/

namespace Colorimetry.Command

open Text Layout

/-- A surface on an output. -/
structure SurfaceReport where
  /-- The file of the description. -/
  path : String
  /-- The surface. -/
  surface : Surface.Color
  /-- The factor from a stored sample to a code value. -/
  multiplier : Float32
  /-- The output. -/
  output : Surface.Output Float32
  /-- The matrix that decodes stored samples. -/
  decoding : Mat4 Float32
  /-- The conversion, unless the chromaticities are undefined. -/
  conversion : Option (Mat4 Float32)
  /-- A sample and what becomes of it. -/
  sample : Option (Rgb Float32 × Rgb Float32)

namespace SurfaceReport

/-- The shader function that decodes samples to linear light. -/
def shaderFunction (r : SurfaceReport) : String :=
  (r.surface.decodingCurve : Transfer.Curve Float32).shaderFunction

/-- The YCbCr encoding. -/
def encoding (r : SurfaceReport) : ColorEncoding Float32 := r.surface.colorEncoding

/-- The state of the surface. -/
def stateLines (r : SurfaceReport) : List String := [
  "  Chromaticities: " ++ r.surface.chromaticities.label,
  "  Transfer:       " ++ r.surface.transferFunction.name ++ " (GLSL " ++ r.shaderFunction ++ ")",
  "  Encoding:       " ++ r.encoding.name ++ " (" ++ r.surface.quantization.label ++
    " range, bpc_mul " ++ Number.Style.plain.format r.multiplier ++ ")"]

/-- The conversion. -/
def conversionLines (r : SurfaceReport) : List String :=
  let title := "CSC to " ++ r.output.colorspace.name
  match r.conversion with
  | some m => titled title m
  | none => [title ++ ": none (undefined chromaticities)"]

/-- The sample. -/
def sampleLines (r : SurfaceReport) : List String :=
  match r.sample with
  | none => []
  | some sample =>
    ["", "Pipeline to " ++ r.output.colorspace.name ++ " " ++ r.output.transfer.name ++ ":",
      mapping sample]

/-- The lines for a reader. -/
def lines (r : SurfaceReport) : List String :=
  r.path :: r.stateLines ++ "" :: titled "YCbCr to RGB" r.decoding ++
    "" :: r.conversionLines ++ r.sampleLines

/-- The report for a program. -/
def json (r : SurfaceReport) : Json := .object ([
  ("chromaticities", .string r.surface.chromaticities.label),
  ("transfer", .string r.surface.transferFunction.name),
  ("encoding", .string r.encoding.name),
  ("full_range", .bool r.surface.isFullRange),
  ("bpc_mul", .number r.multiplier),
  ("degamma", .string r.shaderFunction),
  ("ycbcr_to_rgb", matrixJson r.decoding),
  ("dst", .string r.output.colorspace.name),
  ("dst_transfer", .string r.output.transfer.name),
  ("csc", (r.conversion.map matrixJson).getD .null)] ++
  optionalField "sample" mappingJson r.sample)

end SurfaceReport

end Colorimetry.Command
