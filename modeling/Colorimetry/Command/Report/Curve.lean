import Colorimetry.Command.Report.Layout
import Colorimetry.Transfer.Sampling

/-!
# Reports on curves

The coefficients of a curve with a table of its values (`CurveReport`), and a single value
(`ValueReport`).
-/

namespace Colorimetry.Command

open Text Layout

/-- A curve and some of its values. -/
structure CurveReport where
  /-- The transfer function. -/
  transfer : TransferFunction
  /-- The direction. -/
  direction : Transfer.Direction
  /-- Points and values. -/
  samples : List (Float32 × Float32)

namespace CurveReport

/-- The curve. -/
def curve (r : CurveReport) : Transfer.Curve Float32 := r.transfer.curve r.direction

/-- The coefficients of the direction. -/
def record (r : CurveReport) : Transfer.Record Float32 :=
  match r.direction with
  | .encode => r.transfer.record
  | .decode => r.transfer.record.decoding

/-- A row of the table. -/
def row (sample : Float32 × Float32) : String :=
  indent (Number.fixedColumn 10 6 sample.1 ++ "  " ++ Number.fixedColumn 12 8 sample.2)

/-- The table, if it has rows. -/
def table (r : CurveReport) : List String :=
  if r.samples.isEmpty then []
  else "" :: indent (alignRight 10 "in" ++ "  " ++ alignRight 12 "out") :: r.samples.map row

/-- The lines for a reader. -/
def lines (r : CurveReport) : List String :=
  [r.transfer.name ++ " (" ++ r.direction.label ++ ")",
    "  Kind:       " ++ r.curve.kind.label,
    "  Record:     " ++ r.record.describe,
    "  GLSL:       " ++ r.curve.shaderFunction] ++ r.table

/-- The report for a program. -/
def json (r : CurveReport) : Json := .object [
  ("name", .string r.transfer.name),
  ("direction", .string r.direction.label),
  ("kind", .string r.curve.kind.label),
  ("p", .number r.record.p),
  ("a", .number r.record.a),
  ("knee", .number r.record.knee),
  ("linear", .number r.record.linear),
  ("shader_function", .string r.curve.shaderFunction),
  ("samples", .array (r.samples.map fun (x, y) => .numbers [x, y]))]

end CurveReport

/-- One value of a curve. -/
structure ValueReport where
  /-- The transfer function. -/
  transfer : TransferFunction
  /-- The direction. -/
  direction : Transfer.Direction
  /-- The point. -/
  input : Float32
  /-- The value. -/
  output : Float32

namespace ValueReport

/-- The lines for a reader. -/
def lines (r : ValueReport) : List String := [Number.fixed 8 r.output]

/-- The report for a program. -/
def json (r : ValueReport) : Json := .object [
  ("name", .string r.transfer.name),
  ("direction", .string r.direction.label),
  ("input", .number r.input),
  ("output", .number r.output)]

end ValueReport

end Colorimetry.Command
