import Colorimetry.Colorspace
import Colorimetry.Command.Report.Layout
import Colorimetry.Glsl.Library
import Colorimetry.Transfer.Record
import Colorimetry.YCbCr

/-!
# Reports on what is built in

The tables of transfer functions, colorspaces and encodings, and the text of shader functions.
-/

namespace Colorimetry.Command

open Text Layout

/-! ### The tables -/

namespace Tables

/-- A chromaticity in parentheses. -/
def pair (c : Chromaticity Float32) : String := "(" ++ commas [c.x, c.y] ++ ")"

/-- The line of a colorspace. -/
def spaceLine (cs : Colorspace Float32) : String :=
  indent (alignLeft 12 cs.name ++ " white " ++ pair cs.whitepoint ++ "  r " ++ pair cs.r ++
    "  g " ++ pair cs.g ++ "  b " ++ pair cs.b)

/-- The line of an encoding. -/
def encodingLine (e : ColorEncoding Float32) : String :=
  indent (alignLeft 12 e.name ++ " kr " ++ Number.fixed 4 e.kr ++ "  kb " ++ Number.fixed 4 e.kb)

/-- The lines for a reader. -/
def lines : List String :=
  "Transfer functions:" :: Transfer.Record.table.map (fun c => indent c.describe) ++
    "" :: "Colorspaces:" :: Colorspace.table.map spaceLine ++
    "" :: "YCbCr encodings:" :: ColorEncoding.table.map encodingLine

/-- A chromaticity. -/
def pairJson (c : Chromaticity Float32) : Json := .numbers [c.x, c.y]

/-- The coefficients of a curve. -/
def recordJson (c : Transfer.Record Float32) : Json := .object [
  ("name", .string c.name),
  ("p", .number c.p),
  ("a", .number c.a),
  ("knee", .number c.knee),
  ("linear", .number c.linear)]

/-- Primaries and white point. -/
def spaceJson (cs : Colorspace Float32) : Json := .object [
  ("name", .string cs.name),
  ("whitepoint", pairJson cs.whitepoint),
  ("r", pairJson cs.r),
  ("g", pairJson cs.g),
  ("b", pairJson cs.b)]

/-- The weights of luma. -/
def encodingJson (e : ColorEncoding Float32) : Json := .object [
  ("name", .string e.name),
  ("kr", .number e.kr),
  ("kg", .number e.kg),
  ("kb", .number e.kb)]

/-- The tables for a program. -/
def json : Json := .object [
  ("transfer_functions", .array (Transfer.Record.table.map recordJson)),
  ("colorspaces", .array (Colorspace.table.map spaceJson)),
  ("encodings", .array (ColorEncoding.table.map encodingJson))]

end Tables

/-! ### Shader functions -/

/-- A shader function for a program. -/
def shaderJson (f : Glsl.Function) : Json := .object [
  ("name", .string f.name),
  ("source", .string f.render)]

end Colorimetry.Command
