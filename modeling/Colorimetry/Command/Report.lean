import Colorimetry.Command.Console
import Colorimetry.Command.Report.Curve
import Colorimetry.Command.Report.Matrix
import Colorimetry.Command.Report.Surface
import Colorimetry.Command.Report.Tables

/-!
# Reports

What a query is answered with. A `Report` holds the answer itself, and `Report.write` writes it, as
JSON or for a reader. A reader gets it line by line, but shader functions as they stand.
-/

namespace Colorimetry.Command

/-- The answer to a query. -/
inductive Report where
  /-- A curve and some of its values. -/
  | curve (report : CurveReport)
  /-- One value of a curve. -/
  | value (report : ValueReport)
  /-- The conversion between two colorspaces. -/
  | conversion (report : ConversionReport)
  /-- The matrix of a YCbCr encoding. -/
  | ycbcr (report : YcbcrReport)
  /-- A surface on an output. -/
  | surface (report : SurfaceReport)
  /-- A shader function. -/
  | shader (function : Glsl.Function)
  /-- All shader functions. -/
  | shaderLibrary
  /-- The tables. -/
  | tables

namespace Report

/-- An answer for a program. -/
def json : Report → Text.Json
  | curve r => r.json
  | value r => r.json
  | conversion r => r.json
  | ycbcr r => r.json
  | surface r => r.json
  | shader f => shaderJson f
  | shaderLibrary => .array (Glsl.library.map shaderJson)
  | tables => Tables.json

/-- An answer is written for a reader. -/
def writeText : Report → Console Unit
  | curve r => Console.writeLines r.lines
  | value r => Console.writeLines r.lines
  | conversion r => Console.writeLines r.lines
  | ycbcr r => Console.writeLines r.lines
  | surface r => Console.writeLines r.lines
  | shader f => Console.write f.render
  | shaderLibrary => Console.write Glsl.libraryText
  | tables => Console.writeLines Tables.lines

/-- An answer is written in one of its forms. -/
def write (asJson : Bool) (r : Report) : Console Unit :=
  if asJson then Console.writeLine r.json.pretty else r.writeText

end Report

end Colorimetry.Command
