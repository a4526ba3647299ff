import Colorimetry.Surface.Error
import Colorimetry.Text.Json
import Colorimetry.Wire

/-!
# Parts of reports

A report is written in two forms, as lines for a reader and as JSON for a program. The parts that
several reports share have their layout here: lists of numbers, matrices under a title, and a
sample with what becomes of it.
-/

namespace Colorimetry.Command.Layout

open Text

/-- Lines, each of them ended. -/
def unlines (lines : List String) : String := String.join (lines.map (· ++ "\n"))

/-- A line below a title. -/
def indent (line : String) : String := "  " ++ line

/-- Numbers with commas between them. -/
def commas (xs : List Float32) : String :=
  String.intercalate ", " (xs.map Number.Style.general.format)

/-- The channels of a sample in brackets. -/
def channels (v : Rgb Float32) : String := "[" ++ commas v.toList ++ "]"

/-- A sample and what becomes of it, below a title. -/
def mapping (sample : Rgb Float32 × Rgb Float32) : String :=
  indent (channels sample.1 ++ " -> " ++ channels sample.2)

/-- A matrix under a title. -/
def titled (title : String) (m : Mat4 Float32) : List String :=
  (title ++ ":") :: m.layout.map indent

/-- The rows of a matrix. -/
def matrixJson (m : Mat4 Float32) : Json :=
  .array (m.rows.map fun row => .numbers row.toList)

/-- A sample and what becomes of it. -/
def mappingJson (sample : Rgb Float32 × Rgb Float32) : Json :=
  .array [.numbers sample.1.toList, .numbers sample.2.toList]

/-- A field that is left out if there is nothing to say. -/
def optionalField {α : Type} (name : String) (toJson : α → Json) : Option α → List (String × Json)
  | none => []
  | some v => [(name, toJson v)]

/-- How a report calls a quantization range. -/
def rangeName (fullRange : Bool) : String := (Wire.Quantization.ofFull fullRange).label

end Colorimetry.Command.Layout
