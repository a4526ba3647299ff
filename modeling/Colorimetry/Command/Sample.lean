import Colorimetry.Command.Failure
import Colorimetry.Text.Blank

/-!
# Samples

A sample on the command line is three number literals with commas between them. Blanks around a
part are ignored, and the parts are read from left to right, so that the first part that is no
number is the one that is reported.
-/

namespace Colorimetry.Command

/-- A channel of a sample. -/
def readChannel (sample part : String) : Except Failure Float32 :=
  match Number.Literal.read part with
  | .ok literal => .ok literal.toFloat32
  | .error cause => .error (.samplePart part sample cause)

/-- A sample. -/
def readSample (sample : String) : Except Failure (Rgb Float32) :=
  match Text.commaSeparated sample with
  | [r, g, b] =>
    return ⟨← readChannel sample r, ← readChannel sample g, ← readChannel sample b⟩
  | _ => .error (.sampleArity sample)

/-- A sample, if one is given, and what a function makes of it. -/
def mapSample (f : Rgb Float32 → Except Failure (Rgb Float32)) :
    Option String → Except Failure (Option (Rgb Float32 × Rgb Float32))
  | none => .ok none
  | some s => do
    let v ← readSample s
    return some (v, ← f v)

end Colorimetry.Command
