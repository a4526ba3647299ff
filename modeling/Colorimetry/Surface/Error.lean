import Colorimetry.Error
import Colorimetry.Linear.Inverse
import Colorimetry.Number.Style

/-!
# Why a surface cannot be shown

A surface is shown with a decoding matrix and a conversion. Either may be missing: the client
named a standard that does not exist, gave a multiplier that no decoder can divide by, or
described the surface in a text that is not a description; and a destination with degenerate
primaries has no conversion.
-/

namespace Colorimetry.Surface

/-- Why a surface cannot be shown. -/
inductive Error (α : Type) where
  /-- A name or a code stands for nothing. -/
  | lookup (cause : LookupError)
  /-- A description does not have the form of one. -/
  | malformed
  /-- A multiplier is not finite and positive. -/
  | invalidMultiplier (multiplier : α)
  /-- A matrix that had to be inverted is singular. -/
  | singular (cause : Singular α)
  deriving Repr

/-- Singular matrices as a failure of the surface. -/
def Error.ofSingular {α : Type} {β : Type} (r : Except (Singular α) β) : Except (Error α) β :=
  r.mapError .singular

/-- Unknown names as a failure of the surface. -/
def Error.ofLookup {α : Type} {β : Type} (r : Except LookupError β) : Except (Error α) β :=
  r.mapError .lookup

end Colorimetry.Surface

namespace Colorimetry

/-- A matrix as four lines of numbers with six places, in columns. -/
def Mat4.layout (m : Mat4 Float32) : List String :=
  m.rows.map fun row =>
    String.intercalate " " (row.toList.map (Number.fixedColumn 10 6))

/-- What a reader is told of a singular matrix: what it was built for, and the matrix. -/
def Singular.message (e : Singular Float32) : String :=
  e.name ++ " is singular:\n" ++ String.intercalate "\n" e.matrix.layout

/-- What is wrong with a text that is not a description. -/
def Surface.malformedDetail : String := "not a mapping of the fields of a surface"

/-- What a reader is told of a surface that cannot be shown. -/
def Surface.Error.message : Surface.Error Float32 → String
  | .lookup cause => cause.message
  | .malformed => "invalid surface description: " ++ malformedDetail
  | .invalidMultiplier k => "invalid bit depth multiplier: " ++ Number.Style.plain.format k
  | .singular cause => cause.message

end Colorimetry
