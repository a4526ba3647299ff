import Colorimetry.Colorspace
import Colorimetry.Adaptation

/-!
# Conversion between colorspaces

The conversion from one colorspace to another is one matrix, accumulated stage by stage:

    RGB of the source → XYZ → LMS → adapted LMS → XYZ → RGB of the destination → scale

`Colorspace.toXyzMatrix` solves for the luminances of the primaries that make equal amounts of
them the white point, and `Colorspace.ofXyzMatrix` is its inverse. Both fail (`Singular`) for
primaries on one line, and the inverse also for a white on a line through two primaries, which
leaves the third without light. `cscMatrix` composes the stages, with the Bradford responses
unless the caller chooses others (`cscMatrixWith`).
-/

namespace Colorimetry

variable {α : Type} [Arithmetic α]

namespace Colorspace

/-- The XYZ coordinates of the primaries as columns, each at the luminance of its own `y`. The
axes of XYZ are themselves. -/
def primariesMatrix (cs : Colorspace α) : Mat4 α :=
  if cs.isXyzPassthrough then .identity
  else .ofColumns (cs.r.toXyz cs.r.y) (cs.g.toXyz cs.g.y) (cs.b.toXyz cs.b.y)

/-- From linear RGB to XYZ: the primaries, each scaled so that equal amounts make the white point.
-/
def toXyzMatrix (cs : Colorspace α) : Except (Singular α) (Mat4 α) := do
  let primaries := cs.primariesMatrix
  let inverse ← primaries.requireInverse cs.name
  let amounts := inverse.transform cs.whiteXyz
  return (Mat4.diagonal amounts).andThen primaries

/-- From XYZ to linear RGB. -/
def ofXyzMatrix (cs : Colorspace α) : Except (Singular α) (Mat4 α) := do
  (← cs.toXyzMatrix).requireInverse cs.name

end Colorspace

/-- The gain of each cone between the whites of two colorspaces. -/
def catMatrix (dst src : Colorspace α) (cone : ConeResponse) : Mat4 α :=
  adaptationDiagonal cone src.whiteXyz dst.whiteXyz

/-- From linear RGB of one colorspace to linear RGB of another, the result scaled, with given cone
responses. -/
def cscMatrixWith (dst src : Colorspace α) (scale : α) (cone : ConeResponse) :
    Except (Singular α) (Mat4 α) := do
  let toXyz ← src.toXyzMatrix
  let toLms := toXyz.andThen cone.toLms
  let adapted := toLms.andThen (catMatrix dst src cone)
  let back := adapted.andThen (← cone.toXyz)
  let rgb := back.andThen (← dst.ofXyzMatrix)
  return rgb.andScale scale scale scale

/-- From linear RGB of one colorspace to linear RGB of another, the result scaled. -/
def cscMatrix (dst src : Colorspace α) (scale : α) : Except (Singular α) (Mat4 α) :=
  cscMatrixWith dst src scale .bradford

end Colorimetry
