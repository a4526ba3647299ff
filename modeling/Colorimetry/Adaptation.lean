import Colorimetry.Linear.Inverse

/-!
# Chromatic adaptation

The eye takes the white it sees for white. A colour measured under one white point is therefore
moved to another by scaling the responses of the three kinds of cones: `ConeResponse.toLms` is the
matrix from XYZ to these responses, `adaptationDiagonal` the gain of each cone, the ratio of its
responses to the two whites, and `adaptMatrix` the whole way from XYZ to XYZ.
-/

namespace Colorimetry

/-- A model of the cone responses. -/
inductive ConeResponse where
  /-- The sharpened responses of Bradford. -/
  | bradford
  /-- The responses of von Kries. -/
  | vonKries
  deriving DecidableEq, Repr, Inhabited

namespace ConeResponse

/-- Every model. -/
def all : List ConeResponse := [bradford, vonKries]

/-- The name of a model. -/
def name : ConeResponse → String
  | bradford => "bradford"
  | vonKries => "vonkries"

/-- The model with a given name. -/
def ofName? (name : String) : Option ConeResponse := all.find? fun cone => cone.name == name

section Matrices

variable {α : Type} [Arithmetic α]

/-- From XYZ to cone responses. -/
def toLms : ConeResponse → Mat4 α
  | bradford => .linear
      0.8951 0.2664 (-0.1614)
      (-0.7502) 1.7135 0.0367
      0.0389 (-0.0685) 1.0296
  | vonKries => .linear
      0.4002 0.7076 (-0.0808)
      (-0.2263) 1.1653 0.0457
      0 0 0.9182

/-- From cone responses to XYZ. -/
def toXyz (cone : ConeResponse) : Except (Singular α) (Mat4 α) :=
  cone.toLms.requireInverse cone.name

/-- The cone responses to a colour given in XYZ. -/
def lms (cone : ConeResponse) (xyz : Vec4 α) : Vec4 α := cone.toLms.transform xyz

end Matrices

end ConeResponse

section Adaptation

variable {α : Type} [Arithmetic α]

/-- The gain of each cone between two whites given in XYZ. -/
def adaptationDiagonal (cone : ConeResponse) (srcWhite dstWhite : Vec4 α) : Mat4 α :=
  let src := cone.lms srcWhite
  let dst := cone.lms dstWhite
  .diagonal (.point (dst.x / src.x) (dst.y / src.y) (dst.z / src.z))

/-- From XYZ under one white to XYZ under another. -/
def adaptMatrix (cone : ConeResponse) (srcWhite dstWhite : Vec4 α) :
    Except (Singular α) (Mat4 α) :=
  cone.toXyz.map fun back =>
    (cone.toLms.andThen (adaptationDiagonal cone srcWhite dstWhite)).andThen back

end Adaptation

end Colorimetry
