import Colorimetry.Linear.Mat4

/-!
# Determinant and inverse

The inverse of a matrix by cofactors, in the order in which a four-lane vector unit evaluates
them. A matrix is handed over by its columns `x`, `y`, `z`, `w`; `Mat4.minors` names the six
two-by-two minors that the determinant shares among its terms, and `Mat4.lanes` the four-lane
vectors of minors that the adjugate is made of.

`Mat4.inverse?` is the one entrance: it refuses a matrix whose determinant is zero or not finite,
and an inverse with an entry that is not finite. Uniformly small matrices pass, since only a
determinant of exactly zero counts as singular. `Mat4.requireInverse` names the matrix that
turned out to be singular (`Singular`), which with the tables built into this library can only
mean a degenerate choice of primaries.

The determinant is evaluated twice on the way, once for the check and once, by another expansion,
for the reciprocal by which the adjugate is multiplied (`Mat4.adjugateDeterminant`). Over an exact
field the two are the same number.
-/

namespace Colorimetry

namespace Mat4

variable {α : Type} [Arithmetic α]

/-- The cofactors of the first column: the determinant is this vector times that column. -/
def cofactors (m : Mat4 α) : Vec4 α :=
  let columns := m.transpose
  let y := columns.row1
  let z := columns.row2
  let w := columns.row3
  let zw := z.z * w.w - z.w * w.z
  let yw := z.y * w.w - z.w * w.y
  let yz := z.y * w.z - z.z * w.y
  let xw := z.x * w.w - z.w * w.x
  let xz := z.x * w.z - z.z * w.x
  let xy := z.x * w.y - z.y * w.x
  ⟨(y.y * zw - y.z * yw) + y.w * yz,
    -((y.x * zw - y.z * xw) + y.w * xz),
    (y.x * yw - y.y * xw) + y.w * xy,
    -((y.x * yz - y.y * xz) + y.z * xy)⟩

/-- The determinant. -/
def determinant (m : Mat4 α) : α := m.transpose.row0.dotByLanes m.cofactors

/-- Two-by-two minors of the last three columns in four lanes. The arguments are the components of
these columns in two rows; the first two lanes hold the same minor. -/
def lanes (yi yj zi zj wi wj : α) : Vec4 α :=
  let zw := zi * wj - wi * zj
  ⟨zw, zw, yi * wj - wi * yj, yi * zj - zi * yj⟩

/-- The rows of the adjugate, transposed: column `k` of the inverse is the `k`-th of these vectors
divided by the determinant. -/
def adjugateColumns (m : Mat4 α) : Mat4 α :=
  let columns := m.transpose
  let x := columns.row0
  let y := columns.row1
  let z := columns.row2
  let w := columns.row3
  let f01 := lanes y.x y.y z.x z.y w.x w.y
  let f02 := lanes y.x y.z z.x z.z w.x w.z
  let f03 := lanes y.x y.w z.x z.w w.x w.w
  let f12 := lanes y.y y.z z.y z.z w.y w.z
  let f13 := lanes y.y y.w z.y z.w w.y w.w
  let f23 := lanes y.z y.w z.z z.w w.z w.w
  let u0 : Vec4 α := ⟨y.x, x.x, x.x, x.x⟩
  let u1 : Vec4 α := ⟨y.y, x.y, x.y, x.y⟩
  let u2 : Vec4 α := ⟨y.z, x.z, x.z, x.z⟩
  let u3 : Vec4 α := ⟨y.w, x.w, x.w, x.w⟩
  let positive : Vec4 α := ⟨1, -1, 1, -1⟩
  let negative : Vec4 α := ⟨-1, 1, -1, 1⟩
  ⟨positive.times ((u1.times f23 - u2.times f13) + u3.times f12),
    negative.times ((u0.times f23 - u2.times f03) + u3.times f02),
    positive.times ((u0.times f13 - u1.times f03) + u3.times f01),
    negative.times ((u0.times f12 - u1.times f02) + u2.times f01)⟩

/-- The determinant once more, from the first column and the first row of the adjugate. -/
def adjugateDeterminant (m : Mat4 α) : α :=
  m.transpose.row0.dotByLanes m.adjugateColumns.transpose.row0

/-- The adjugate multiplied by the reciprocal of the determinant. -/
def scaledAdjugate (m : Mat4 α) : Mat4 α :=
  let r := 1 / m.adjugateDeterminant
  let columns := m.adjugateColumns
  transpose ⟨columns.row0.scale r, columns.row1.scale r, columns.row2.scale r,
    columns.row3.scale r⟩

/-- **The inverse, if there is one**: none for a determinant that is zero or not finite, and none
where the inverse itself overflows. -/
def inverse? (m : Mat4 α) : Option (Mat4 α) :=
  let det := m.determinant
  if det == 0 || !Arithmetic.isFinite det then none
  else
    let inv := m.scaledAdjugate
    if inv.isFinite then some inv else none

end Mat4

/-- A matrix that had to be invertible is not. -/
structure Singular (α : Type) where
  /-- What the matrix was built for. -/
  name : String
  /-- The matrix. -/
  matrix : Mat4 α
  deriving Repr

/-- The inverse of a matrix that is invertible unless the data it was built from is degenerate;
`name` says in the failure what it was built for. -/
def Mat4.requireInverse {α : Type} [Arithmetic α] (m : Mat4 α) (name : String) :
    Except (Singular α) (Mat4 α) :=
  match m.inverse? with
  | some inv => .ok inv
  | none => .error ⟨name, m⟩

end Colorimetry
