import Colorimetry.Linear.Vec4

/-!
# Affine colour matrices

`Mat4` holds the conversions between colour representations: RGB to XYZ, adaptation to a white
point, YCbCr encoding, and their compositions. A matrix is its four rows and acts on column
vectors, so that `a * b` applies `b` first. The fourth column carries the offsets of an affine
map; the last row of every matrix built here from linear parts, offsets and products of these is
`(0, 0, 0, 1)`.

The builders `Mat4.andThen`, `Mat4.andScale` and `Mat4.andOffset` append a step to a
transform: `m.andThen n` applies `m` and then `n`, so a chain of them reads in the order in which
its steps run. That order is the opposite of the order of factors in the product, and every
matrix of this library is built in it.
-/

namespace Colorimetry

/-- A matrix of four rows. -/
@[ext]
structure Mat4 (α : Type) where
  /-- The row that yields the first component. -/
  row0 : Vec4 α
  /-- The row that yields the second component. -/
  row1 : Vec4 α
  /-- The row that yields the third component. -/
  row2 : Vec4 α
  /-- The row that yields the homogeneous coordinate. -/
  row3 : Vec4 α
  deriving BEq, Repr, Inhabited

namespace Mat4

/-! ### Entries -/

section Entries

variable {α : Type}

/-- The rows in order. -/
def rows (m : Mat4 α) : List (Vec4 α) := [m.row0, m.row1, m.row2, m.row3]

/-- The entries, row by row. -/
def entries (m : Mat4 α) : List α := m.rows.flatMap Vec4.toList

/-- The row with a given number, if there is one. -/
def row? (m : Mat4 α) : Nat → Option (Vec4 α)
  | 0 => some m.row0
  | 1 => some m.row1
  | 2 => some m.row2
  | 3 => some m.row3
  | _ => none

/-- Rows and columns exchanged. -/
def transpose (m : Mat4 α) : Mat4 α where
  row0 := ⟨m.row0.x, m.row1.x, m.row2.x, m.row3.x⟩
  row1 := ⟨m.row0.y, m.row1.y, m.row2.y, m.row3.y⟩
  row2 := ⟨m.row0.z, m.row1.z, m.row2.z, m.row3.z⟩
  row3 := ⟨m.row0.w, m.row1.w, m.row2.w, m.row3.w⟩

/-- The column with a given number, if there is one. -/
def col? (m : Mat4 α) (i : Nat) : Option (Vec4 α) := m.transpose.row? i

/-- The entries column by column, as a graphics interface takes them. -/
def columnEntries (m : Mat4 α) : List α := m.transpose.entries

end Entries

/-! ### Building matrices -/

section Building

variable {α : Type} [Arithmetic α]

instance : Zero (Mat4 α) := ⟨⟨0, 0, 0, 0⟩⟩

/-- A linear map of three components, given row by row. -/
def linear (a b c d e f g h i : α) : Mat4 α where
  row0 := ⟨a, b, c, 0⟩
  row1 := ⟨d, e, f, 0⟩
  row2 := ⟨g, h, i, 0⟩
  row3 := ⟨0, 0, 0, 1⟩

/-- The linear map that sends the three unit vectors to the given ones, their homogeneous
coordinates left out. -/
def ofColumns (c0 c1 c2 : Vec4 α) : Mat4 α :=
  linear
    c0.x c1.x c2.x
    c0.y c1.y c2.y
    c0.z c1.z c2.z

/-- A factor for each of the three axes. -/
def scaling (sx sy sz : α) : Mat4 α where
  row0 := ⟨sx, 0, 0, 0⟩
  row1 := ⟨0, sy, 0, 0⟩
  row2 := ⟨0, 0, sz, 0⟩
  row3 := ⟨0, 0, 0, 1⟩

/-- The first three components of a vector as factors of the three axes. -/
def diagonal (v : Vec4 α) : Mat4 α := scaling v.x v.y v.z

/-- The map that changes nothing. -/
def identity : Mat4 α := scaling 1 1 1

/-- An offset for each of the three axes. -/
def offset (tx ty tz : α) : Mat4 α where
  row0 := ⟨1, 0, 0, tx⟩
  row1 := ⟨0, 1, 0, ty⟩
  row2 := ⟨0, 0, 1, tz⟩
  row3 := ⟨0, 0, 0, 1⟩

end Building

/-! ### Acting and composing -/

section Acting

variable {α : Type} [Arithmetic α]

/-- The image of a vector. -/
def transform (m : Mat4 α) (v : Vec4 α) : Vec4 α :=
  ⟨m.row0.dot v, m.row1.dot v, m.row2.dot v, m.row3.dot v⟩

/-- The image of a sample, taken as a point. -/
def convertRgb (m : Mat4 α) (v : Rgb α) : Rgb α := (m.transform (Vec4.ofRgb v)).xyz

/-- A row vector times a matrix that is given by its columns. -/
def rowTimes (v : Vec4 α) (columns : Mat4 α) : Vec4 α :=
  ⟨v.dotFromZero columns.row0, v.dotFromZero columns.row1,
    v.dotFromZero columns.row2, v.dotFromZero columns.row3⟩

/-- The product: first the right factor acts and then the left one. -/
def mul (m n : Mat4 α) : Mat4 α where
  row0 := rowTimes m.row0 n.transpose
  row1 := rowTimes m.row1 n.transpose
  row2 := rowTimes m.row2 n.transpose
  row3 := rowTimes m.row3 n.transpose

instance : Mul (Mat4 α) := ⟨mul⟩

/-- A transform followed by another. -/
def andThen (m n : Mat4 α) : Mat4 α := n * m

/-- A transform followed by a factor for each axis. -/
def andScale (m : Mat4 α) (sx sy sz : α) : Mat4 α := m.andThen (scaling sx sy sz)

/-- A transform followed by an offset for each axis. -/
def andOffset (m : Mat4 α) (tx ty tz : α) : Mat4 α := m.andThen (offset tx ty tz)

/-- No entry is infinite or undefined. -/
def isFinite (m : Mat4 α) : Bool := m.entries.all Arithmetic.isFinite

end Acting

/-- Every entry differs from the corresponding one by at most `eps`. -/
def absDiffEq {α : Type} [Scalar α] (m n : Mat4 α) (eps : α) : Bool :=
  (m.entries.zip n.entries).all fun (a, b) => decide (Scalar.abs (a - b) ≤ eps)

end Mat4

end Colorimetry
