import Colorimetry.Scalar

/-!
# Triplets and homogeneous vectors

`Rgb` is a sample: three channels, whatever they hold – linear light, an encoded signal, or luma
and two chroma differences. `Vec4` is what a matrix acts on: three components and a homogeneous
coordinate `w`, which is one for a point, so that the affine column of a matrix applies to it, and
zero for a direction.

A product of matrices and the image of a vector both sum four products, but not from the same
start: `Vec4.dot` begins with the first product and `Vec4.dotFromZero` with negative zero, the
one value whose addition changes nothing. Over an exact field the two are equal
(the zero is then the only one); in binary32 they differ in the sign of a zero sum, and the tables
that this library prints show that sign.
-/

namespace Colorimetry

/-- A sample of three channels. -/
@[ext]
structure Rgb (α : Type) where
  /-- Red, luma or the first channel. -/
  r : α
  /-- Green, the blue difference or the second channel. -/
  g : α
  /-- Blue, the red difference or the third channel. -/
  b : α
  deriving BEq, Repr, Inhabited

namespace Rgb

variable {α : Type}

/-- The same value in every channel. -/
def gray (x : α) : Rgb α := ⟨x, x, x⟩

/-- A function applied to each channel. -/
def map (f : α → α) (v : Rgb α) : Rgb α := ⟨f v.r, f v.g, f v.b⟩

/-- The channels in order. -/
def toList (v : Rgb α) : List α := [v.r, v.g, v.b]

end Rgb

/-- A homogeneous vector. -/
@[ext]
structure Vec4 (α : Type) where
  /-- The first component: red, `X` or the long-wave cone response. -/
  x : α
  /-- The second component: green, `Y` or the medium-wave cone response. -/
  y : α
  /-- The third component: blue, `Z` or the short-wave cone response. -/
  z : α
  /-- The homogeneous coordinate. -/
  w : α
  deriving BEq, Repr, Inhabited

/-- A component was asked for by a number above three. -/
structure IndexError where
  /-- The number asked for. -/
  index : Nat
  deriving DecidableEq, Repr

/-- What a reader of the failure is told. -/
def IndexError.message (e : IndexError) : String :=
  "Vec4 index out of bounds: " ++ toString e.index

namespace Vec4

section Components

variable {α : Type}

/-- The components in order. -/
def toList (v : Vec4 α) : List α := [v.x, v.y, v.z, v.w]

/-- The component with a given number. -/
def get (v : Vec4 α) : Nat → Except IndexError α
  | 0 => .ok v.x
  | 1 => .ok v.y
  | 2 => .ok v.z
  | 3 => .ok v.w
  | i => .error ⟨i⟩

/-- The vector with the component of a given number replaced. -/
def set (v : Vec4 α) (i : Nat) (k : α) : Except IndexError (Vec4 α) :=
  match i with
  | 0 => .ok { v with x := k }
  | 1 => .ok { v with y := k }
  | 2 => .ok { v with z := k }
  | 3 => .ok { v with w := k }
  | i => .error ⟨i⟩

/-- The first three components. -/
def xyz (v : Vec4 α) : Rgb α := ⟨v.x, v.y, v.z⟩

/-- A function applied to each component. -/
def map (f : α → α) (v : Vec4 α) : Vec4 α := ⟨f v.x, f v.y, f v.z, f v.w⟩

/-- Two vectors combined component by component. -/
def zipWith (f : α → α → α) (u v : Vec4 α) : Vec4 α :=
  ⟨f u.x v.x, f u.y v.y, f u.z v.z, f u.w v.w⟩

end Components

section Operations

variable {α : Type} [Arithmetic α]

/-- A point: the homogeneous coordinate is one. -/
def point (x y z : α) : Vec4 α := ⟨x, y, z, 1⟩

/-- The point whose coordinates are the channels of a sample. -/
def ofRgb (v : Rgb α) : Vec4 α := point v.r v.g v.b

instance : Zero (Vec4 α) := ⟨⟨0, 0, 0, 0⟩⟩

/-- The unit point on the first axis. -/
def unitX : Vec4 α := point 1 0 0

/-- The unit point on the second axis. -/
def unitY : Vec4 α := point 0 1 0

/-- The unit point on the third axis. -/
def unitZ : Vec4 α := point 0 0 1

instance : Add (Vec4 α) := ⟨zipWith (· + ·)⟩

instance : Sub (Vec4 α) := ⟨zipWith (· - ·)⟩

/-- Every component multiplied by one factor. -/
def scale (v : Vec4 α) (k : α) : Vec4 α := v.map (· * k)

/-- The products of corresponding components. -/
def times (u v : Vec4 α) : Vec4 α := u.zipWith (· * ·) v

/-- The sum of the products of corresponding components, from left to right. -/
def dot (u v : Vec4 α) : α := u.x * v.x + u.y * v.y + u.z * v.z + u.w * v.w

/-- The same sum begun at negative zero. -/
def dotFromZero (u v : Vec4 α) : α := -0 + u.x * v.x + u.y * v.y + u.z * v.z + u.w * v.w

/-- The same sum with the even and the odd components added apart, as two lanes of a vector unit
add them. -/
def dotByLanes (u v : Vec4 α) : α := (u.x * v.x + u.z * v.z) + (u.y * v.y + u.w * v.w)

end Operations

/-- The greatest difference between two vectors in one of the first three components. A component
whose difference is undefined is left out. -/
def maxAbsDiff3 {α : Type} [Scalar α] (u v : Vec4 α) : α :=
  larger (larger (Scalar.abs (u.x - v.x)) (Scalar.abs (u.y - v.y))) (Scalar.abs (u.z - v.z))

end Vec4

end Colorimetry
