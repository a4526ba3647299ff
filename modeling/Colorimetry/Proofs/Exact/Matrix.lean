import Mathlib
import Colorimetry.Linear.Mat4
import Colorimetry.Proofs.Exact.Scalar

/-!
# Matrices over an exact field

Over an exact field the matrices of this library are square matrices of size four, and their
product is the product of matrices: `Mat4.toMatrix` reads a matrix off its rows, `Vec4.coords` a
vector off its components, and product and image become `Matrix.mul` and `Matrix.mulVec`. From
there `Mat4` is a monoid that acts on vectors (`Mat4.transform_mul`), and a chain of builder steps
is a product whose factors stand in the opposite order.

Two shapes of matrices occur. An **affine** matrix (`Mat4.IsAffine`) has the last row
`(0, 0, 0, 1)` and takes points to points; a **linear** one (`Mat4.IsLinear`) has the last column
of the identity as well. Both are closed under products and inverses, and the factor that a
conversion ends with commutes with every linear matrix (`Mat4.IsLinear.scaling_comm`), which is why
it may be moved through a chain of conversions.
-/

namespace Colorimetry

variable {K : Type} [Field K] [DecidableEq K]

/-! ### Reading off components -/

namespace Vec4

/-- The components by number. -/
def coords (v : Vec4 K) : Fin 4 → K := ![v.x, v.y, v.z, v.w]

omit [Field K] [DecidableEq K] in
theorem coords_injective : Function.Injective (coords : Vec4 K → Fin 4 → K) := by
  intro u v h
  ext
  · exact congrFun h 0
  · exact congrFun h 1
  · exact congrFun h 2
  · exact congrFun h 3

/-- Vectors are subtracted component by component. -/
theorem sub_def (u v : Vec4 K) : u - v = ⟨u.x - v.x, u.y - v.y, u.z - v.z, u.w - v.w⟩ := rfl

/-- Vectors are added component by component. -/
theorem add_def (u v : Vec4 K) : u + v = ⟨u.x + v.x, u.y + v.y, u.z + v.z, u.w + v.w⟩ := rfl

end Vec4

namespace Mat4

/-- The entries by number of row and column. -/
def toMatrix (m : Mat4 K) : Matrix (Fin 4) (Fin 4) K :=
  Matrix.of ![m.row0.coords, m.row1.coords, m.row2.coords, m.row3.coords]

omit [Field K] [DecidableEq K] in
theorem toMatrix_injective : Function.Injective (toMatrix : Mat4 K → Matrix (Fin 4) (Fin 4) K) := by
  intro m n h
  ext1
  · exact Vec4.coords_injective (congrFun h 0)
  · exact Vec4.coords_injective (congrFun h 1)
  · exact Vec4.coords_injective (congrFun h 2)
  · exact Vec4.coords_injective (congrFun h 3)

/-- The image of a vector is the product of a matrix and a vector. -/
theorem coords_transform (m : Mat4 K) (v : Vec4 K) :
    (m.transform v).coords = m.toMatrix.mulVec v.coords := by
  ext i
  fin_cases i <;>
    simp [transform, Vec4.dot, Vec4.coords, toMatrix, Matrix.mulVec, dotProduct,
      Fin.sum_univ_four]

/-- A product, row by row. -/
theorem mul_def (m n : Mat4 K) : m * n = ⟨rowTimes m.row0 n.transpose,
    rowTimes m.row1 n.transpose, rowTimes m.row2 n.transpose, rowTimes m.row3 n.transpose⟩ := rfl

/-- The product of matrices is the product of matrices. -/
theorem toMatrix_mul (m n : Mat4 K) : (m * n).toMatrix = m.toMatrix * n.toMatrix := by
  rw [mul_def]
  ext i j
  fin_cases i <;> fin_cases j <;>
    simp [rowTimes, transpose, Vec4.dotFromZero, Vec4.coords, toMatrix, Matrix.mul_apply,
      Fin.sum_univ_four]

theorem toMatrix_identity : (identity : Mat4 K).toMatrix = 1 := by
  ext i j
  fin_cases i <;> fin_cases j <;> simp [identity, scaling, toMatrix, Vec4.coords]

/-! ### Matrices act on vectors -/

/-- Matrices under composition. -/
instance : Monoid (Mat4 K) where
  one := identity
  mul_assoc l m n := toMatrix_injective (by simp only [toMatrix_mul, mul_assoc])
  one_mul m := toMatrix_injective (by
    rw [toMatrix_mul]
    exact (congrArg (· * m.toMatrix) toMatrix_identity).trans (one_mul _))
  mul_one m := toMatrix_injective (by
    rw [toMatrix_mul]
    exact (congrArg (m.toMatrix * ·) toMatrix_identity).trans (mul_one _))

theorem toMatrix_one : (1 : Mat4 K).toMatrix = 1 := toMatrix_identity

/-- Appending a step multiplies from the left. -/
theorem andThen_eq_mul (m n : Mat4 K) : m.andThen n = n * m := rfl

/-- **The image under a product**: the right factor acts first. -/
theorem transform_mul (m n : Mat4 K) (v : Vec4 K) :
    (m * n).transform v = m.transform (n.transform v) :=
  Vec4.coords_injective (by
    simp only [coords_transform, toMatrix_mul, Matrix.mulVec_mulVec])

theorem transform_one (v : Vec4 K) : (1 : Mat4 K).transform v = v :=
  Vec4.coords_injective (by rw [coords_transform, toMatrix_one, Matrix.one_mulVec])

/-- Factors for the axes multiply. -/
theorem scaling_mul_scaling (a b c a' b' c' : K) :
    scaling a b c * scaling a' b' c' = scaling (a * a') (b * b') (c * c') := by
  rw [mul_def]
  ext <;> simp [rowTimes, transpose, Vec4.dotFromZero, scaling]

/-- A factor for each axis multiplies the rows. -/
theorem andScale_eq (m : Mat4 K) (a b c : K) : m.andScale a b c =
    ⟨⟨a * m.row0.x, a * m.row0.y, a * m.row0.z, a * m.row0.w⟩,
      ⟨b * m.row1.x, b * m.row1.y, b * m.row1.z, b * m.row1.w⟩,
      ⟨c * m.row2.x, c * m.row2.y, c * m.row2.z, c * m.row2.w⟩, m.row3⟩ := by
  rw [andScale, andThen_eq_mul, mul_def]
  ext <;> simp [rowTimes, transpose, Vec4.dotFromZero, scaling]

/-- An offset for each axis adds multiples of the last row. -/
theorem andOffset_eq (m : Mat4 K) (a b c : K) : m.andOffset a b c =
    ⟨⟨m.row0.x + a * m.row3.x, m.row0.y + a * m.row3.y, m.row0.z + a * m.row3.z,
        m.row0.w + a * m.row3.w⟩,
      ⟨m.row1.x + b * m.row3.x, m.row1.y + b * m.row3.y, m.row1.z + b * m.row3.z,
        m.row1.w + b * m.row3.w⟩,
      ⟨m.row2.x + c * m.row3.x, m.row2.y + c * m.row3.y, m.row2.z + c * m.row3.z,
        m.row2.w + c * m.row3.w⟩, m.row3⟩ := by
  rw [andOffset, andThen_eq_mul, mul_def]
  ext <;> simp [rowTimes, transpose, Vec4.dotFromZero, offset]

theorem scaling_one : (scaling 1 1 1 : Mat4 K) = 1 := rfl

/-- A left inverse is a right inverse. -/
theorem mul_eq_one_of_mul_eq_one {m n : Mat4 K} (h : n * m = 1) : m * n = 1 := by
  refine toMatrix_injective ?_
  rw [toMatrix_mul, toMatrix_one, mul_eq_one_comm, ← toMatrix_mul, h, toMatrix_one]

/-! ### Affine and linear matrices -/

/-- A matrix that takes points to points: its last row is that of the identity. -/
structure IsAffine (m : Mat4 K) : Prop where
  row3 : m.row3 = ⟨0, 0, 0, 1⟩

/-- A matrix that acts on the first three components alone: its last column is that of the identity
as well. -/
structure IsLinear (m : Mat4 K) : Prop extends IsAffine m where
  column3 : m.transpose.row3 = ⟨0, 0, 0, 1⟩

theorem isAffine_iff {m : Mat4 K} : m.IsAffine ↔ ∀ v, (m.transform v).w = v.w := by
  constructor
  · intro h v
    simp [transform, h.row3, Vec4.dot]
  · intro h
    refine ⟨?_⟩
    have hx := h ⟨1, 0, 0, 0⟩
    have hy := h ⟨0, 1, 0, 0⟩
    have hz := h ⟨0, 0, 1, 0⟩
    have hw := h ⟨0, 0, 0, 1⟩
    simp only [transform, Vec4.dot, mul_one, mul_zero, add_zero, zero_add] at hx hy hz hw
    exact Vec4.ext hx hy hz hw

/-- A linear matrix fixes the origin. -/
theorem isLinear_iff {m : Mat4 K} :
    m.IsLinear ↔ m.IsAffine ∧ m.transform ⟨0, 0, 0, 1⟩ = ⟨0, 0, 0, 1⟩ := by
  have hcol : m.transform ⟨0, 0, 0, 1⟩ = m.transpose.row3 := by
    simp [transform, Vec4.dot, transpose]
  rw [hcol]
  constructor
  · intro h
    exact ⟨h.toIsAffine, h.column3⟩
  · rintro ⟨ha, hc⟩
    exact ⟨ha, hc⟩

theorem IsAffine.mul {m n : Mat4 K} (hm : m.IsAffine) (hn : n.IsAffine) : (m * n).IsAffine := by
  rw [isAffine_iff] at *
  intro v
  rw [transform_mul, hm, hn]

theorem IsLinear.mul {m n : Mat4 K} (hm : m.IsLinear) (hn : n.IsLinear) : (m * n).IsLinear := by
  rw [isLinear_iff] at *
  exact ⟨hm.1.mul hn.1, by rw [transform_mul, hn.2, hm.2]⟩

/-- The inverse of an affine matrix is affine. -/
theorem IsAffine.of_mul_eq_one {m n : Mat4 K} (hm : m.IsAffine) (h : n * m = 1) :
    n.IsAffine := by
  rw [isAffine_iff] at *
  intro v
  have hv : m.transform (n.transform v) = v := by
    rw [← transform_mul, mul_eq_one_of_mul_eq_one h, transform_one]
  rw [← hm, hv]

/-- The inverse of a linear matrix is linear. -/
theorem IsLinear.of_mul_eq_one {m n : Mat4 K} (hm : m.IsLinear) (h : n * m = 1) :
    n.IsLinear := by
  have ho := (isLinear_iff.mp hm).2
  refine isLinear_iff.mpr ⟨hm.toIsAffine.of_mul_eq_one h, ?_⟩
  calc n.transform ⟨0, 0, 0, 1⟩ = n.transform (m.transform ⟨0, 0, 0, 1⟩) := by rw [ho]
    _ = ⟨0, 0, 0, 1⟩ := by rw [← transform_mul, h, transform_one]

theorem isLinear_linear (a b c d e f g h i : K) : (linear a b c d e f g h i).IsLinear :=
  ⟨⟨rfl⟩, rfl⟩

theorem isLinear_scaling (a b c : K) : (scaling a b c).IsLinear := ⟨⟨rfl⟩, rfl⟩

/-- **One factor for all axes commutes with every linear matrix.** -/
theorem IsLinear.scaling_comm {m : Mat4 K} (hm : m.IsLinear) (s : K) :
    m * scaling s s s = scaling s s s * m := by
  have h3 := hm.row3
  have hc := hm.column3
  simp only [transpose, Vec4.mk.injEq] at hc
  rw [mul_def, mul_def]
  ext <;> simp [rowTimes, transpose, Vec4.dotFromZero, scaling, h3, hc, mul_comm]

/-- The factor of a matrix may be taken from the argument to the image. -/
theorem IsLinear.transform_scaling {m : Mat4 K} (hm : m.IsLinear) (s : K) (v : Vec4 K) :
    m.transform ((scaling s s s).transform v) = (scaling s s s).transform (m.transform v) := by
  rw [← transform_mul, hm.scaling_comm, transform_mul]

end Mat4
end Colorimetry
