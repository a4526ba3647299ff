import Mathlib
import Colorimetry.Linear.Inverse
import Colorimetry.Proofs.Exact.Matrix

/-!
# The inverse over an exact field

`Mat4.inverse?` evaluates cofactors in the order of a vector unit, and the determinant twice by two
expansions. Over an exact field none of that shows: both expansions are the determinant
(`Mat4.determinant_eq_det`, `Mat4.adjugateDeterminant_eq`), nothing overflows, and the function
finds an inverse exactly for the matrices that have one (`Mat4.inverse?_eq_some_iff`,
`Mat4.inverse?_eq_none_iff`). A caller needs two lemmas only:
`Mat4.requireInverse_eq_ok_iff`, which says that what it returns is the inverse, and
`Mat4.requireInverse_eq_error_iff`, which says that it fails for determinant zero and then hands
back the matrix.
-/

namespace Colorimetry
namespace Mat4

variable {K : Type} [Field K] [DecidableEq K]

/-! ### Determinant and adjugate -/

/-- The determinant is the determinant. -/
theorem determinant_eq_det (m : Mat4 K) : m.determinant = m.toMatrix.det := by
  simp only [determinant, Vec4.dotByLanes, cofactors, transpose, Matrix.det_succ_row_zero,
    Fin.sum_univ_succ, toMatrix, Vec4.coords]
  simp [Fin.succAbove]
  ring

/-- The determinant of a product. -/
theorem determinant_mul (m n : Mat4 K) :
    (m * n).determinant = m.determinant * n.determinant := by
  simp only [determinant_eq_det, toMatrix_mul, Matrix.det_mul]

/-- The second expansion has the same value. -/
theorem adjugateDeterminant_eq (m : Mat4 K) : m.adjugateDeterminant = m.determinant := by
  simp only [adjugateDeterminant, determinant, Vec4.dotByLanes, cofactors, adjugateColumns,
    transpose, lanes, Vec4.times, Vec4.zipWith, Vec4.sub_def, Vec4.add_def]
  ring

/-- The adjugate times the matrix is the determinant, on the diagonal. -/
theorem adjugate_mul (m : Mat4 K) :
    m.adjugateColumns.transpose.toMatrix * m.toMatrix = m.determinant • 1 := by
  ext i j
  fin_cases i <;> fin_cases j <;>
    simp [adjugateColumns, determinant, Vec4.dotByLanes, cofactors,
      transpose, lanes, Vec4.times, Vec4.zipWith, Vec4.sub_def, Vec4.add_def, toMatrix,
      Vec4.coords, Matrix.mul_apply, Fin.sum_univ_four] <;>
    ring

/-- The scaled adjugate is the adjugate divided by the determinant. -/
theorem toMatrix_scaledAdjugate (m : Mat4 K) :
    m.scaledAdjugate.toMatrix = (1 / m.determinant) • m.adjugateColumns.transpose.toMatrix := by
  rw [← adjugateDeterminant_eq]
  ext i j
  fin_cases i <;> fin_cases j <;>
    simp [scaledAdjugate, Vec4.scale, Vec4.map, transpose, toMatrix, Vec4.coords, mul_comm]

/-- A matrix whose determinant is not zero has its scaled adjugate for an inverse. -/
theorem scaledAdjugate_mul {m : Mat4 K} (h : m.determinant ≠ 0) : m.scaledAdjugate * m = 1 := by
  refine toMatrix_injective ?_
  rw [toMatrix_mul, toMatrix_scaledAdjugate, Matrix.smul_mul, adjugate_mul, smul_smul,
    one_div_mul_cancel h, one_smul, toMatrix_one]

/-- A matrix with an inverse has a determinant other than zero. -/
theorem determinant_ne_zero_of_mul_eq_one {m n : Mat4 K} (h : n * m = 1) :
    m.determinant ≠ 0 := by
  have hdet : n.toMatrix.det * m.toMatrix.det = 1 := by
    rw [← Matrix.det_mul, ← toMatrix_mul, h, toMatrix_one, Matrix.det_one]
  rw [determinant_eq_det]
  exact right_ne_zero_of_mul_eq_one hdet

/-- Of two left inverses there is only one. -/
theorem eq_of_mul_eq_one {m n n' : Mat4 K} (h : n * m = 1) (h' : n' * m = 1) : n = n' :=
  left_inv_eq_right_inv h (mul_eq_one_of_mul_eq_one h')

/-! ### The inverse that is returned -/

/-- Over an exact field the only test is the one for zero. -/
theorem inverse?_eq (m : Mat4 K) :
    m.inverse? = if m.determinant = 0 then none else some m.scaledAdjugate := by
  have hfinite : m.scaledAdjugate.isFinite = true := by simp [isFinite, List.all_eq_true]
  simp only [inverse?, beq_exact, isFinite_exact, hfinite, Bool.not_true, Bool.or_false,
    decide_eq_true_eq, if_true]

/-- There is none exactly if the determinant is zero. -/
theorem inverse?_eq_none_iff {m : Mat4 K} : m.inverse? = none ↔ m.determinant = 0 := by
  rw [inverse?_eq]
  by_cases h : m.determinant = 0 <;> simp [h]

/-- **What is found is the inverse**, and it is found whenever there is one. -/
theorem inverse?_eq_some_iff {m n : Mat4 K} : m.inverse? = some n ↔ n * m = 1 := by
  rw [inverse?_eq]
  constructor
  · intro h
    split_ifs at h with hdet
    cases h
    exact scaledAdjugate_mul hdet
  · intro h
    have hdet := determinant_ne_zero_of_mul_eq_one h
    rw [if_neg hdet]
    exact congrArg some (eq_of_mul_eq_one (scaledAdjugate_mul hdet) h)

/-- **What is returned is the inverse**, and it is returned whenever there is one. -/
theorem requireInverse_eq_ok_iff {m n : Mat4 K} {name : String} :
    m.requireInverse name = .ok n ↔ n * m = 1 := by
  rw [← inverse?_eq_some_iff, requireInverse]
  cases m.inverse? <;> simp

/-- **A matrix is refused exactly if its determinant is zero.** -/
theorem requireInverse_eq_error_iff {m : Mat4 K} {name : String} :
    m.requireInverse name = .error ⟨name, m⟩ ↔ m.determinant = 0 := by
  rw [← inverse?_eq_none_iff, requireInverse]
  cases m.inverse? <;> simp

/-- No matrix is refused with any other error. -/
theorem exists_requireInverse_eq_error_iff {m : Mat4 K} (name : String) :
    (∃ e, m.requireInverse name = .error e) ↔ m.determinant = 0 := by
  rw [← inverse?_eq_none_iff, requireInverse]
  cases m.inverse? <;> simp

/-- A matrix with a determinant other than zero is inverted. -/
theorem exists_requireInverse_eq_ok {m : Mat4 K} (name : String) (h : m.determinant ≠ 0) :
    ∃ n, m.requireInverse name = .ok n ∧ n * m = 1 :=
  ⟨m.scaledAdjugate, requireInverse_eq_ok_iff.mpr (scaledAdjugate_mul h), scaledAdjugate_mul h⟩

/-! ### Correct and complete -/

/-- The determinant as the sum over all permutations of rows. -/
theorem determinant_eq_sum (m : Mat4 K) :
    m.determinant = ∑ σ : Equiv.Perm (Fin 4), Equiv.Perm.sign σ • ∏ j, m.toMatrix (σ j) j := by
  rw [determinant_eq_det, Matrix.det_apply]

/-- **The determinant decides the inverse.** It is the signed sum of all products of an entry from
each column in different rows, it multiplies along products, and both of its expansions agree. For
zero, and for zero only, there is no inverse; otherwise one is found, and what is found is the
inverse on both sides, and the only one. -/
theorem determinant_decides_inverse (m : Mat4 K) :
    m.determinant = ∑ σ : Equiv.Perm (Fin 4), Equiv.Perm.sign σ • ∏ j, m.toMatrix (σ j) j ∧
    (∀ n : Mat4 K, (m * n).determinant = m.determinant * n.determinant) ∧
    m.adjugateDeterminant = m.determinant ∧
    (m.inverse? = none ↔ m.determinant = 0) ∧
    (m.determinant ≠ 0 → ∃ n, m.inverse? = some n ∧ m * n = .identity ∧ n * m = .identity) ∧
    ∀ n, m.inverse? = some n ↔ m * n = .identity ∧ n * m = .identity := by
  have hiff (n : Mat4 K) : m.inverse? = some n ↔ m * n = .identity ∧ n * m = .identity :=
    inverse?_eq_some_iff.trans ⟨fun h => ⟨mul_eq_one_of_mul_eq_one h, h⟩, And.right⟩
  refine ⟨m.determinant_eq_sum, m.determinant_mul, m.adjugateDeterminant_eq,
    inverse?_eq_none_iff, ?_, hiff⟩
  intro hdet
  obtain ⟨n, hn⟩ := Option.ne_none_iff_exists'.mp (mt inverse?_eq_none_iff.mp hdet)
  exact ⟨n, hn, (hiff n).mp hn⟩

end Mat4
end Colorimetry
