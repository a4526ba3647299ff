import Mathlib
import Colorimetry.Colorspace.Conversion
import Colorimetry.Proofs.Exact.Inverse

/-!
# Adaptation over an exact field

The one property of the constants that enters is that the two cone matrices are invertible
(`ConeResponse.determinant_toLms`), so everything here holds over any field of characteristic zero.
The gains between two whites are ratios of cone responses. They make sense from a white that all
three kinds of cones respond to (`ConeResponse.Responds`), and there they do what they are for:
they take the responses to the one white to those to the other
(`adaptationDiagonal_transform`), and along a chain of whites they multiply
(`adaptationDiagonal_mul`).
-/

namespace Colorimetry

variable {K : Type} [Field K] [DecidableEq K]

/-! ### Cone responses -/

namespace ConeResponse

theorem isLinear_toLms (cone : ConeResponse) : (cone.toLms : Mat4 K).IsLinear := by
  cases cone <;> exact Mat4.isLinear_linear ..

variable [CharZero K]

/-- The cone matrices are invertible. -/
theorem determinant_toLms (cone : ConeResponse) : (cone.toLms : Mat4 K).determinant ≠ 0 := by
  cases cone <;>
    norm_num [toLms, Mat4.linear, Mat4.determinant, Vec4.dotByLanes, Mat4.cofactors,
      Mat4.transpose]

theorem exists_toXyz (cone : ConeResponse) :
    ∃ back : Mat4 K, cone.toXyz = .ok back ∧ back.IsLinear ∧ back * cone.toLms = 1 := by
  obtain ⟨back, hok, hinv⟩ :=
    Mat4.exists_requireInverse_eq_ok cone.name (cone.determinant_toLms (K := K))
  exact ⟨back, hok, cone.isLinear_toLms.of_mul_eq_one hinv, hinv⟩

end ConeResponse

/-! ### Gains -/

/-- A white that all three kinds of cones respond to. -/
structure ConeResponse.Responds (cone : ConeResponse) (white : Vec4 K) : Prop where
  long : (cone.lms white).x ≠ 0
  medium : (cone.lms white).y ≠ 0
  short : (cone.lms white).z ≠ 0

section Gains

variable {cone : ConeResponse} {u v w : Vec4 K}

/-- From a white to itself the gains are one. -/
theorem adaptationDiagonal_self (hu : cone.Responds u) : adaptationDiagonal cone u u = 1 := by
  rw [← Mat4.scaling_one]
  simp only [adaptationDiagonal, Mat4.diagonal, Vec4.point, div_self hu.long, div_self hu.medium,
    div_self hu.short]

/-- **Gains multiply** along a chain of whites. -/
theorem adaptationDiagonal_mul (hv : cone.Responds v) :
    adaptationDiagonal cone v w * adaptationDiagonal cone u v = adaptationDiagonal cone u w := by
  simp only [adaptationDiagonal, Mat4.diagonal, Vec4.point, Mat4.scaling_mul_scaling,
    div_mul_div_cancel₀ hv.long, div_mul_div_cancel₀ hv.medium, div_mul_div_cancel₀ hv.short]

/-- The gains take the responses to one white to those to another. -/
theorem adaptationDiagonal_transform (hu : cone.Responds u) (hw : u.w = v.w) :
    (adaptationDiagonal cone u v).transform (cone.lms u) = cone.lms v := by
  have hlms : (cone.lms u).w = (cone.lms v).w := by
    have h := Mat4.isAffine_iff.mp (cone.isLinear_toLms (K := K)).toIsAffine
    rw [ConeResponse.lms, ConeResponse.lms, h, h, hw]
  ext <;>
    simp [adaptationDiagonal, Mat4.diagonal, Vec4.point, Mat4.transform, Mat4.scaling, Vec4.dot,
      hu.long, hu.medium, hu.short, hlms]

end Gains

theorem isLinear_catMatrix (dst src : Colorspace K) (cone : ConeResponse) :
    (catMatrix dst src cone).IsLinear :=
  Mat4.isLinear_scaling ..

end Colorimetry
