import Mathlib
import Colorimetry.Proofs.Exact.Adaptation
import Colorimetry.Proofs.Exact.Primaries

/-!
# Valid colorspaces

What a conversion asks of its source and its destination: a triangle of primaries with the white off
its sides, and a white that all three kinds of cones respond to. Every built-in colorspace is valid
for both models of the cones (`Colorspace.valid_of_mem_table`). This is the one place where the
chromaticities of the table are computed with; all that holds of a valid colorspace then holds of
the built-in ones.
-/

namespace Colorimetry

variable {K : Type} [Field K] [DecidableEq K]

namespace Colorspace

/-- A colorspace that can be the source and the destination of a conversion. -/
structure Valid (cs : Colorspace K) (cone : ConeResponse) : Prop extends Nondegenerate cs where
  responds : cone.Responds cs.whiteXyz

variable [CharZero K]

/-- Every built-in colorspace is nondegenerate. -/
theorem nondegenerate_of_mem_table {cs : Colorspace K} (h : cs ∈ table) : cs.Nondegenerate := by
  simp only [table, List.mem_cons, List.not_mem_nil, or_false] at h
  rcases h with rfl | rfl | rfl | rfl | rfl | rfl | rfl | rfl | rfl | rfl | rfl | rfl | rfl <;>
    constructor <;>
    norm_num [isXyzPassthrough_iff, Chromaticity.Collinear, Chromaticity.doubleArea, bt470m,
      bt470bg, smpte170m, bt709, srgb, bt2020, adobeRgb, dciP3, proPhotoRgb, cieRgb, cieXyz,
      acesAp0, acesAp1, Chromaticity.d65, Chromaticity.d50, Chromaticity.illuminantC,
      Chromaticity.illuminantE, Chromaticity.dci, Chromaticity.aces]

omit [CharZero K] in
/-- The built-in colorspaces share six whites. -/
theorem whitepoint_of_mem_table {cs : Colorspace K} (h : cs ∈ table) :
    cs.whitepoint ∈ [.illuminantC, .d65, .d50, .illuminantE, .dci, .aces] := by
  simp only [table, List.mem_cons, List.not_mem_nil, or_false] at h
  rcases h with rfl | rfl | rfl | rfl | rfl | rfl | rfl | rfl | rfl | rfl | rfl | rfl | rfl <;>
    simp [bt470m, bt470bg, smpte170m, bt709, srgb, bt2020, adobeRgb, dciP3, proPhotoRgb, cieRgb,
      cieXyz, acesAp0, acesAp1]

/-- All three kinds of cones respond to the white of a built-in colorspace. -/
theorem responds_of_mem_table {cs : Colorspace K} (h : cs ∈ table) (cone : ConeResponse) :
    cone.Responds cs.whiteXyz := by
  have hwhite := whitepoint_of_mem_table h
  simp only [List.mem_cons, List.not_mem_nil, or_false] at hwhite
  unfold whiteXyz
  rcases hwhite with hw | hw | hw | hw | hw | hw <;> rw [hw] <;> cases cone <;> constructor <;>
    norm_num [ConeResponse.lms, ConeResponse.toLms, Mat4.linear, Mat4.transform, Vec4.dot,
      Chromaticity.toXyz, Vec4.point, Chromaticity.d65, Chromaticity.d50,
      Chromaticity.illuminantC, Chromaticity.illuminantE, Chromaticity.dci, Chromaticity.aces]

/-- **Every built-in colorspace is valid.** -/
theorem valid_of_mem_table {cs : Colorspace K} (h : cs ∈ table) (cone : ConeResponse) :
    cs.Valid cone :=
  ⟨nondegenerate_of_mem_table h, responds_of_mem_table h cone⟩

end Colorspace
end Colorimetry
