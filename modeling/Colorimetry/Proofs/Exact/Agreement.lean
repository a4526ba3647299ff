import Mathlib
import Colorimetry.Proofs.Exact.Conversion

/-!
# Conversion agrees with adaptation

There are two ways from the RGB of one colorspace to XYZ under the white of another:

    RGB of the source ────── conversion ──────→ RGB of the destination
            │                                              │
            ↓                                              ↓
    XYZ under its white ──── adaptation ────→ XYZ under the other white

One asks for a conversion, destination first, and takes its result to XYZ. The other takes the
colour to XYZ at once and adapts it there, source first. They are written apart, but the square
commutes, up to the scale of the conversion (`toXyz_convertRgb_cscMatrixWith`). A conversion ends
with the way from XYZ to the RGB of the destination, which the way back undoes, and what is left of
its links is the adaptation (`mul_scaling_mul_links`).

Of the source less is asked than of a colorspace that can also be a destination: its white may lie
on a side of its gamut (`Colorspace.IsSource`), since its matrix to XYZ is never inverted.
-/

namespace Colorimetry

variable {K : Type} [Field K] [DecidableEq K]

/-! ### Samples under a product -/

/-- A vector with homogeneous coordinate one is the point of its other components. -/
theorem ofRgb_xyz {v : Vec4 K} (h : v.w = 1) : Vec4.ofRgb v.xyz = v := by
  ext
  · rfl
  · rfl
  · rfl
  · exact h.symm

/-- The image of a sample under a product is its image under both factors in turn, if the first
one to act takes points to points. -/
theorem convertRgb_mul (m : Mat4 K) {n : Mat4 K} (hn : n.IsAffine) (v : Rgb K) :
    (m * n).convertRgb v = m.convertRgb (n.convertRgb v) := by
  have hpoint : (n.transform (.ofRgb v)).w = 1 := Mat4.isAffine_iff.mp hn _
  rw [Mat4.convertRgb, Mat4.transform_mul, Mat4.convertRgb, Mat4.convertRgb, ofRgb_xyz hpoint]

/-- One factor for all axes multiplies all channels. -/
theorem convertRgb_scaling (s : K) (v : Rgb K) :
    (Mat4.scaling s s s).convertRgb v = v.map (s * ·) := by
  ext <;> simp [Mat4.convertRgb, Mat4.transform, Mat4.scaling, Vec4.dot, Vec4.ofRgb, Vec4.point,
    Vec4.xyz, Rgb.map]

/-! ### Sources -/

namespace Colorspace

open Chromaticity

/-- What a conversion asks of its source: a triangle of primaries, and a white that all three kinds
of cones respond to. The luminances are not zero, unless the primaries are the axes of XYZ. -/
structure IsSource (cs : Colorspace K) (cone : ConeResponse) : Prop where
  luminances : cs.isXyzPassthrough = true ∨
    (cs.whitepoint.y ≠ 0 ∧ cs.r.y ≠ 0 ∧ cs.g.y ≠ 0 ∧ cs.b.y ≠ 0)
  triangle : ¬ Collinear cs.r cs.g cs.b
  responds : cone.Responds cs.whiteXyz

/-- A colorspace that can be a destination too can be a source. -/
theorem Valid.isSource {cs : Colorspace K} {cone : ConeResponse} (h : cs.Valid cone) :
    cs.IsSource cone :=
  ⟨h.luminances, h.triangle, h.responds⟩

/-- The axes of XYZ are multiplied by the coordinates of the white. -/
theorem toXyzMatrix_of_isXyzPassthrough {cs : Colorspace K} (h : cs.isXyzPassthrough = true) :
    cs.toXyzMatrix = .ok (.diagonal cs.whiteXyz) := by
  have hprimaries : cs.primariesMatrix = 1 := by
    rw [primariesMatrix, if_pos h]
    rfl
  have hinverse : (1 : Mat4 K).requireInverse cs.name = .ok 1 :=
    Mat4.requireInverse_eq_ok_iff.mpr (mul_one 1)
  simp [toXyzMatrix, hprimaries, hinverse, bind, Except.bind, pure, Except.pure,
    Mat4.andThen_eq_mul, Mat4.transform_one]

/-- A source has a matrix to XYZ. -/
theorem IsSource.exists_toXyzMatrix {cs : Colorspace K} {cone : ConeResponse}
    (h : cs.IsSource cone) : ∃ m, cs.toXyzMatrix = .ok m ∧ m.IsLinear := by
  rcases h.luminances with hpass | ⟨hwhite, hprimaries⟩
  -- on the axes of XYZ the white may have no luminance, which `Regular` excludes
  · exact ⟨_, toXyzMatrix_of_isXyzPassthrough hpass, Mat4.isLinear_scaling ..⟩
  · have hregular : cs.Regular := ⟨hwhite, .inr hprimaries, h.triangle⟩
    obtain ⟨m, hm, hlin, -⟩ := hregular.exists_toXyzMatrix
    exact ⟨m, hm, hlin⟩

end Colorspace

/-! ### Adaptation in XYZ -/

section Adaptation

variable {cone : ConeResponse} {u v : Vec4 K}

/-- Adaptation goes to cone responses, multiplies by the gains, and goes back. -/
theorem adaptMatrix_eq_ok {back : Mat4 K} (hback : cone.toXyz = .ok back) (u v : Vec4 K) :
    adaptMatrix cone u v = .ok (back * (adaptationDiagonal cone u v * cone.toLms)) := by
  rw [adaptMatrix, hback]
  rfl

/-- **Adaptation takes the one white to the other**, whatever the way back from cone responses. -/
theorem transform_adaptation_white {back : Mat4 K} (hlms : back * cone.toLms = 1)
    (hu : cone.Responds u) (hw : u.w = v.w) :
    (back * (adaptationDiagonal cone u v * cone.toLms)).transform u = v := by
  have hgain : (adaptationDiagonal cone u v).transform (cone.toLms.transform u) =
      cone.toLms.transform v :=
    adaptationDiagonal_transform hu hw
  rw [Mat4.transform_mul, Mat4.transform_mul, hgain, ← Mat4.transform_mul, hlms,
    Mat4.transform_one]

/-- Between equal whites nothing is adapted. -/
theorem adaptation_self {back : Mat4 K} (hlms : back * cone.toLms = 1) (hu : cone.Responds u) :
    back * (adaptationDiagonal cone u u * cone.toLms) = 1 := by
  rw [adaptationDiagonal_self hu, one_mul, hlms]

end Adaptation

/-! ### The square commutes -/

/-- Back in XYZ the last link of a conversion is undone, and the scale comes out. -/
theorem mul_scaling_mul_links {n back gain lms m md : Mat4 K} (hmd : md.IsLinear)
    (hrgb : md * n = 1) (s : K) :
    md * (Mat4.scaling s s s * links n back gain lms m) =
      Mat4.scaling s s s * ((back * (gain * lms)) * m) := by
  unfold links
  calc md * (Mat4.scaling s s s * (n * (back * (gain * (lms * m)))))
      = md * Mat4.scaling s s s * (n * (back * (gain * (lms * m)))) := by rw [mul_assoc]
    _ = Mat4.scaling s s s * ((md * n) * (back * (gain * (lms * m)))) := by
        rw [hmd.scaling_comm]
        simp only [mul_assoc]
    _ = Mat4.scaling s s s * ((back * (gain * lms)) * m) := by
        rw [hrgb, one_mul]
        simp only [mul_assoc]

/-- A converted sample, back in XYZ, is the adapted one, scaled. -/
theorem convertRgb_scaling_mul_links {n back gain lms m md : Mat4 K} (hmd : md.IsLinear)
    (hrgb : md * n = 1) (hn : n.IsLinear) (hback : back.IsLinear) (hgain : gain.IsLinear)
    (hlms : lms.IsLinear) (hm : m.IsLinear) (s : K) (v : Rgb K) :
    md.convertRgb ((Mat4.scaling s s s * links n back gain lms m).convertRgb v) =
      ((back * (gain * lms)).convertRgb (m.convertRgb v)).map (s * ·) := by
  have hlinks : (links n back gain lms m).IsLinear :=
    hn.mul (hback.mul (hgain.mul (hlms.mul hm)))
  have hscaled : (Mat4.scaling s s s * links n back gain lms m).IsAffine :=
    ((Mat4.isLinear_scaling s s s).mul hlinks).toIsAffine
  have hxyz : ((back * (gain * lms)) * m).IsAffine :=
    ((hback.mul (hgain.mul hlms)).mul hm).toIsAffine
  rw [← convertRgb_mul md hscaled, mul_scaling_mul_links hmd hrgb, convertRgb_mul _ hxyz,
    convertRgb_scaling, convertRgb_mul _ hm.toIsAffine]

variable [CharZero K]

/-- **Conversion agrees with adaptation.** In XYZ a converted colour is the adapted one, scaled.
Adaptation takes the white of the source to the white of the destination, so between colorspaces of
one white a conversion keeps the XYZ of every colour, up to the scale. -/
theorem toXyz_convertRgb_cscMatrixWith {src dst : Colorspace K} {cone : ConeResponse}
    (hsrc : src.IsSource cone) (hdst : dst.Nondegenerate) :
    ∃ srcXyz dstXyz adapt, src.toXyzMatrix = .ok srcXyz ∧ dst.toXyzMatrix = .ok dstXyz ∧
      adaptMatrix cone src.whiteXyz dst.whiteXyz = .ok adapt ∧
      adapt.transform src.whiteXyz = dst.whiteXyz ∧
      ∀ s, ∃ m, cscMatrixWith dst src s cone = .ok m ∧ ∀ v,
        dstXyz.convertRgb (m.convertRgb v) =
          (adapt.convertRgb (srcXyz.convertRgb v)).map (s * ·) ∧
        (src.whiteXyz = dst.whiteXyz →
          dstXyz.convertRgb (m.convertRgb v) = (srcXyz.convertRgb v).map (s * ·)) := by
  obtain ⟨ms, hms, hmslin⟩ := hsrc.exists_toXyzMatrix
  obtain ⟨md, nd, hmd, hnd, hmdlin, hndlin, hdinv, -⟩ := hdst.exists_matrices
  obtain ⟨back, hback, hbacklin, hlms⟩ := cone.exists_toXyz (K := K)
  refine ⟨ms, md, _, hms, hmd, adaptMatrix_eq_ok hback .., ?_, ?_⟩
  · exact transform_adaptation_white hlms hsrc.responds rfl
  · intro s
    refine ⟨_, cscMatrixWith_eq_ok hms hnd hback s, ?_⟩
    intro v
    have hadapted := convertRgb_scaling_mul_links hmdlin (Mat4.mul_eq_one_of_mul_eq_one hdinv)
      hndlin hbacklin (isLinear_catMatrix dst src cone) cone.isLinear_toLms hmslin s v
    refine ⟨hadapted, ?_⟩
    intro hwhite
    -- the gains are those between the two whites, which are now one
    have hself : back * (catMatrix dst src cone * cone.toLms) = 1 := by
      rw [catMatrix, ← hwhite, adaptation_self hlms hsrc.responds]
    rw [hadapted, hself, Mat4.convertRgb, Mat4.transform_one]
    rfl

/-- From the axes of XYZ to BT.2020, equal energy becoming daylight. -/
theorem toXyz_convertRgb_cscMatrixWith_cieXyz :
    (.cieXyz : Colorspace ℚ).IsSource .vonKries ∧ (.bt2020 : Colorspace ℚ).Nondegenerate ∧
    ∃ srcXyz dstXyz adapt, (.cieXyz : Colorspace ℚ).toXyzMatrix = .ok srcXyz ∧
      (.bt2020 : Colorspace ℚ).toXyzMatrix = .ok dstXyz ∧
      adaptMatrix .vonKries Colorspace.cieXyz.whiteXyz Colorspace.bt2020.whiteXyz = .ok adapt ∧
      adapt.transform Colorspace.cieXyz.whiteXyz = Colorspace.bt2020.whiteXyz ∧
      ∀ s, ∃ m, cscMatrixWith (.bt2020 : Colorspace ℚ) .cieXyz s .vonKries = .ok m ∧ ∀ v,
        dstXyz.convertRgb (m.convertRgb v) =
          (adapt.convertRgb (srcXyz.convertRgb v)).map (s * ·) ∧
        ((.cieXyz : Colorspace ℚ).whiteXyz = Colorspace.bt2020.whiteXyz →
          dstXyz.convertRgb (m.convertRgb v) = (srcXyz.convertRgb v).map (s * ·)) := by
  have hsrc : (.cieXyz : Colorspace ℚ).IsSource .vonKries :=
    (Colorspace.valid_of_mem_table (by simp [Colorspace.table]) _).isSource
  have hdst : (.bt2020 : Colorspace ℚ).Nondegenerate :=
    Colorspace.nondegenerate_of_mem_table (by simp [Colorspace.table])
  exact ⟨hsrc, hdst, toXyz_convertRgb_cscMatrixWith hsrc hdst⟩

end Colorimetry
