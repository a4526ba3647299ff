import Mathlib
import Colorimetry.Proofs.Exact.Decoding
import Colorimetry.Proofs.Exact.Conversion
import Colorimetry.Proofs.Surface.Pipeline
import Colorimetry.Proofs.Surface.Resolution

/-!
# The neutral axis

A sample with equal channels is neutral, and it stays neutral on the whole way from a surface to an
output. Every stage has its own reason.

| stage | why a neutral sample stays neutral |
| --- | --- |
| decoding of YCbCr | chroma at its offset leaves luma in all channels (`ColorEncoding.decode_neutral`) |
| a curve | it is the same in all channels |
| conversion | it takes the white of the source to the white of the destination (`exists_cscMatrixWith_white`), and it is linear |
| the factor of undefined chromaticities | it is the same on all axes |

The colorspaces that a surface may name are in the table, hence valid; of the output nothing is
assumed but that it is nondegenerate. The curves are never opened: `Elementary` stands for arbitrary
roots, powers, logarithms and exponentials.
-/

namespace Colorimetry

variable {K : Type}

/-! ### Conversion of neutral samples -/

section Conversion

variable [Field K] [DecidableEq K]

/-- A gray is white, scaled. -/
theorem ofRgb_gray (t : K) :
    Vec4.ofRgb (.gray t) = (Mat4.scaling t t t).transform (.point 1 1 1) := by
  ext <;> simp [Vec4.ofRgb, Rgb.gray, Vec4.point, Mat4.transform, Mat4.scaling, Vec4.dot]

/-- A linear matrix that scales white scales every gray. -/
theorem convertRgb_gray {m : Mat4 K} (hm : m.IsLinear) {s : K}
    (hwhite : m.transform (.point 1 1 1) = (Mat4.scaling s s s).transform (.point 1 1 1)) (t : K) :
    m.convertRgb (.gray t) = .gray (s * t) := by
  rw [Mat4.convertRgb, ofRgb_gray, hm.transform_scaling, hwhite, ← Mat4.transform_mul,
    Mat4.scaling_mul_scaling, mul_comm t s, ← ofRgb_gray]
  rfl

variable [CharZero K]

/-- **A conversion takes white to white**, scaled. -/
theorem exists_cscMatrixWith_white {dst src : Colorspace K} {cone : ConeResponse}
    (hsrc : src.Valid cone) (hdst : dst.Nondegenerate) (s : K) :
    ∃ m, cscMatrixWith dst src s cone = .ok m ∧ m.IsLinear ∧
      m.transform (.point 1 1 1) = (Mat4.scaling s s s).transform (.point 1 1 1) := by
  obtain ⟨ms, ns, hms, -, hmslin, -, -, hswhite⟩ := hsrc.exists_matrices
  obtain ⟨md, nd, -, hnd, -, hndlin, hdinv, hdwhite⟩ := hdst.exists_matrices
  obtain ⟨back, hback, hbacklin, hlms⟩ := cone.exists_toXyz (K := K)
  refine ⟨_, cscMatrixWith_eq_ok hms hnd hback s, ?_, ?_⟩
  · exact (Mat4.isLinear_scaling ..).mul (hndlin.mul (hbacklin.mul
      ((isLinear_catMatrix ..).mul (cone.isLinear_toLms.mul hmslin))))
  · have hgain : (catMatrix dst src cone).transform (cone.toLms.transform src.whiteXyz) =
        cone.toLms.transform dst.whiteXyz :=
      adaptationDiagonal_transform hsrc.responds rfl
    rw [links, Mat4.transform_mul, Mat4.transform_mul, Mat4.transform_mul, Mat4.transform_mul,
      Mat4.transform_mul, hswhite, hgain, ← Mat4.transform_mul back, hlms, Mat4.transform_one,
      ← hdwhite, ← Mat4.transform_mul nd, hdinv, Mat4.transform_one]

/-- Luma with chroma at its offset decodes to a gray. -/
theorem ColorEncoding.decode_neutral (e : ColorEncoding K) {k : K} (hk : k ≠ 0) (full : Bool)
    (y : K) :
    e.decode k full ⟨y, 0.5 / k, 0.5 / k⟩ = .gray ((k * y - lumaOffset full) / lumaSpan full) := by
  have hchroma : k * (0.5 / k) - 1 / 2 = 0 := by
    rw [mul_div_cancel₀ _ hk]
    norm_num
  simp only [ColorEncoding.decode, hchroma, zero_div, mul_zero, add_zero, sub_zero, Rgb.gray]

/-- The built-in encodings give weight to all three channels. -/
theorem ColorEncoding.weights_of_mem_table {e : ColorEncoding K} (h : e ∈ table) :
    e.kr ≠ 1 ∧ e.kb ≠ 1 ∧ e.kg ≠ 0 := by
  simp only [table, List.mem_cons, List.not_mem_nil, or_false] at h
  rcases h with rfl | rfl | rfl | rfl <;> norm_num [kg, bt601, bt709, smpte240m, bt2020]

end Conversion

/-! ### Pipelines of surfaces -/

namespace Surface

section Pipelines

variable [Field K] [LinearOrder K]

/-- A curve is the same in all channels. -/
theorem applyRgb_gray [Elementary K] (c : Transfer.Curve K) (t : K) :
    c.applyRgb (.gray t) = .gray (c.apply t) := rfl

variable [IsStrictOrderedRing K]

/-- The matrix between the two curves of a pipeline scales every gray, and there is none only where
the scale is one. -/
theorem exists_conversion (s : Color) {output : Output K}
    (h : output.colorspace.Nondegenerate) :
    ∃ csc, s.cscTo output.colorspace output.luminanceScale = .ok csc ∧
      (Color.conversion output csc = none → output.luminanceScale = 1) ∧
      ∀ m ∈ Color.conversion output csc, ∀ t,
        m.convertRgb (.gray t) = .gray (output.luminanceScale * t) := by
  by_cases hundef : s.chromaticities = .undefined
  · refine ⟨none, Color.cscTo_of_undefined hundef .., ?_, ?_⟩
    · intro hnone
      by_contra hscale
      simp [Color.conversion, bne, hscale] at hnone
    · intro m hm t
      simp only [Color.conversion, Option.none_or, Option.mem_def, Option.ite_none_right_eq_some,
        Option.some.injEq] at hm
      obtain ⟨-, rfl⟩ := hm
      exact convertRgb_gray (Mat4.isLinear_scaling ..) rfl t
  · obtain ⟨src, hmem, hcsc⟩ := Color.exists_cscTo_eq (α := K) hundef
    obtain ⟨m, hok, hlin, hwhite⟩ := exists_cscMatrixWith_white
      (Colorspace.valid_of_mem_table hmem .bradford) h output.luminanceScale
    refine ⟨some m, ?_, by simp [Color.conversion], ?_⟩
    · rw [hcsc, cscMatrix, hok]
      rfl
    · rintro m' ⟨⟩
      exact convertRgb_gray hlin hwhite

variable [Elementary K]

/-- What the stages behind the decoding make of a gray. -/
theorem exists_appendStages_gray (s : Color) {output : Output K}
    (h : output.colorspace.Nondegenerate) (p : Pipeline K) :
    ∃ q, s.appendStages output p = .ok q ∧ ∀ v t, p.apply v = .ok (.gray t) →
      q.apply v = .ok (.gray ((output.transfer.curve .encode).apply
        (output.luminanceScale * s.decodingCurve.apply t))) := by
  obtain ⟨csc, hcsc, hnone, hsome⟩ := exists_conversion s h
  refine ⟨_, Color.appendStages_eq_ok hcsc p, ?_⟩
  intro v t hv
  have hlinear := Pipeline.apply_curve hv s.decodingCurve
  rw [applyRgb_gray] at hlinear
  cases hconversion : Color.conversion output csc with
  | none =>
    rw [hnone hconversion, one_mul]
    exact Pipeline.apply_curve hlinear _
  | some m =>
    have hconverted := Pipeline.apply_matrix hlinear m
    rw [hsome m hconversion] at hconverted
    exact Pipeline.apply_curve hconverted _

/-- **Neutral samples stay neutral.** For every surface, every output with nondegenerate primaries
and whatever the curves are: RGB samples with equal channels, and YCbCr samples with chroma at its
offset, leave the pipeline with equal channels, which hold the decoded, scaled and encoded value.
-/
theorem pipelines_keep_neutral (s : Color) (output : Output K)
    (h : output.colorspace.Nondegenerate) :
    (∃ p, s.pipelineTo output = .ok p ∧ ∀ t, p.apply (.gray t) =
      .ok (.gray ((output.transfer.curve .encode).apply
        (output.luminanceScale * s.decodingCurve.apply t)))) ∧
    ∀ k, 0 < k → ∃ p, s.ycbcrPipelineTo k output = .ok p ∧ ∀ y, p.apply ⟨y, 0.5 / k, 0.5 / k⟩ =
      .ok (.gray ((output.transfer.curve .encode).apply (output.luminanceScale *
        s.decodingCurve.apply
          ((k * y - lumaOffset s.isFullRange) / lumaSpan s.isFullRange)))) := by
  constructor
  · -- RGB enters the stages as it is
    obtain ⟨p, hp, hgray⟩ := exists_appendStages_gray s h {}
    exact ⟨p, hp, fun t => hgray _ t (Pipeline.apply_empty _)⟩
  · -- YCbCr passes the decoding matrix first
    intro k hk
    obtain ⟨hr, hb, hg⟩ := ColorEncoding.weights_of_mem_table (s.colorEncoding_mem_table (α := K))
    obtain ⟨d, hd, -, hdecode⟩ := exists_ycbcrToRgbMatrix hr hb hk.ne' hg s.isFullRange
    obtain ⟨p, hp, hgray⟩ := exists_appendStages_gray s h (({} : Pipeline K).matrix d)
    refine ⟨p, ?_, ?_⟩
    · have hcheck : Color.checkMultiplier k = .ok k :=
        Color.checkMultiplier_eq_ok_iff.mpr ⟨rfl, hk⟩
      simp [Color.ycbcrPipelineTo, Color.ycbcrToRgb, hcheck, hd, Error.ofSingular, Except.mapError,
        bind, Except.bind, hp]
    · intro y
      refine hgray _ _ ?_
      rw [Pipeline.apply_matrix (Pipeline.apply_empty _), Mat4.convertRgb, hdecode,
        ColorEncoding.decode_neutral _ hk.ne']
      rfl

/-- A BT.709 surface at studio range, eight bits in sixteen, on a BT.2020 output with the perceptual
quantizer. -/
theorem pipelines_keep_neutral_bt709 :
    (Colorspace.bt2020 : Colorspace ℝ).Nondegenerate ∧ (0 : ℝ) < 257 ∧
    ∃ p, (⟨.bt709, .bt709, .bt709, .limited⟩ : Color).ycbcrPipelineTo 257
        (⟨.bt2020, .st2084, 2⟩ : Output ℝ) = .ok p ∧
      ∀ y, p.apply ⟨y, 0.5 / 257, 0.5 / 257⟩ = .ok (.gray (TransferFunction.st2084.encode
        (2 * TransferFunction.bt709.decode ((257 * y - 16 / 255) / (219 / 255))))) := by
  have hdst : (Colorspace.bt2020 : Colorspace ℝ).Nondegenerate :=
    Colorspace.nondegenerate_of_mem_table (by simp [Colorspace.table])
  have hk : (0 : ℝ) < 257 := by norm_num
  exact ⟨hdst, hk, (pipelines_keep_neutral ⟨.bt709, .bt709, .bt709, .limited⟩
    ⟨.bt2020, .st2084, 2⟩ hdst).2 257 hk⟩

end Pipelines

end Surface

end Colorimetry
