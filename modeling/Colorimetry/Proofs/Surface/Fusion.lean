import Mathlib
import Colorimetry.Proofs.Exact.Neutral
import Colorimetry.Proofs.Exact.Shape
import Colorimetry.Proofs.Surface.Composition

/-!
# Adjacent matrices may be fused

A renderer that finds two matrices side by side would rather multiply them once than every sample
twice. This changes nothing if the first of them is affine: its image is a point again, and so the
homogeneous coordinate that is dropped between the two is the one that is put back. Of the second
matrix, and of the stages around the two, nothing is asked (`Pipeline.apply_fuse`).

In the pipelines of surfaces every matrix is affine (`Color.isAffine_pipelineTo`,
`Color.isAffine_ycbcrPipelineTo`), so all that keeps the decoding of YCbCr and the conversion apart
is the curve between them. The curve of linear transfer is no obstacle: it is a division by one on
one side of zero and a first power on the other. A surface with linear transfer is decoded and
converted by one matrix (`Color.apply_ycbcrPipelineTo_linear`).
-/

namespace Colorimetry.Surface

/-! ### Fusing -/

namespace Pipeline

variable {K : Type} [Field K] [LinearOrder K]

/-- All matrices of a pipeline are affine. -/
def IsAffine (p : Pipeline K) : Prop := ∀ m, .matrix m ∈ p.stages → m.IsAffine

variable [Elementary K]

/-- **Two adjacent matrices are one**, if the first of them is affine. -/
theorem apply_fuse (before after : List (Stage K)) {a : Mat4 K} (ha : a.IsAffine) (b : Mat4 K)
    (v : Rgb K) :
    (⟨before ++ .matrix a :: .matrix b :: after⟩ : Pipeline K).apply v =
      (⟨before ++ .matrix (b * a) :: after⟩ : Pipeline K).apply v := by
  have hfuse : (⟨.matrix a :: .matrix b :: after⟩ : Pipeline K).apply =
      (⟨.matrix (b * a) :: after⟩ : Pipeline K).apply := by
    funext w
    rw [apply_matrix_cons, apply_matrix_cons, apply_matrix_cons, convertRgb_mul b ha]
  rw [apply_append, apply_append, hfuse]

/-- A first matrix that is not affine cannot be fused: this one doubles the homogeneous coordinate,
which doubles the offset behind it in a product, and is forgotten between two stages. -/
example :
    let double : Mat4 ℚ := ⟨⟨1, 0, 0, 0⟩, ⟨0, 1, 0, 0⟩, ⟨0, 0, 1, 0⟩, ⟨0, 0, 0, 2⟩⟩
    ((Mat4.offset 1 1 1 * double).convertRgb ⟨0, 0, 0⟩).r = 2 ∧
      ((Mat4.offset 1 1 1).convertRgb (double.convertRgb ⟨0, 0, 0⟩)).r = 1 := by
  decide +kernel

end Pipeline

/-! ### The pipelines of surfaces -/

namespace Color

variable {K : Type} [Field K] [LinearOrder K] {s : Color} {output : Output K} {k : K}
  {csc : Option (Mat4 K)}

/-- A surface with a colorspace has a conversion. -/
theorem exists_of_cscTo {dst src : Colorspace K} {scale : K} (hsrc : s.colorspace? = some src)
    (h : s.cscTo dst scale = .ok csc) : ∃ m, csc = some m ∧ cscMatrix dst src scale = .ok m := by
  rw [cscTo_of_colorspace? hsrc] at h
  obtain ⟨m, hm, rfl⟩ := exists_of_map_eq_ok h
  exact ⟨m, rfl, eq_ok_of_mapError_eq_ok hm⟩

/-- A conversion is linear, if there is one. -/
theorem isLinear_cscTo {dst : Colorspace K} {scale : K} (h : s.cscTo dst scale = .ok csc) :
    ∀ m ∈ csc, m.IsLinear := by
  cases hsrc : (s.colorspace? : Option (Colorspace K)) with
  | none =>
    rw [cscTo_of_colorspace?_eq_none hsrc] at h
    cases h
    simp
  | some src =>
    obtain ⟨m, rfl, hm⟩ := exists_of_cscTo hsrc h
    rintro m' ⟨⟩
    exact isLinear_cscMatrixWith hm

/-- So is the factor that stands in its place where there is none. -/
theorem isLinear_conversion (h : s.cscTo output.colorspace output.luminanceScale = .ok csc) :
    ∀ m ∈ conversion output csc, m.IsLinear := by
  intro m hm
  rcases Option.or_eq_some_iff.mp hm with hcsc | ⟨-, hscale⟩
  · exact isLinear_cscTo h m hcsc
  · obtain ⟨-, hm⟩ := Option.ite_none_right_eq_some.mp hscale
    cases hm
    exact Mat4.isLinear_scaling ..

/-- The matrix that decodes the samples of a surface is affine. -/
theorem isAffine_ycbcrToRgb {d : Mat4 K} (h : s.ycbcrToRgb k = .ok d) : d.IsAffine := by
  obtain ⟨k', -, hd⟩ := exists_of_bind_eq_ok h
  exact isAffine_ycbcrToRgbMatrix (eq_ok_of_mapError_eq_ok hd)

/-- Behind the decoding there are two curves, and no matrix but the one between them. -/
theorem matrix_mem_stagesWith {m : Mat4 K} :
    .matrix m ∈ s.stagesWith output csc ↔ m ∈ conversion output csc := by
  simp [stagesWith]

/-- A pipeline of RGB samples has the stages behind the decoding, -/
theorem exists_of_pipelineTo {p : Pipeline K} (h : s.pipelineTo output = .ok p) :
    ∃ csc, s.cscTo output.colorspace output.luminanceScale = .ok csc ∧
      p = ⟨s.stagesWith output csc⟩ := by
  rw [pipelineTo_eq_map] at h
  obtain ⟨csc, hcsc, rfl⟩ := exists_of_map_eq_ok h
  exact ⟨csc, hcsc, rfl⟩

/-- and one of YCbCr samples a decoding matrix before them. -/
theorem exists_of_ycbcrPipelineTo {p : Pipeline K} (h : s.ycbcrPipelineTo k output = .ok p) :
    ∃ d csc, s.ycbcrToRgb k = .ok d ∧
      s.cscTo output.colorspace output.luminanceScale = .ok csc ∧
      p = ⟨.matrix d :: s.stagesWith output csc⟩ := by
  obtain ⟨d, hd, -⟩ := exists_of_bind_eq_ok h
  rw [ycbcrPipelineTo_of_ok output hd] at h
  obtain ⟨rgb, hrgb, rfl⟩ := exists_of_map_eq_ok h
  obtain ⟨csc, hcsc, rfl⟩ := exists_of_pipelineTo hrgb
  exact ⟨d, csc, hd, hcsc, rfl⟩

/-- **Every matrix of a pipeline of RGB samples is affine**, -/
theorem isAffine_pipelineTo {p : Pipeline K} (h : s.pipelineTo output = .ok p) : p.IsAffine := by
  obtain ⟨csc, hcsc, rfl⟩ := exists_of_pipelineTo h
  intro m hm
  exact (isLinear_conversion hcsc m (matrix_mem_stagesWith.mp hm)).toIsAffine

/-- **and so is every matrix of a pipeline of YCbCr samples**. -/
theorem isAffine_ycbcrPipelineTo {p : Pipeline K} (h : s.ycbcrPipelineTo k output = .ok p) :
    p.IsAffine := by
  obtain ⟨d, csc, hd, hcsc, rfl⟩ := exists_of_ycbcrPipelineTo h
  intro m hm
  rcases List.mem_cons.mp hm with hfirst | hrest
  · cases hfirst
    exact isAffine_ycbcrToRgb hd
  · exact (isLinear_conversion hcsc m (matrix_mem_stagesWith.mp hrest)).toIsAffine

/-! ### Existence -/

section Existence

variable [IsStrictOrderedRing K]

/-- A positive multiplier is decoded. -/
theorem exists_ycbcrToRgb (s : Color) (hk : 0 < k) : ∃ d, s.ycbcrToRgb k = .ok d := by
  obtain ⟨hr, hb, hg⟩ := ColorEncoding.weights_of_mem_table (s.colorEncoding_mem_table (α := K))
  obtain ⟨d, hd, -⟩ := exists_ycbcrToRgbMatrix hr hb hk.ne' hg s.isFullRange
  have hcheck : checkMultiplier k = .ok k := checkMultiplier_eq_ok_iff.mpr ⟨rfl, hk⟩
  refine ⟨d, ?_⟩
  rw [ycbcrToRgb, hcheck]
  exact congrArg (Except.mapError Error.singular) hd

/-- On a nondegenerate output there is a pipeline for RGB samples, -/
theorem exists_pipelineTo (s : Color) (h : output.colorspace.Nondegenerate) :
    ∃ p, s.pipelineTo output = .ok p := by
  obtain ⟨csc, hcsc, -⟩ := exists_conversion s h
  rw [pipelineTo_eq_map, hcsc]
  exact ⟨_, rfl⟩

/-- and one for YCbCr samples. -/
theorem exists_ycbcrPipelineTo (s : Color) (h : output.colorspace.Nondegenerate) (hk : 0 < k) :
    ∃ p, s.ycbcrPipelineTo k output = .ok p := by
  obtain ⟨d, hd⟩ := s.exists_ycbcrToRgb hk
  obtain ⟨p, hp⟩ := s.exists_pipelineTo h
  rw [ycbcrPipelineTo_of_ok output hd, hp]
  exact ⟨_, rfl⟩

end Existence

/-! ### Linear transfer -/

section Linear

variable [Elementary K]

/-- The decoding curve of linear transfer changes nothing, if a first power does not. -/
theorem decodingCurve_applyRgb_of_linear (hpow : ∀ x : K, 0 ≤ x → Elementary.pow x 1 = x)
    (hlinear : s.transfer = .linear) (v : Rgb K) : s.decodingCurve.applyRgb v = v := by
  have happly (x : K) : s.decodingCurve.apply x = x := by
    rw [decodingCurve, transferFunction, hlinear]
    change (Transfer.Record.identity : Transfer.Record K).decoding.decode x = x
    have hdecoding : (Transfer.Record.identity : Transfer.Record K).decoding =
        ⟨"Linear", 1, 0, 0, 1⟩ := by
      simp [Transfer.Record.decoding, Transfer.Record.isZero, Transfer.Record.identity]
    rw [hdecoding, Transfer.Record.decode]
    split
    · exact div_one x
    · next h => simp [hpow x (not_lt.mp h)]
  rw [Transfer.Curve.applyRgb, funext happly]
  rfl

/-- **A surface with linear transfer is decoded and converted by one matrix**: the product of the two
where there is a conversion or a factor, else the decoding alone. -/
theorem apply_ycbcrPipelineTo_linear (hpow : ∀ x : K, 0 ≤ x → Elementary.pow x 1 = x)
    (hlinear : s.transfer = .linear) {d : Mat4 K} (hd : d.IsAffine) (csc : Option (Mat4 K))
    (v : Rgb K) :
    (⟨.matrix d :: s.stagesWith output csc⟩ : Pipeline K).apply v =
      (⟨[.matrix ((conversion output csc).elim d (· * d)),
        .curve (output.transfer.curve .encode)]⟩ : Pipeline K).apply v := by
  rw [Pipeline.apply_matrix_cons, stagesWith, List.cons_append, Pipeline.apply_curve_cons,
    decodingCurve_applyRgb_of_linear hpow hlinear, ← Pipeline.apply_matrix_cons]
  cases conversion output csc with
  | none => rfl
  | some m => exact Pipeline.apply_fuse [] _ hd m v

end Linear

/-! ### All together -/

/-- **Adjacent matrices may be fused**, if the first of them is affine, and in the pipelines of
surfaces all of them are. The pipelines exist on every nondegenerate output; where the transfer is
linear and a first power changes nothing, decoding and conversion are fused across the curve between
them. -/
theorem adjacent_matrices_fuse [IsStrictOrderedRing K] [Elementary K] (s : Color)
    (output : Output K) :
    (∀ (before after : List (Stage K)) (a b : Mat4 K), a.row3 = ⟨0, 0, 0, 1⟩ → ∀ v,
      (⟨before ++ .matrix a :: .matrix b :: after⟩ : Pipeline K).apply v =
        (⟨before ++ .matrix (b * a) :: after⟩ : Pipeline K).apply v) ∧
    (∀ p, (s.pipelineTo output = .ok p ∨ ∃ k, s.ycbcrPipelineTo k output = .ok p) →
      ∀ m, .matrix m ∈ p.stages → m.row3 = ⟨0, 0, 0, 1⟩) ∧
    (output.colorspace.Nondegenerate → (∃ p, s.pipelineTo output = .ok p) ∧
      ∀ k, 0 < k → ∃ p, s.ycbcrPipelineTo k output = .ok p) ∧
    ((∀ x : K, 0 ≤ x → Elementary.pow x 1 = x) → s.transfer = .linear →
      (∀ v : Rgb K, s.decodingCurve.applyRgb v = v) ∧
      ∀ k p, s.ycbcrPipelineTo k output = .ok p → ∃ d csc, s.ycbcrToRgb k = .ok d ∧
        s.cscTo output.colorspace output.luminanceScale = .ok csc ∧
        p.stages = .matrix d :: s.stagesWith output csc ∧
        ∀ v, p.apply v = (⟨[.matrix ((conversion output csc).elim d (· * d)),
          .curve (output.transfer.curve .encode)]⟩ : Pipeline K).apply v) := by
  refine ⟨?_, ?_, ?_, ?_⟩
  · intro before after a b ha
    exact Pipeline.apply_fuse before after ⟨ha⟩ b
  · rintro p (hp | ⟨k, hp⟩) m hm
    · exact (isAffine_pipelineTo hp m hm).row3
    · exact (isAffine_ycbcrPipelineTo hp m hm).row3
  · intro h
    exact ⟨s.exists_pipelineTo h, fun k => s.exists_ycbcrPipelineTo h⟩
  · intro hpow hlinear
    refine ⟨decodingCurve_applyRgb_of_linear hpow hlinear, ?_⟩
    intro k p hp
    obtain ⟨d, csc, hd, hcsc, rfl⟩ := exists_of_ycbcrPipelineTo hp
    exact ⟨d, csc, hd, hcsc, rfl,
      apply_ycbcrPipelineTo_linear hpow hlinear (isAffine_ycbcrToRgb hd) csc⟩

/-- A BT.709 surface with linear transfer, eight bits in sixteen, on a BT.2020 output with the
perceptual quantizer and twice the light. -/
theorem adjacent_matrices_fuse_bt709 :
    let s : Color := ⟨.bt709, .linear, .bt709, .limited⟩
    let output : Output ℝ := ⟨.bt2020, .st2084, 2⟩
    ∃ p d m, s.ycbcrPipelineTo 257 output = .ok p ∧ s.ycbcrToRgb 257 = .ok d ∧
      s.cscTo .bt2020 2 = .ok (some m) ∧
      p.stages = [.matrix d, .curve s.decodingCurve, .matrix m,
        .curve (TransferFunction.st2084.curve .encode)] ∧
      (d.row3 = ⟨0, 0, 0, 1⟩ ∧ m.row3 = ⟨0, 0, 0, 1⟩) ∧
      (∀ v, (⟨[.matrix d, .matrix m]⟩ : Pipeline ℝ).apply v =
        (⟨[.matrix (m * d)]⟩ : Pipeline ℝ).apply v) ∧
      ∀ v, p.apply v = (⟨[.matrix (m * d), .curve (TransferFunction.st2084.curve .encode)]⟩ :
        Pipeline ℝ).apply v := by
  intro s output
  have hdst : (Colorspace.bt2020 : Colorspace ℝ).Nondegenerate :=
    Colorspace.nondegenerate_of_mem_table (by simp [Colorspace.table])
  obtain ⟨hfuse, haffine, hexists, hlinear⟩ := adjacent_matrices_fuse s output
  obtain ⟨p, hp⟩ := (hexists hdst).2 257 (by norm_num)
  obtain ⟨-, hone⟩ := hlinear (fun x _ => Real.rpow_one x) rfl
  obtain ⟨d, csc, hd, hcsc, hstages, happly⟩ := hone 257 p hp
  have hsrc : (s.colorspace? : Option (Colorspace ℝ)) = some .bt709 := rfl
  obtain ⟨m, rfl, -⟩ := exists_of_cscTo hsrc hcsc
  have hrow := haffine p (.inr ⟨257, hp⟩)
  rw [hstages] at hrow
  have hd3 : d.row3 = ⟨0, 0, 0, 1⟩ := hrow d (.head _)
  have hm3 : m.row3 = ⟨0, 0, 0, 1⟩ := hrow m (.tail _ (matrix_mem_stagesWith.mpr rfl))
  exact ⟨p, d, m, hp, hd, hcsc, hstages, ⟨hd3, hm3⟩, hfuse [] [] d m hd3, happly⟩

end Color
end Colorimetry.Surface
