import Mathlib
import Colorimetry.Proofs.Exact.Agreement
import Colorimetry.Proofs.Surface.Multiplier
import Colorimetry.Proofs.Surface.Pipeline
import Colorimetry.Proofs.Surface.Resolution

/-!
# A pipeline is the composition of its stages

A pipeline is put together from stages some of which may be left out: the decoding of YCbCr, the
conversion, the factor of an output. This file shows what comes out all the same, in two steps.

* A pipeline of YCbCr samples is the decoding matrix followed by the pipeline of RGB samples
  (`Color.ycbcrPipelineTo_of_ok`). This is a matter of lists of stages, so it holds of all scalars,
  whatever their operations do.
* Over an exact field the pipeline of RGB samples decodes each channel, converts, multiplies by the
  factor of the output and encodes each channel (`Color.pipelineTo_eq_map`). A factor of one, which
  has no stage, and undefined chromaticities, which have no conversion, are no exceptions.

Not every pipeline exists. The decoding of YCbCr may be refused, which concerns only the pipeline
that starts with it. Beyond that a pipeline fails only with its conversion, on the matrix that has no
inverse, and then both fail in the same way (`Color.exists_singular_of_pipelineTo`).
-/

namespace Colorimetry

/-! ### The scale of a conversion -/

section Scale

variable {K : Type} [Field K] [DecidableEq K]

/-- A factor behind a matrix multiplies the image, whatever the last row of the matrix is. -/
theorem convertRgb_scaling_mul (s : K) (m : Mat4 K) (v : Rgb K) :
    (Mat4.scaling s s s * m).convertRgb v = (m.convertRgb v).map (s * ·) := by
  rw [Mat4.convertRgb, Mat4.transform_mul]
  ext <;> simp [Mat4.convertRgb, Mat4.transform, Mat4.scaling, Vec4.dot, Vec4.xyz, Rgb.map]

/-- **The scale of a conversion is the last factor**, so it has no part in whether the conversion
exists. -/
theorem cscMatrixWith_eq_map (dst src : Colorspace K) (s : K) (cone : ConeResponse) :
    cscMatrixWith dst src s cone =
      (cscMatrixWith dst src 1 cone).map (Mat4.scaling s s s * ·) := by
  cases hsrc : src.toXyzMatrix with
  | error e => simp [cscMatrixWith, hsrc, bind, Except.bind, Except.map]
  | ok m =>
    cases hcone : (cone.toXyz : Except (Singular K) (Mat4 K)) with
    | error e => simp [cscMatrixWith, hsrc, hcone, bind, Except.bind, Except.map]
    | ok back =>
      cases hdst : dst.ofXyzMatrix with
      | error e => simp [cscMatrixWith, hsrc, hcone, hdst, bind, Except.bind, Except.map]
      | ok n =>
        rw [cscMatrixWith_eq_ok hsrc hdst hcone, cscMatrixWith_eq_ok hsrc hdst hcone,
          Mat4.scaling_one, one_mul]
        rfl

end Scale

namespace Surface

/-! ### Optional stages -/

namespace Pipeline

variable {α : Type} [Scalar α] [Elementary α]

/-- A matrix that may be missing changes nothing where it is. -/
theorem apply_push? {p : Pipeline α} {v w : Rgb α} (h : p.apply v = .ok w) (m : Option (Mat4 α)) :
    (p.push? m).apply v = .ok (m.elim w (·.convertRgb w)) := by
  cases m with
  | none => exact h
  | some m => exact apply_matrix h m

end Pipeline

namespace Color

/-! ### From YCbCr to RGB -/

section Stages

variable {α : Type} [Scalar α] (s : Color) (output : Output α)

/-- The stages behind the decoding, once the conversion is known: two curves, and what is between
them. -/
def stagesWith (csc : Option (Mat4 α)) : List (Stage α) :=
  .curve s.decodingCurve :: ((conversion output csc).map Stage.matrix).toList ++
    [.curve (output.transfer.curve .encode)]

/-- They are appended to whatever stands before them. -/
theorem appendStages_eq_map (p : Pipeline α) :
    s.appendStages output p = (s.cscTo output.colorspace output.luminanceScale).map
      fun csc => ⟨p.stages ++ s.stagesWith output csc⟩ := by
  cases hcsc : s.cscTo output.colorspace output.luminanceScale with
  | error e =>
    rw [appendStages, hcsc]
    rfl
  | ok csc =>
    rw [appendStages_eq_ok hcsc]
    simp only [Except.map, stagesWith]
    cases conversion output csc <;>
      simp [Pipeline.push?, Pipeline.curve, Pipeline.matrix, Pipeline.push]

theorem pipelineTo_eq_map :
    s.pipelineTo output = (s.cscTo output.colorspace output.luminanceScale).map
      fun csc => ⟨s.stagesWith output csc⟩ :=
  s.appendStages_eq_map output {}

variable {s} {k : α}

/-- A decoding that fails makes the whole pipeline fail. -/
theorem ycbcrPipelineTo_of_error {e : Error α} (h : s.ycbcrToRgb k = .error e) :
    s.ycbcrPipelineTo k output = .error e := by
  rw [ycbcrPipelineTo, h]
  rfl

/-- **The pipeline of YCbCr samples** decodes, and goes on like the pipeline of RGB samples. -/
theorem ycbcrPipelineTo_of_ok {d : Mat4 α} (h : s.ycbcrToRgb k = .ok d) :
    s.ycbcrPipelineTo k output = (s.pipelineTo output).map fun rgb => ⟨.matrix d :: rgb.stages⟩ := by
  have happend := s.appendStages_eq_map output (({} : Pipeline α).matrix d)
  rw [ycbcrPipelineTo, h, pipelineTo_eq_map]
  refine happend.trans ?_
  cases s.cscTo output.colorspace output.luminanceScale <;> rfl

/-- The conversion of defined chromaticities. -/
theorem cscTo_of_colorspace? {src : Colorspace α} (h : s.colorspace? = some src)
    (dst : Colorspace α) (scale : α) :
    s.cscTo dst scale = (Error.ofSingular (cscMatrix dst src scale)).map some := by
  have hdefined : s.chromaticities ≠ .undefined := by
    intro hundefined
    rw [colorspace?, hundefined] at h
    cases h
  rw [cscTo, if_neg hdefined, h]

/-- The chromaticities of a surface without a colorspace are undefined. -/
theorem cscTo_of_colorspace?_eq_none (h : (s.colorspace? : Option (Colorspace α)) = none)
    (dst : Colorspace α) (scale : α) : s.cscTo dst scale = .ok none := by
  refine cscTo_of_undefined ?_ dst scale
  by_contra hdefined
  obtain ⟨src, -, hsrc⟩ := exists_colorspace?_eq_some (α := α) hdefined
  rw [h] at hsrc
  cases hsrc

variable {output}

/-- **The only error of a pipeline is that of a singular conversion.** The error of an unknown
colorspace does not occur. -/
theorem exists_singular_of_pipelineTo {e : Error α} (h : s.pipelineTo output = .error e) :
    ∃ src cause, s.colorspace? = some src ∧
      cscMatrix output.colorspace src output.luminanceScale = .error cause ∧
      e = .singular cause := by
  rw [pipelineTo_eq_map] at h
  cases hsrc : (s.colorspace? : Option (Colorspace α)) with
  | none =>
    rw [cscTo_of_colorspace?_eq_none hsrc] at h
    cases h
  | some src =>
    rw [cscTo_of_colorspace? hsrc] at h
    cases hmatrix : cscMatrix output.colorspace src output.luminanceScale with
    | ok m =>
      rw [hmatrix] at h
      cases h
    | error cause =>
      rw [hmatrix] at h
      cases h
      exact ⟨src, cause, rfl, hmatrix, rfl⟩

end Stages

/-! ### The composition over an exact field -/

/-- The matrix from linear light of a surface to linear light of a colorspace, the identity where the
chromaticities are undefined. -/
def linearMatrix {α : Type} [Arithmetic α] (s : Color) (dst : Colorspace α) :
    Except (Error α) (Mat4 α) :=
  match (s.colorspace? : Option (Colorspace α)) with
  | some src => Error.ofSingular (cscMatrix dst src 1)
  | none => .ok .identity

section Exact

variable {K : Type} [Field K] [LinearOrder K]

/-- Without a conversion what is between the curves is the factor alone, and a factor of one may be
left out. -/
theorem conversion_none (output : Output K) (w : Rgb K) :
    (conversion output none).elim w (·.convertRgb w) =
      (Mat4.identity.convertRgb w).map (output.luminanceScale * ·) := by
  rw [← convertRgb_scaling_mul]
  by_cases hscale : output.luminanceScale = 1
  · have hnone : conversion output none = none := by
      simp [conversion, hscale]
    rw [hnone, hscale, Mat4.scaling_one, one_mul]
    exact congrArg Vec4.xyz (Mat4.transform_one (.ofRgb w)).symm
  · have hsome : conversion output none = some
        (.scaling output.luminanceScale output.luminanceScale output.luminanceScale) := by
      simp [conversion, hscale]
    rw [hsome]
    exact congrArg (Mat4.convertRgb · w) (mul_one _).symm

/-- **What is between the curves**: the matrix of linear light and the factor, or the error that
there is no such matrix. -/
theorem linearMatrix_cases (s : Color) (output : Output K) :
    (∃ e, s.cscTo output.colorspace output.luminanceScale = .error e ∧
      s.linearMatrix output.colorspace = .error e) ∨
    ∃ csc m, s.cscTo output.colorspace output.luminanceScale = .ok csc ∧
      s.linearMatrix output.colorspace = .ok m ∧
      ∀ w, (conversion output csc).elim w (·.convertRgb w) =
        (m.convertRgb w).map (output.luminanceScale * ·) := by
  cases hsrc : (s.colorspace? : Option (Colorspace K)) with
  | none =>
    refine .inr ⟨none, .identity, cscTo_of_colorspace?_eq_none hsrc _ _, ?_, conversion_none output⟩
    rw [linearMatrix, hsrc]
  | some src =>
    have hscale := cscMatrixWith_eq_map output.colorspace src output.luminanceScale .bradford
    rw [cscTo_of_colorspace? hsrc, linearMatrix, hsrc]
    simp only [cscMatrix]
    rw [hscale]
    cases cscMatrixWith output.colorspace src 1 .bradford with
    | error cause => exact .inl ⟨.singular cause, rfl, rfl⟩
    | ok m => exact .inr ⟨_, m, rfl, rfl, convertRgb_scaling_mul output.luminanceScale m⟩

variable [Elementary K]

/-- **The pipeline of RGB samples** decodes, converts, multiplies and encodes. -/
theorem pipelineTo_eq_ok {s : Color} {output : Output K} {m : Mat4 K}
    (h : s.linearMatrix output.colorspace = .ok m) :
    ∃ p, s.pipelineTo output = .ok p ∧ ∀ v, p.apply v = .ok (output.transfer.encodeRgb
      ((m.convertRgb (s.transferFunction.decodeRgb v)).map (output.luminanceScale * ·))) := by
  rcases s.linearMatrix_cases output with ⟨e, -, herror⟩ | ⟨csc, m', hcsc, hm, hbetween⟩
  · rw [h] at herror
    cases herror
  · -- the stages are applied one after the other, a missing one as if it were there
    obtain rfl : m = m' := Except.ok.inj (h.symm.trans hm)
    refine ⟨_, appendStages_eq_ok hcsc {}, fun v => ?_⟩
    have hlinear := Pipeline.apply_curve (Pipeline.apply_empty v) s.decodingCurve
    refine (Pipeline.apply_curve (Pipeline.apply_push? hlinear _) _).trans ?_
    rw [hbetween]
    rfl

omit [Elementary K] in
theorem pipelineTo_eq_error {s : Color} {output : Output K} {e : Error K}
    (h : s.linearMatrix output.colorspace = .error e) : s.pipelineTo output = .error e := by
  rcases s.linearMatrix_cases output with ⟨e', hcsc, herror⟩ | ⟨csc, m, -, hm, -⟩
  · obtain rfl : e = e' := Except.error.inj (h.symm.trans herror)
    rw [pipelineTo_eq_map, hcsc]
    rfl
  · rw [h] at hm
    cases hm

end Exact

/-! ### Both together -/

/-- **A pipeline is the composition of its stages.** For all scalars: a decoding matrix followed by
the pipeline of RGB samples is the pipeline of YCbCr samples, unless the conversion fails, in which
case neither exists; a decoding that fails is the failure of the pipeline; and the pipeline of RGB
samples fails only with its conversion. Over an exact field that pipeline decodes, converts,
multiplies by the factor of the output and encodes. -/
theorem pipelines_compose {α K : Type} [Scalar α] [Elementary α] [Field K] [LinearOrder K]
    [Elementary K] (s : Color) (k : α) (output : Output α) (exact : Output K) :
    (∀ d, s.ycbcrToRgb k = .ok d →
      (∃ p q, s.pipelineTo output = .ok p ∧ s.ycbcrPipelineTo k output = .ok q ∧
        ∀ v, q.apply v = p.apply (d.convertRgb v)) ∨
      ∃ cause, s.pipelineTo output = .error (.singular cause) ∧
        s.ycbcrPipelineTo k output = .error (.singular cause)) ∧
    (∀ e, s.ycbcrToRgb k = .error e → s.ycbcrPipelineTo k output = .error e) ∧
    (∀ e, s.pipelineTo output = .error e → ∃ src cause, s.colorspace? = some src ∧
      cscMatrix output.colorspace src output.luminanceScale = .error cause ∧
      e = .singular cause) ∧
    (∀ e, s.linearMatrix exact.colorspace = .error e → s.pipelineTo exact = .error e) ∧
    ∀ m, s.linearMatrix exact.colorspace = .ok m → ∃ p, s.pipelineTo exact = .ok p ∧
      ∀ v, p.apply v = .ok (exact.transfer.encodeRgb
        ((m.convertRgb (s.transferFunction.decodeRgb v)).map (exact.luminanceScale * ·))) := by
  refine ⟨?_, fun _ => ycbcrPipelineTo_of_error output, fun _ => exists_singular_of_pipelineTo,
    fun _ => pipelineTo_eq_error, fun _ => pipelineTo_eq_ok⟩
  intro d hd
  rw [ycbcrPipelineTo_of_ok output hd]
  cases hp : s.pipelineTo output with
  | ok p => exact .inl ⟨p, _, rfl, rfl, fun _ => rfl⟩
  | error e =>
    obtain ⟨-, cause, -, -, rfl⟩ := exists_singular_of_pipelineTo hp
    exact .inr ⟨cause, rfl, rfl⟩

/-- A BT.2020 surface with the perceptual quantizer, ten bits in sixteen, on an output of standard
range that halves the light; and the same surface over the reals, on an output of its own
colorspace. -/
theorem pipelines_compose_bt2020 :
    let s : Color := ⟨.bt2020, .st2084, .bt2020, .limited⟩
    let output : Output Float32 := ⟨.bt709, .srgb, 0.5⟩
    let exact : Output ℝ := ⟨.bt2020, .hlg, 2⟩
    (∃ d p q, s.ycbcrToRgb 64.06158 = .ok d ∧ s.pipelineTo output = .ok p ∧
      s.ycbcrPipelineTo 64.06158 output = .ok q ∧ ∀ v, q.apply v = p.apply (d.convertRgb v)) ∧
    s.ycbcrPipelineTo (-1) output = .error (.invalidMultiplier (-1)) ∧
    ∃ p, s.pipelineTo exact = .ok p ∧ ∀ v, p.apply v = .ok (TransferFunction.hlg.encodeRgb
      ((Mat4.identity.convertRgb (TransferFunction.st2084.decodeRgb v)).map (2 * ·))) := by
  intro s output exact
  have hdecoding : (s.ycbcrToRgb (64.06158 : Float32)).isOk = true := by decide +kernel
  have hpipeline : (s.pipelineTo output).isOk = true := by decide +kernel
  have hlinear : s.linearMatrix exact.colorspace = .ok .identity := by
    have hvalid : (.bt2020 : Colorspace ℝ).Valid .bradford :=
      Colorspace.valid_of_mem_table (by simp [Colorspace.table]) .bradford
    have hself := cscMatrixWith_self hvalid 1
    change Error.ofSingular (cscMatrixWith .bt2020 .bt2020 1 .bradford) = _
    rw [hself]
    rfl
  obtain ⟨hok, hrefused, -, -, hexact⟩ := pipelines_compose s (64.06158 : Float32) output exact
  refine ⟨?_, (pipelines_compose s (-1 : Float32) output exact).2.1 _ ?_, hexact _ hlinear⟩
  · cases hd : s.ycbcrToRgb (64.06158 : Float32) with
    | error e =>
      rw [hd] at hdecoding
      cases hdecoding
    | ok d =>
      rcases hok d hd with ⟨p, q, hp, hq, happly⟩ | ⟨cause, hsingular, -⟩
      · exact ⟨d, p, q, rfl, hp, hq, happly⟩
      · rw [hsingular] at hpipeline
        cases hpipeline
  · exact s.ycbcrToRgb_of_not_accepted (by decide +kernel)

/-- **On an output without area a decoding matrix is not enough**: with primaries on one line there is
no pipeline, although the samples can be decoded. -/
theorem ycbcrPipelineTo_without_area :
    let s : Color := ⟨.bt709, .bt709, .bt709, .limited⟩
    let flat : Colorspace Float32 :=
      ⟨"flat", ⟨0.25, 0.5⟩, ⟨0.25, 0.25⟩, ⟨0.5, 0.25⟩, ⟨0.75, 0.25⟩⟩
    (∃ d, s.ycbcrToRgb (1 : Float32) = .ok d) ∧
      ¬∃ p, s.ycbcrPipelineTo 1 (.unit flat .linear) = .ok p := by
  intro s flat
  have hdecoding : (s.ycbcrToRgb (1 : Float32)).isOk = true := by decide +kernel
  have hpipeline : (s.ycbcrPipelineTo 1 (.unit flat .linear)).isOk = false := by decide +kernel
  constructor
  · cases hd : s.ycbcrToRgb (1 : Float32) with
    | ok d => exact ⟨d, rfl⟩
    | error e =>
      rw [hd] at hdecoding
      cases hdecoding
  · rintro ⟨p, hp⟩
    rw [hp] at hpipeline
    cases hpipeline

end Color
end Surface
end Colorimetry
