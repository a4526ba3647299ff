import Colorimetry.Surface.Color

/-!
# The way of a sample

A renderer takes every sample of a surface through the same stages:

1. from stored YCbCr to RGB, if the buffer holds YCbCr;
2. from the transfer function of the surface to linear light;
3. from the colorspace of the surface to that of the output, scaled;
4. from linear light to the transfer function of the output.

`Pipeline` is a list of stages and `Pipeline.apply` the value of a sample at its end. A stage that
clamps has a range for each channel; a channel whose range is empty has no value to clamp to, and
the sample then has no value at all.
-/

namespace Colorimetry.Surface

/-- A stage of a pipeline. -/
inductive Stage (α : Type) where
  /-- An affine map of the sample. -/
  | matrix (m : Mat4 α)
  /-- A curve on each channel. -/
  | curve (c : Transfer.Curve α)
  /-- A range for each channel. -/
  | clamp (lower upper : Rgb α)
  deriving Repr

/-- A stage asks for a value between bounds that leave none. -/
structure EmptyRange (α : Type) where
  /-- The lower bound. -/
  lower : α
  /-- The upper bound. -/
  upper : α
  deriving Repr

/-- A sequence of stages, the first applied first. -/
structure Pipeline (α : Type) where
  /-- The stages. -/
  stages : List (Stage α) := []
  deriving Repr

/-- The value in a range that is nearest to a given one. A value that is not ordered with the
bounds stays as it is. -/
def clampTo {α : Type} [Scalar α] (lower upper x : α) : Except (EmptyRange α) α :=
  if lower ≤ upper then .ok (if x < lower then lower else if upper < x then upper else x)
  else .error ⟨lower, upper⟩

/-- The value of a sample after a stage. -/
def Stage.apply {α : Type} [Scalar α] [Elementary α] (v : Rgb α) :
    Stage α → Except (EmptyRange α) (Rgb α)
  | .matrix m => .ok (m.convertRgb v)
  | .curve c => .ok (c.applyRgb v)
  | .clamp lower upper => do
    return ⟨← clampTo lower.r upper.r v.r, ← clampTo lower.g upper.g v.g,
      ← clampTo lower.b upper.b v.b⟩

namespace Pipeline

section Building

variable {α : Type}

/-- A pipeline with one stage more. -/
def push (p : Pipeline α) (stage : Stage α) : Pipeline α := ⟨p.stages ++ [stage]⟩

/-- A pipeline with a matrix more. -/
def matrix (p : Pipeline α) (m : Mat4 α) : Pipeline α := p.push (.matrix m)

/-- A pipeline with a curve more. -/
def curve (p : Pipeline α) (c : Transfer.Curve α) : Pipeline α := p.push (.curve c)

/-- A pipeline with a clamp more. -/
def clamp (p : Pipeline α) (lower upper : Rgb α) : Pipeline α := p.push (.clamp lower upper)

/-- A pipeline with a clamp to the unit interval more. -/
def clampUnit [Arithmetic α] (p : Pipeline α) : Pipeline α := p.clamp (.gray 0) (.gray 1)

/-- The number of stages. -/
def length (p : Pipeline α) : Nat := p.stages.length

/-- Whether there is no stage. -/
def isEmpty (p : Pipeline α) : Bool := p.stages.isEmpty

end Building

/-- **The value of a sample at the end of a pipeline.** -/
def apply {α : Type} [Scalar α] [Elementary α] (p : Pipeline α) (v : Rgb α) :
    Except (EmptyRange α) (Rgb α) :=
  p.stages.foldlM (fun v stage => stage.apply v) v

end Pipeline

/-! ### Pipelines of surfaces -/

/-- What a surface is shown on. -/
structure Output (α : Type) where
  /-- The colorspace. -/
  colorspace : Colorspace α
  /-- The transfer function. -/
  transfer : TransferFunction
  /-- The factor of linear light. -/
  luminanceScale : α
  deriving Repr

/-- An output with a factor of one. -/
def Output.unit {α : Type} [Arithmetic α] (colorspace : Colorspace α)
    (transfer : TransferFunction) : Output α :=
  ⟨colorspace, transfer, 1⟩

namespace Color

variable {α : Type} [Scalar α]

/-- The stages behind the decoding of stored samples, appended to a pipeline. Undefined
chromaticities need no conversion, but the factor of the output applies to them too. -/
def appendStages (s : Color) (output : Output α) (p : Pipeline α) :
    Except (Error α) (Pipeline α) := do
  let linear := p.curve s.decodingCurve
  let scale := output.luminanceScale
  let converted := match ← s.cscTo output.colorspace scale with
    | some m => linear.matrix m
    | none => if scale != 1 then linear.matrix (.scaling scale scale scale) else linear
  return converted.curve (output.transfer.curve .encode)

/-- The pipeline of RGB samples. -/
def pipelineTo (s : Color) (output : Output α) : Except (Error α) (Pipeline α) :=
  s.appendStages output {}

/-- The pipeline of stored YCbCr samples. -/
def ycbcrPipelineTo (s : Color) (multiplier : α) (output : Output α) :
    Except (Error α) (Pipeline α) := do
  let decode ← s.ycbcrToRgb multiplier
  s.appendStages output (({} : Pipeline α).matrix decode)

end Color

end Colorimetry.Surface
