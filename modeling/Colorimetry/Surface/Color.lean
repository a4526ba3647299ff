import Colorimetry.CodePoints
import Colorimetry.Colorspace.Conversion
import Colorimetry.Surface.Error
import Colorimetry.Transfer.Curve
import Colorimetry.YCbCr

/-!
# The colour state of a surface

A client describes a surface with two requests, and `Surface.Color` holds what they have said. A
request (`Request`) comes with values or with the codes that a client sent, and one with an invalid
code is refused. Handling a request (`Color.handle`) sets one field after the other in a state that
is shared by all requests, and nothing takes back what has been set before a refusal (`Color.Change`).
So the codes are looked up before anything is set.

The rest of the module resolves the state into what a renderer needs: the curve that decodes
samples to linear light, the matrix that decodes stored YCbCr samples, and the conversion to an
output.
-/

namespace Colorimetry.Surface

/-- The colour state of a surface. A surface without any request has undefined chromaticities,
linear transfer, an undefined encoding and studio range. -/
structure Color where
  /-- Primaries and white point. -/
  chromaticities : Wire.Chromaticities := .undefined
  /-- The transfer function. -/
  transfer : Wire.Transfer := .linear
  /-- The YCbCr encoding. -/
  encoding : Wire.Encoding := .undefined
  /-- The quantization range. -/
  quantization : Wire.Quantization := .limited
  deriving DecidableEq, Repr, Inhabited

/-- What a client asks for. -/
inductive Request where
  /-- A colorspace by its values. -/
  | colorspace (chromaticities : Wire.Chromaticities) (transfer : Wire.Transfer)
  /-- A colorspace by the codes of its values. -/
  | colorspaceCodes (chromaticities transfer : Nat)
  /-- A YCbCr encoding by its values. -/
  | ycbcr (encoding : Wire.Encoding) (quantization : Wire.Quantization)
  /-- A YCbCr encoding by the codes of its values. -/
  | ycbcrCodes (encoding quantization : Nat)
  deriving DecidableEq, Repr

namespace Color

/-! ### Requests -/

/-- A computation on the state of a surface that may be refused. **What it has set stays set**, also
where it is refused later. -/
abbrev Change (β : Type) := ExceptT LookupError (StateM Color) β

/-- What a computation comes to, and the state that it leaves, whichever it comes to. -/
def Change.runFrom {β : Type} (change : Change β) (s : Color) : Except LookupError β × Color :=
  (ExceptT.run change).run s

/-- Another colorspace is set. -/
def setColorspace (chromaticities : Wire.Chromaticities) (transfer : Wire.Transfer) :
    StateM Color Unit := do
  modify fun s => { s with chromaticities }
  modify fun s => { s with transfer }

/-- Another colorspace is set by the codes of its values. -/
def setColorspaceCodes (chromaticities transfer : Nat) : Change Unit := do
  let c ← Wire.Chromaticities.ofCode chromaticities
  let t ← Wire.Transfer.ofCode transfer
  setColorspace c t

/-- Another YCbCr encoding is set. -/
def setYcbcrEncoding (encoding : Wire.Encoding) (quantization : Wire.Quantization) :
    StateM Color Unit := do
  modify fun s => { s with encoding }
  modify fun s => { s with quantization }

/-- Another YCbCr encoding is set by the codes of its values. -/
def setYcbcrEncodingCodes (encoding quantization : Nat) : Change Unit := do
  let e ← Wire.Encoding.ofCode encoding
  let q ← Wire.Quantization.ofCode quantization
  setYcbcrEncoding e q

/-- **A request is handled**, or refused for the first code that is not valid. -/
def handle : Request → Change Unit
  | .colorspace chromaticities transfer => setColorspace chromaticities transfer
  | .colorspaceCodes chromaticities transfer => setColorspaceCodes chromaticities transfer
  | .ycbcr encoding quantization => setYcbcrEncoding encoding quantization
  | .ycbcrCodes encoding quantization => setYcbcrEncodingCodes encoding quantization

/-- The state that a request leaves, handled or refused. -/
def step (s : Color) (request : Request) : Color := ((handle request).runFrom s).2

/-- The state after a run of requests. -/
def run (s : Color) (requests : List Request) : Color := requests.foldl step s

/-- A new surface that is set at once. -/
def new (set : StateM Color Unit) : Color := (Id.run (set.run {})).2

/-- The state of a surface that shows a decoded stream. -/
def ofCodePoints (stream : CodePoints) : Color := new do
  setColorspace stream.chromaticities stream.transferFunction
  setYcbcrEncoding stream.encoding stream.quantization

/-! ### Resolution -/

section Resolution

variable {α : Type} [Arithmetic α]

/-- The transfer function. -/
def transferFunction (s : Color) : TransferFunction := .ofWire s.transfer

/-- The colorspace, unless the chromaticities are undefined. -/
def colorspace? (s : Color) : Option (Colorspace α) := Colorspace.ofWire? s.chromaticities

/-- The weights of luma. -/
def colorEncoding (s : Color) : ColorEncoding α := .ofWire s.encoding

/-- Whether YCbCr samples take every code value. -/
def isFullRange (s : Color) : Bool := s.quantization.isFull

/-- The curve that decodes samples to linear light. -/
def decodingCurve (s : Color) : Transfer.Curve α := s.transferFunction.curve .decode

/-- The curve that encodes linear light for the surface. -/
def encodingCurve (s : Color) : Transfer.Curve α := s.transferFunction.curve .encode

/-- The conversion of linear light to a colorspace, scaled; none for undefined chromaticities,
whose samples pass unconverted. -/
def cscTo (s : Color) (dst : Colorspace α) (scale : α) : Except (Error α) (Option (Mat4 α)) :=
  if s.chromaticities = .undefined then .ok none
  else
    match (s.colorspace? : Option (Colorspace α)) with
    | none => .error (.lookup (.unknownColorspace s.chromaticities.label))
    | some src => (Error.ofSingular (cscMatrix dst src scale)).map some

end Resolution

/-- A multiplier that a decoder can divide by. -/
def checkMultiplier {α : Type} [Scalar α] (k : α) : Except (Error α) α :=
  if Arithmetic.isFinite k && decide (0 < k) then .ok k else .error (.invalidMultiplier k)

/-- The matrix that decodes stored YCbCr samples. -/
def ycbcrToRgb {α : Type} [Scalar α] (s : Color) (multiplier : α) :
    Except (Error α) (Mat4 α) := do
  let k ← checkMultiplier multiplier
  Error.ofSingular (ycbcrToRgbMatrix s.colorEncoding k s.isFullRange)

end Color

end Colorimetry.Surface
