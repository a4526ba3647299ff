import Colorimetry.Transfer.Record
import Colorimetry.Transfer.Pq
import Colorimetry.Transfer.Hlg
import Colorimetry.Wire
import Colorimetry.Linear.Vec4

/-!
# Transfer functions

`TransferFunction` is the closed set of the curves that are built in, and `Curve` one of them made
ready for a direction: a piecewise curve carries the record of that direction, and the two curves
of high dynamic range carry nothing, since their formulas are fixed.

There are two ways from a name to a value. `Curve.ofName` refuses a name that is not known, and
the curve it yields knows how it is evaluated. A renderer that keeps coefficient records looks
one up and evaluates it with `Record.encodeNamed` or `Record.decodeNamed`, which recognize the
closed forms by the name in the record. The two ways lead to the same values.
-/

namespace Colorimetry

/-- The transfer functions that are built in. -/
inductive TransferFunction where
  /-- ITU-R BT.709. -/
  | bt709
  /-- SMPTE 240M. -/
  | smpte240m
  /-- IEC 61966-2-1 sRGB. -/
  | srgb
  /-- Adobe RGB (1998). -/
  | adobeRgb
  /-- DCI-P3. -/
  | dciP3
  /-- ProPhoto RGB. -/
  | proPhotoRgb
  /-- SMPTE ST 2084. -/
  | st2084
  /-- No encoding. -/
  | linear
  /-- Hybrid log-gamma. -/
  | hlg
  deriving DecidableEq, Repr, Inhabited

namespace Transfer

/-- Whether a curve encodes or decodes. -/
inductive Direction where
  /-- From linear light to encoded values. -/
  | encode
  /-- From encoded values to linear light. -/
  | decode
  deriving DecidableEq, Repr

/-- How a report calls a direction. -/
def Direction.label : Direction → String
  | .encode => "gamma"
  | .decode => "degamma"

/-- How a curve is evaluated. -/
inductive Kind (α : Type) where
  /-- As a power law with a straight segment, with the coefficients of the direction. -/
  | piecewise (record : Record α)
  /-- As the perceptual quantizer. -/
  | pq
  /-- As hybrid log-gamma. -/
  | hlg
  deriving Repr

/-- How a report calls a kind of curve. -/
def Kind.label {α : Type} : Kind α → String
  | .piecewise _ => "piecewise"
  | .pq => "pq"
  | .hlg => "hlg"

/-- A transfer function made ready for one direction. -/
structure Curve (α : Type) where
  /-- The direction. -/
  direction : Direction
  /-- How it is evaluated. -/
  kind : Kind α
  deriving Repr

end Transfer

namespace TransferFunction

open Transfer

/-- Every transfer function, in the order of the coefficient table. -/
def all : List TransferFunction :=
  [bt709, smpte240m, srgb, adobeRgb, dciP3, proPhotoRgb, st2084, linear, hlg]

/-- The name of a transfer function. -/
def name : TransferFunction → String
  | bt709 => "BT.709"
  | smpte240m => "SMPTE 240M"
  | srgb => "sRGB"
  | adobeRgb => "AdobeRGB"
  | dciP3 => "DCI-P3"
  | proPhotoRgb => "ProPhotoRGB"
  | st2084 => "ST2084"
  | linear => "Linear"
  | hlg => "HLG"

/-- The transfer function with a given name. -/
def ofName? (name : String) : Option TransferFunction := all.find? fun tf => tf.name == name

/-- The transfer function with a given name, or the error that there is none. -/
def ofName (name : String) : Except LookupError TransferFunction :=
  match ofName? name with
  | some tf => .ok tf
  | none => .error (.unknownTransfer name)

/-- The transfer function that a client has named. -/
def ofWire : Wire.Transfer → TransferFunction
  | .linear => linear
  | .bt709 => bt709
  | .smpte240m => smpte240m
  | .srgb => srgb
  | .adobeRgb => adobeRgb
  | .dciP3 => dciP3
  | .proPhotoRgb => proPhotoRgb
  | .st2084 => st2084
  | .hlg => hlg

section Records

variable {α : Type} [Arithmetic α]

/-- The encoding record of a transfer function. -/
def record : TransferFunction → Record α
  | bt709 => .bt709
  | smpte240m => .smpte240m
  | srgb => .srgb
  | adobeRgb => .adobeRgb
  | dciP3 => .dciP3
  | proPhotoRgb => .proPhotoRgb
  | st2084 => .st2084
  | linear => .identity
  | hlg => .hlg

/-- How a transfer function is evaluated when it encodes. -/
def kind (tf : TransferFunction) : Kind α :=
  match tf with
  | st2084 => .pq
  | hlg => .hlg
  | tf => .piecewise tf.record

/-- A transfer function made ready for a direction. -/
def curve (tf : TransferFunction) (direction : Direction) : Curve α where
  direction := direction
  kind := match (tf.kind : Kind α), direction with
    | .piecewise c, .decode => .piecewise c.decoding
    | kind, _ => kind

end Records

end TransferFunction

namespace Transfer

namespace Curve

variable {α : Type}

/-- The curve of a name and a direction. -/
def ofName [Arithmetic α] (name : String) (direction : Direction) :
    Except LookupError (Curve α) :=
  (TransferFunction.ofName name).map fun tf => tf.curve direction

/-- The value of a curve. The input is not clamped. -/
def apply [Scalar α] [Elementary α] (c : Curve α) (x : α) : α :=
  match c.kind, c.direction with
  | .piecewise record, .encode => record.encode x
  | .piecewise record, .decode => record.decode x
  | .pq, .encode => Pq.encode x
  | .pq, .decode => Pq.decode x
  | .hlg, .encode => Hlg.encode x
  | .hlg, .decode => Hlg.decode x

/-- The values of a curve on the channels of a sample. -/
def applyRgb [Scalar α] [Elementary α] (c : Curve α) (v : Rgb α) : Rgb α := v.map c.apply

/-- The shader function that evaluates a curve. Those of piecewise curves take the coefficients
of the record as arguments. -/
def shaderFunction (c : Curve α) : String :=
  match c.kind, c.direction with
  | .piecewise _, .encode => "gamma"
  | .piecewise _, .decode => "degamma"
  | .pq, .encode => "st2084_inverse_eotf"
  | .pq, .decode => "st2084_eotf"
  | .hlg, .encode => "hlg_oetf"
  | .hlg, .decode => "hlg_eotf"

end Curve

/-! ### Evaluation by the name in a record -/

namespace Record

variable {α : Type} [Scalar α] [Elementary α]

/-- Linear light encoded with an encoding record, in closed form where the name in the record
demands it. -/
def encodeNamed (c : Record α) (l : α) : α :=
  if c.name = "ST2084" then Pq.encode l
  else if c.name = "HLG" then Hlg.encode l
  else c.encode l

/-- An encoded value decoded with a decoding record, in closed form where the name in the record
demands it. -/
def decodeNamed (c : Record α) (v : α) : α :=
  if c.name = "ST2084" then Pq.decode v
  else if c.name = "HLG" then Hlg.decode v
  else c.decode v

end Record

end Transfer

namespace TransferFunction

variable {α : Type} [Scalar α] [Elementary α]

/-- Linear light encoded. -/
def encode (tf : TransferFunction) (l : α) : α := (tf.curve .encode).apply l

/-- An encoded value decoded. -/
def decode (tf : TransferFunction) (v : α) : α := (tf.curve .decode).apply v

/-- The channels of a linear sample encoded. -/
def encodeRgb (tf : TransferFunction) (v : Rgb α) : Rgb α := (tf.curve .encode).applyRgb v

/-- The channels of an encoded sample decoded. -/
def decodeRgb (tf : TransferFunction) (v : Rgb α) : Rgb α := (tf.curve .decode).applyRgb v

end TransferFunction

end Colorimetry
