import Colorimetry.Text.Quoted

/-!
# Unknown names and invalid codes

Names of standards are matched exactly, upper and lower case apart, and codes on the wire must be
members of closed enumerations. `LookupError` says which name or code was refused and what it was
taken for. An error that names a standard (`LookupError.isLookup`) comes from a person or a
file, and one that carries a code (`LookupError.isWire`) from a client.
-/

namespace Colorimetry

/-- The enumerations that codes on the wire belong to. -/
inductive WireField where
  /-- Primaries and white point. -/
  | chromaticities
  /-- The transfer function. -/
  | transfer
  /-- The YCbCr encoding. -/
  | encoding
  /-- The quantization range. -/
  | quantization
  deriving DecidableEq, Repr

/-- How a message calls an enumeration. -/
def WireField.label : WireField → String
  | .chromaticities => "chromaticities"
  | .transfer => "transfer function"
  | .encoding => "encoding"
  | .quantization => "quantization"

/-- Why a name or a code stands for nothing. -/
inductive LookupError where
  /-- No transfer function has this name. -/
  | unknownTransfer (name : String)
  /-- No colorspace has this name. -/
  | unknownColorspace (name : String)
  /-- No YCbCr encoding has this name. -/
  | unknownEncoding (name : String)
  /-- The enumeration has no such code. -/
  | invalidCode (field : WireField) (code : Nat)
  /-- The code is valid but leaves the standard open. -/
  | undefined (field : WireField)
  deriving DecidableEq, Repr

namespace LookupError

/-- What a reader of the failure is told. -/
def message : LookupError → String
  | .unknownTransfer name => "unknown transfer function: " ++ Text.quote name
  | .unknownColorspace name => "unknown colorspace: " ++ Text.quote name
  | .unknownEncoding name => "unknown color encoding: " ++ Text.quote name
  | .invalidCode field code => "invalid " ++ field.label ++ " value: " ++ toString code
  | .undefined field => field.label ++ " is undefined"

/-- A name was not found. -/
def isLookup : LookupError → Bool
  | .unknownTransfer _ | .unknownColorspace _ | .unknownEncoding _ => true
  | .invalidCode .. | .undefined _ => false

/-- A code was refused. -/
def isWire : LookupError → Bool
  | .invalidCode .. | .undefined _ => true
  | .unknownTransfer _ | .unknownColorspace _ | .unknownEncoding _ => false

end LookupError

end Colorimetry
