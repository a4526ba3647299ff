import Colorimetry.Error

/-!
# Standards on the wire

A client describes a surface with two requests. One carries chromaticities and a transfer
function, the other a YCbCr encoding and a quantization range, each as a small integer. The four
enumerations of this module are what these integers stand for. `all` lists the values of an
enumeration in the order of their codes, so that the code of a value is its place in the list and
`ofCode` is a look-up in it; a code beyond the list is refused.

Each value has the name under which the tables of this library know its standard. Undefined
chromaticities have no name, since there is nothing to convert; an undefined encoding has one,
since samples must be decoded somehow, and BT.601 is what an unspecified stream is taken for.
-/

namespace Colorimetry.Wire

/-- Primaries and white point of a surface. -/
inductive Chromaticities where
  /-- Not specified by the client. -/
  | undefined
  /-- ITU-R BT.470 System M. -/
  | bt470m
  /-- ITU-R BT.470 System B, G. -/
  | bt470bg
  /-- SMPTE 170M. -/
  | smpte170m
  /-- ITU-R BT.709, shared by sRGB. -/
  | bt709
  /-- ITU-R BT.2020. -/
  | bt2020
  /-- Adobe RGB (1998). -/
  | adobeRgb
  /-- DCI-P3 with the DCI white. -/
  | dciP3
  /-- ProPhoto RGB. -/
  | proPhotoRgb
  /-- CIE 1931 RGB. -/
  | cieRgb
  /-- CIE 1931 XYZ. -/
  | cieXyz
  /-- ACES primaries #0. -/
  | acesAp0
  /-- ACES primaries #1. -/
  | acesAp1
  deriving DecidableEq, Repr, Inhabited

namespace Chromaticities

/-- Every value, in the order of the codes. -/
def all : List Chromaticities :=
  [undefined, bt470m, bt470bg, smpte170m, bt709, bt2020, adobeRgb, dciP3, proPhotoRgb, cieRgb,
    cieXyz, acesAp0, acesAp1]

/-- The code of a value. -/
def code (c : Chromaticities) : Nat := all.idxOf c

/-- The name of the colorspace, unless the client left it open. -/
def name? : Chromaticities → Option String
  | undefined => none
  | bt470m => some "BT.470 M"
  | bt470bg => some "BT.470 B/G"
  | smpte170m => some "SMPTE 170M"
  | bt709 => some "BT.709"
  | bt2020 => some "BT.2020"
  | adobeRgb => some "AdobeRGB"
  | dciP3 => some "DCI-P3"
  | proPhotoRgb => some "ProPhotoRGB"
  | cieRgb => some "CIE RGB"
  | cieXyz => some "CIE XYZ"
  | acesAp0 => some "ACES AP0"
  | acesAp1 => some "ACES AP1"

/-- The name of the colorspace, or the error that there is none. -/
def requireName (c : Chromaticities) : Except LookupError String :=
  match c.name? with
  | some name => .ok name
  | none => .error (.undefined .chromaticities)

/-- How a report calls a value. -/
def label (c : Chromaticities) : String := c.name?.getD "Undefined"

/-- The value that a code stands for. -/
def ofCode (code : Nat) : Except LookupError Chromaticities :=
  match all[code]? with
  | some c => .ok c
  | none => .error (.invalidCode .chromaticities code)

/-- The value with a given name. -/
def ofName (name : String) : Except LookupError Chromaticities :=
  match all.find? fun c => c.name? == some name with
  | some c => .ok c
  | none => .error (.unknownColorspace name)

end Chromaticities

/-- Transfer function of a surface. -/
inductive Transfer where
  /-- Linear light. -/
  | linear
  /-- ITU-R BT.709. -/
  | bt709
  /-- SMPTE 240M. -/
  | smpte240m
  /-- IEC 61966-2-1 sRGB. -/
  | srgb
  /-- Adobe RGB (1998). -/
  | adobeRgb
  /-- DCI-P3. -/
  | dciP3
  /-- ProPhoto RGB. -/
  | proPhotoRgb
  /-- SMPTE ST 2084, the perceptual quantizer. -/
  | st2084
  /-- Hybrid log-gamma. -/
  | hlg
  deriving DecidableEq, Repr, Inhabited

namespace Transfer

/-- Every value, in the order of the codes. -/
def all : List Transfer :=
  [linear, bt709, smpte240m, srgb, adobeRgb, dciP3, proPhotoRgb, st2084, hlg]

/-- The code of a value. -/
def code (t : Transfer) : Nat := all.idxOf t

/-- The name of the transfer function. -/
def name : Transfer → String
  | linear => "Linear"
  | bt709 => "BT.709"
  | smpte240m => "SMPTE 240M"
  | srgb => "sRGB"
  | adobeRgb => "AdobeRGB"
  | dciP3 => "DCI-P3"
  | proPhotoRgb => "ProPhotoRGB"
  | st2084 => "ST2084"
  | hlg => "HLG"

/-- The value that a code stands for. -/
def ofCode (code : Nat) : Except LookupError Transfer :=
  match all[code]? with
  | some t => .ok t
  | none => .error (.invalidCode .transfer code)

/-- The value with a given name. -/
def ofName (name : String) : Except LookupError Transfer :=
  match all.find? fun t => t.name == name with
  | some t => .ok t
  | none => .error (.unknownTransfer name)

end Transfer

/-- YCbCr encoding of a surface. -/
inductive Encoding where
  /-- Not specified by the client; decoded as BT.601. -/
  | undefined
  /-- ITU-R BT.601. -/
  | bt601
  /-- ITU-R BT.709. -/
  | bt709
  /-- SMPTE 240M. -/
  | smpte240m
  /-- ITU-R BT.2020 with non-constant luminance. -/
  | bt2020
  deriving DecidableEq, Repr, Inhabited

namespace Encoding

/-- Every value, in the order of the codes. -/
def all : List Encoding := [undefined, bt601, bt709, smpte240m, bt2020]

/-- The code of a value. -/
def code (e : Encoding) : Nat := all.idxOf e

/-- The name of the encoding. -/
def name : Encoding → String
  | undefined => "BT.601"
  | bt601 => "BT.601"
  | bt709 => "BT.709"
  | smpte240m => "SMPTE 240M"
  | bt2020 => "BT.2020"

/-- The value that a code stands for. -/
def ofCode (code : Nat) : Except LookupError Encoding :=
  match all[code]? with
  | some e => .ok e
  | none => .error (.invalidCode .encoding code)

/-- The defined value with a given name. -/
def ofName (name : String) : Except LookupError Encoding :=
  match all.tail.find? fun e => e.name == name with
  | some e => .ok e
  | none => .error (.unknownEncoding name)

end Encoding

/-- Quantization range of YCbCr samples. -/
inductive Quantization where
  /-- Studio range: of 255 steps luma takes 16 to 235 and chroma 16 to 240. -/
  | limited
  /-- Every code value. -/
  | full
  deriving DecidableEq, Repr, Inhabited

namespace Quantization

/-- Every value, in the order of the codes. -/
def all : List Quantization := [limited, full]

/-- The code of a value. -/
def code (q : Quantization) : Nat := all.idxOf q

/-- Whether samples take every code value. -/
def isFull : Quantization → Bool
  | limited => false
  | full => true

/-- The range of samples that do or do not take every code value. -/
def ofFull (fullRange : Bool) : Quantization := if fullRange then full else limited

/-- How a report calls a value. -/
def label (q : Quantization) : String := if q.isFull then "full" else "limited"

/-- The value that a code stands for. -/
def ofCode (code : Nat) : Except LookupError Quantization :=
  match all[code]? with
  | some q => .ok q
  | none => .error (.invalidCode .quantization code)

end Quantization

end Colorimetry.Wire
