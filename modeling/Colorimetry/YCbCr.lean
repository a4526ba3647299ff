import Colorimetry.Linear.Inverse
import Colorimetry.Wire

/-!
# Luma and chroma

A YCbCr encoding is given by the weights of red and blue in luma; green takes the rest. Chroma is
the difference of blue, or red, and luma, scaled so that it fills an interval of length one around
zero, and moved by a half so that a sample is never negative. Studio range squeezes luma and
chroma into a part of the code values.

A code value may be stored in a wider container. The multiplier of a stream is the factor from a
stored sample to a code value between zero and one; `rgbToYcbcrMatrix` divides by it and
`ycbcrToRgbMatrix` is the inverse, so the two use it alike.
-/

namespace Colorimetry

/-- The weights of luma. -/
structure ColorEncoding (α : Type) where
  /-- The name of the standard. -/
  name : String
  /-- The weight of red. -/
  kr : α
  /-- The weight of blue. -/
  kb : α
  deriving Repr

variable {α : Type} [Arithmetic α]

namespace ColorEncoding

/-- The weight of green. -/
def kg (e : ColorEncoding α) : α := 1 - e.kr - e.kb

/-- From RGB to luma and chroma, without offset and at full range. -/
def unitMatrix (e : ColorEncoding α) : Mat4 α :=
  .linear
    e.kr e.kg e.kb
    (-0.5 * e.kr / (1 - e.kb)) (-0.5 * e.kg / (1 - e.kb)) 0.5
    0.5 (-0.5 * e.kg / (1 - e.kr)) (-0.5 * e.kb / (1 - e.kr))

/-! ### The table -/

/-- ITU-R BT.601. -/
def bt601 : ColorEncoding α := ⟨"BT.601", 0.299, 0.114⟩

/-- ITU-R BT.709. -/
def bt709 : ColorEncoding α := ⟨"BT.709", 0.2126, 0.0722⟩

/-- SMPTE 240M. -/
def smpte240m : ColorEncoding α := ⟨"SMPTE 240M", 0.212, 0.087⟩

/-- ITU-R BT.2020 with non-constant luminance. -/
def bt2020 : ColorEncoding α := ⟨"BT.2020", 0.2627, 0.0593⟩

/-- Every built-in encoding. -/
def table : List (ColorEncoding α) := [bt601, bt709, smpte240m, bt2020]

/-- The built-in encoding with a given name. -/
def find? (name : String) : Option (ColorEncoding α) := table.find? fun e => e.name == name

/-- The built-in encoding with a given name, or the error that there is none. -/
def require (name : String) : Except LookupError (ColorEncoding α) :=
  match find? name with
  | some e => .ok e
  | none => .error (.unknownEncoding name)

/-- The encoding that a client has named; one that is left open is BT.601. -/
def ofWire : Wire.Encoding → ColorEncoding α
  | .undefined => bt601
  | .bt601 => bt601
  | .bt709 => bt709
  | .smpte240m => smpte240m
  | .bt2020 => bt2020

end ColorEncoding

/-! ### Matrices of stored samples -/

/-- From RGB to code values, multiplied by a factor: unit luma and chroma, squeezed into studio
range if need be, moved to their offsets, and multiplied. -/
def encodeMatrix (e : ColorEncoding α) (factor : α) (fullRange : Bool) : Mat4 α :=
  let unit := e.unitMatrix
  let ranged := if fullRange then unit
    else unit.andScale (219.0 / 255.0) (112.0 / 128.0) (112.0 / 128.0)
  let offset := ranged.andOffset (if fullRange then 0 else 16.0 / 255.0) 0.5 0.5
  offset.andScale factor factor factor

/-- From RGB to stored samples. -/
def rgbToYcbcrMatrix (e : ColorEncoding α) (multiplier : α) (fullRange : Bool) : Mat4 α :=
  encodeMatrix e (1 / multiplier) fullRange

/-- From stored samples to RGB. -/
def ycbcrToRgbMatrix (e : ColorEncoding α) (multiplier : α) (fullRange : Bool) :
    Except (Singular α) (Mat4 α) :=
  (rgbToYcbcrMatrix e multiplier fullRange).requireInverse e.name

end Colorimetry
