import Colorimetry.Number.Binary

/-!
# Number literals

Decimal numbers as they are typed: an optional sign, digits with a point before, between or
behind them, and an optional power of ten; or one of the words `inf`, `infinity` and `nan`, in
either case. Blanks, separators and other bases are refused.

A literal denotes an exact decimal value, and is rounded only when it is used. The two readings
differ: `Literal.toFloat32` rounds the decimal value once, and `Literal.toFloat32ByDouble` rounds
it to a binary64 value first and that one to binary32. A decimal within half a binary64 place of
the middle between two binary32 values can tell them apart.
-/

namespace Colorimetry.Number

/-- The value that a literal denotes. -/
inductive Literal where
  /-- Not a number. -/
  | nan
  /-- Infinity of either sign. -/
  | infinite (negative : Bool)
  /-- A sign, significant digits and the power of ten that they are multiplied by. -/
  | decimal (negative : Bool) (digits : Nat) (exponent : Int)
  deriving DecidableEq, Repr

/-- Why a text is no number literal. -/
inductive LiteralError where
  /-- There is no text. -/
  | empty
  /-- The text does not have the form of a literal. -/
  | malformed
  deriving DecidableEq, Repr

/-- What a reader of the failure is told. -/
def LiteralError.message : LiteralError → String
  | .empty => "cannot parse float from empty string"
  | .malformed => "invalid float literal"

namespace Literal

/-- The number that a run of decimal digits stands for. -/
def natOfDigits (digits : List Char) : Nat :=
  digits.foldl (fun n c => 10 * n + (c.toNat - '0'.toNat)) 0

/-- A leading sign, and what follows it. -/
def splitSign : List Char → Bool × List Char
  | '-' :: rest => (true, rest)
  | '+' :: rest => (false, rest)
  | rest => (false, rest)

/-- The power of ten behind the digits; nothing at all is a power of zero. -/
def readExponent : List Char → Option Int
  | [] => some 0
  | c :: rest =>
    if c = 'e' ∨ c = 'E' then
      let (negative, digits) := splitSign rest
      if digits = [] ∨ !digits.all Char.isDigit then none
      else if negative then some (-(natOfDigits digits)) else some (natOfDigits digits)
    else none

/-- Digits with an optional point and power of ten. -/
def readDecimal (negative : Bool) (cs : List Char) : Option Literal :=
  let whole := cs.takeWhile Char.isDigit
  let (fraction, rest) := match cs.dropWhile Char.isDigit with
    | '.' :: rest => (rest.takeWhile Char.isDigit, rest.dropWhile Char.isDigit)
    | rest => ([], rest)
  if whole = [] ∧ fraction = [] then none
  else (readExponent rest).map fun e =>
    .decimal negative (natOfDigits (whole ++ fraction)) (e - fraction.length)

/-- A literal without its sign. -/
def readUnsigned (negative : Bool) (cs : List Char) : Option Literal :=
  let lower := cs.map Char.toLower
  if lower = "inf".toList ∨ lower = "infinity".toList then some (.infinite negative)
  else if lower = "nan".toList then some .nan
  else readDecimal negative cs

/-- **The value of a number literal.** -/
def read (s : String) : Except LiteralError Literal :=
  if s.isEmpty then .error .empty
  else
    let (negative, cs) := splitSign s.toList
    match readUnsigned negative cs with
    | some literal => .ok literal
    | none => .error .malformed

/-- The bits of a decimal magnitude in a format. A decimal whose first digit stands above
`10 ^ 400` or below `10 ^ -400` is beyond both formats, and is not expanded. -/
def roundDecimal (f : Format) (digits : Nat) (exponent : Int) : Nat :=
  let first := exponent + (Nat.toDigits 10 digits).length
  if digits = 0 ∨ first < -400 then 0
  else if 400 < first then f.infinity
  else
    let (num, den) := tens digits exponent
    f.round num den

/-- The binary32 value nearest to a literal. -/
def toFloat32 : Literal → Float32
  | .nan => float32NaN
  | .infinite negative => float32OfBits negative Format.binary32.infinity
  | .decimal negative digits exponent =>
    float32OfBits negative (roundDecimal .binary32 digits exponent)

/-- The bits of the binary32 magnitude nearest to a binary64 magnitude. -/
def narrow (bits : Nat) : Nat :=
  if Format.binary64.infinity ≤ bits then Format.binary32.infinity
  else
    let v := Format.binary64.magnitude bits
    let (num, den) := shifted v.mantissa v.exponent
    Format.binary32.round num den

/-- The bits of the binary64 magnitude nearest to a literal. -/
def doubleBits : Literal → Nat
  | .nan => Format.binary64.infinity
  | .infinite _ => Format.binary64.infinity
  | .decimal _ digits exponent => roundDecimal .binary64 digits exponent

/-- The binary32 value nearest to the binary64 value nearest to a literal. -/
def toFloat32ByDouble : Literal → Float32
  | .nan => float32NaN
  | .infinite negative => float32OfBits negative Format.binary32.infinity
  | .decimal negative digits exponent =>
    float32OfBits negative (narrow (roundDecimal .binary64 digits exponent))

end Literal

/-- The binary32 value nearest to a natural number. -/
def float32OfNat (n : Nat) : Float32 := float32OfBits false (Format.binary32.round n 1)

end Colorimetry.Number
