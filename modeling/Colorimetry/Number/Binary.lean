import Colorimetry.Number.Rounding

/-!
# Binary floating-point formats

What the bits of a binary32 or binary64 value stand for, and which bits stand for the value
nearest to a given fraction. A format is three numbers (`Format`): its precision, its finest
grid and the pattern of its infinity. The patterns of the non-negative values, read as natural
numbers, are in the order of the values, and the first pattern above them all is that of
infinity; so a magnitude that is too great rounds to infinity by taking a minimum
(`Format.round`).

`Magnitude` is an exact non-negative value `mantissa * 2 ^ exponent`, and `Value` what a pattern
of bits stands for.
-/

namespace Colorimetry.Number

/-- An exact non-negative binary value. -/
structure Magnitude where
  /-- The integer significand. -/
  mantissa : Nat
  /-- The power of two that it is multiplied by. -/
  exponent : Int
  deriving DecidableEq, Repr

/-- What the bits of a floating-point number stand for. -/
inductive Value where
  /-- Not a number. -/
  | nan
  /-- Beyond every finite value, on one side. -/
  | infinite (negative : Bool)
  /-- A sign and a magnitude; zero has either sign. -/
  | finite (negative : Bool) (magnitude : Magnitude)
  deriving DecidableEq, Repr

/-- A binary floating-point format. -/
structure Format where
  /-- Bits of the significand, the leading one included. -/
  precision : Nat
  /-- Every value is a multiple of `2 ^ -lowest`. -/
  lowest : Nat
  /-- The bits of positive infinity. -/
  infinity : Nat
  deriving DecidableEq, Repr

namespace Format

/-- Thirty-two bits. -/
def binary32 : Format := ⟨24, 149, 0x7f800000⟩

/-- Sixty-four bits. -/
def binary64 : Format := ⟨53, 1074, 0x7ff0000000000000⟩

/-- The significand of the least value that has full precision. -/
def leading (f : Format) : Nat := Nat.pow 2 (f.precision - 1)

/-- The magnitude that a pattern below infinity stands for. -/
def magnitude (f : Format) (bits : Nat) : Magnitude :=
  match bits / f.leading with
  | 0 => ⟨bits, -f.lowest⟩
  | field + 1 => ⟨f.leading + bits % f.leading, field - f.lowest⟩

/-- The exponent at which a fraction is rounded: the significand is then at least
`Format.leading`, unless the finest grid is reached first. -/
def exponentOf (f : Format) (num den : Nat) : Int :=
  let guess : Int := num.log2 - den.log2 - (f.precision - 1 : Nat)
  let (n, d) := shifted num (-guess)
  max (-f.lowest) (if n < f.leading * (d * den) then guess - 1 else guess)

/-- **The bits of the value nearest to `num / den`**, a tie going to the even significand. -/
def round (f : Format) (num den : Nat) : Nat :=
  if num = 0 then 0
  else
    let e := f.exponentOf num den
    let (n, d) := shifted num (-e)
    min f.infinity ((e + f.lowest).toNat * f.leading + roundDiv .toEven n (d * den))

end Format

/-- The bit of a binary32 pattern that holds the sign. -/
def signBit : Nat := 0x80000000

/-- What a binary32 number stands for. -/
def Value.ofFloat32 (x : Float32) : Value :=
  let bits := x.toBits.toNat
  let negative := signBit ≤ bits
  let rest := bits % signBit
  if Format.binary32.infinity < rest then .nan
  else if rest = Format.binary32.infinity then .infinite negative
  else .finite negative (Format.binary32.magnitude rest)

/-- The binary32 number of a sign and a pattern of bits without one. -/
def float32OfBits (negative : Bool) (bits : Nat) : Float32 :=
  Float32.ofBits (UInt32.ofNat (if negative then signBit + bits else bits))

/-- The value that is not a number. -/
def float32NaN : Float32 := Float32.ofBits 0x7fc00000

end Colorimetry.Number
