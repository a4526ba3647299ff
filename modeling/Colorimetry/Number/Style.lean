import Colorimetry.Number.Shortest
import Colorimetry.Text.Column

/-!
# Numbers as text

The forms in which binary32 numbers are printed. All but one of them write the fewest digits that
read back (`shortest`) and differ only in how the digits are laid out; a layout is a record of
decisions (`Style`), and `Style.format` is the only printer. The remaining form has a fixed
number of places (`fixed`).

| form | where it is used |
|---|---|
| `Style.plain` | single numbers in headings and messages |
| `Style.general` | samples and chromaticities in tables |
| `Style.json` | JSON reports |
| `Style.yaml` | surface descriptions |
| `fixed` | columns of tables |
-/

namespace Colorimetry.Number

/-- How the digits of a number are laid out. -/
structure Style where
  /-- Which of two equally near decimals of the same length is written. -/
  tie : Tie
  /-- Whether a number is written without an exponent, by the power of ten of its first digit. -/
  positional : Int → Bool
  /-- What follows the digits of an integer. -/
  integerTail : String
  /-- What stands before an exponent that is not negative. -/
  exponentSign : String
  /-- The value that is not a number. -/
  nan : String
  /-- Positive infinity. -/
  infinity : String
  /-- Negative infinity. -/
  negativeInfinity : String

namespace Style

/-- Digits alone, however many; an integer has no point. -/
def plain : Style where
  tie := .up
  positional _ := true
  integerTail := ""
  exponentSign := ""
  nan := "NaN"
  infinity := "inf"
  negativeInfinity := "-inf"

/-- A point in every number, and an exponent below `10 ^ -4` and from `10 ^ 16` on. -/
def general : Style where
  tie := .up
  positional k := decide (-4 ≤ k ∧ k < 16)
  integerTail := ".0"
  exponentSign := ""
  nan := "NaN"
  infinity := "inf"
  negativeInfinity := "-inf"

/-- A point in every number, and an exponent with its sign below `10 ^ -6` and from `10 ^ 13` on.
JSON has no text for what is not finite. -/
def json : Style where
  tie := .toEven
  positional k := decide (-6 ≤ k ∧ k < 13)
  integerTail := ".0"
  exponentSign := "+"
  nan := "null"
  infinity := "null"
  negativeInfinity := "null"

/-- As in JSON, but without a sign before a positive exponent and with the names that YAML gives to
what is not finite. -/
def yaml : Style where
  tie := .toEven
  positional k := decide (-6 ≤ k ∧ k < 13)
  integerTail := ".0"
  exponentSign := ""
  nan := ".nan"
  infinity := ".inf"
  negativeInfinity := "-.inf"

/-- The characters of the decimal digits of a number. -/
def digitsOf (n : Nat) : List Char := Nat.toDigits 10 n

/-- The digits of a decimal around their point. -/
def layoutPositional (style : Style) (d : Decimal) : String :=
  let digits := digitsOf d.digits
  if 0 ≤ d.exponent then
    String.ofList (digits ++ List.replicate d.exponent.toNat '0') ++ style.integerTail
  else
    let places := (-d.exponent).toNat
    let padded := List.replicate (places + 1 - digits.length) '0' ++ digits
    let whole := padded.length - places
    String.ofList (padded.take whole ++ '.' :: padded.drop whole)

/-- The digits of a decimal with the point behind the first, and an exponent. -/
def layoutExponent (style : Style) (d : Decimal) (first : Int) : String :=
  let mantissa := match digitsOf d.digits with
    | c :: c' :: rest => c :: '.' :: c' :: rest
    | short => short
  let exponent := if first < 0 then toString first else style.exponentSign ++ toString first
  String.ofList mantissa ++ "e" ++ exponent

/-- The digits of a decimal. -/
def layout (style : Style) (d : Decimal) : String :=
  let first := d.exponent + ((digitsOf d.digits).length - 1 : Nat)
  if d.digits = 0 || style.positional first then style.layoutPositional d
  else style.layoutExponent d first

/-- **The text of a number.** -/
def format (style : Style) (x : Float32) : String :=
  match Value.ofFloat32 x with
  | .nan => style.nan
  | .infinite false => style.infinity
  | .infinite true => style.negativeInfinity
  | .finite negative v =>
    (if negative then "-" else "") ++ style.layout (shortest .binary32 style.tie v)

end Style

/-- The text of a number with a given number of places: the exact value of the number, a tie going
to the even digit. A negative number that rounds to zero keeps its sign. -/
def fixed (places : Nat) (x : Float32) : String :=
  match Value.ofFloat32 x with
  | .nan => "NaN"
  | .infinite negative => if negative then "-inf" else "inf"
  | .finite negative v =>
    let (num, den) := shifted (v.mantissa * Nat.pow 10 places) v.exponent
    let text := Style.layoutPositional .plain ⟨roundDiv .toEven num den, -places⟩
    (if negative then "-" else "") ++ text

/-- The same in a column of a given width, aligned on the right. -/
def fixedColumn (width places : Nat) (x : Float32) : String :=
  Text.alignRight width (fixed places x)

end Colorimetry.Number
