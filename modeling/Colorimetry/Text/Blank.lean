/-!
# Blanks around a value

The parts of a list of values may be set apart by blanks, and any character that counts as white
space does for a blank: the six ASCII ones and the spaces and separators beyond them.
-/

namespace Colorimetry.Text

/-- White space. -/
def isBlank (c : Char) : Bool :=
  let n := c.toNat
  decide (0x09 ≤ n ∧ n ≤ 0x0d) || n == 0x20 || n == 0x85 || n == 0xa0 || n == 0x1680 ||
    decide (0x2000 ≤ n ∧ n ≤ 0x200a) || n == 0x2028 || n == 0x2029 || n == 0x202f ||
    n == 0x205f || n == 0x3000

/-- What is left of a run of characters when the blanks at both ends are taken away. -/
def trimBlanks (cs : List Char) : List Char :=
  ((cs.dropWhile isBlank).reverse.dropWhile isBlank).reverse

/-- The parts of a run of characters between commas. -/
def splitCommas : List Char → List (List Char)
  | [] => [[]]
  | c :: rest =>
    if c = ',' then [] :: splitCommas rest
    else match splitCommas rest with
      | [] => [[c]]
      | part :: parts => (c :: part) :: parts

/-- The parts of a text between commas, without the blanks around them. -/
def commaSeparated (s : String) : List String :=
  (splitCommas s.toList).map fun part => String.ofList (trimBlanks part)

end Colorimetry.Text
