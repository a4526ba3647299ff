/-!
# Rounding a quotient

A quotient of natural numbers rounded to the nearest natural number. Every conversion between
binary and decimal in this library comes down to one such rounding, of a quotient taken exactly:
a decimal literal read as a binary value, and a binary value written with a fixed number of
places. What is left to decide is a quotient that lies halfway between two numbers (`Tie`).
-/

namespace Colorimetry.Number

/-- Which of two equally near neighbours is taken. -/
inductive Tie where
  /-- The even one. -/
  | toEven
  /-- The greater one. -/
  | up
  deriving DecidableEq, Repr

/-- Whether a tie between `n` and `n + 1` goes to `n + 1`. -/
def Tie.goesUp : Tie → Nat → Bool
  | .toEven, n => n % 2 == 1
  | .up, _ => true

/-- The natural number nearest to `num / den`. -/
def roundDiv (tie : Tie) (num den : Nat) : Nat :=
  let quotient := num / den
  let twice := 2 * (num % den)
  if twice < den then quotient
  else if den < twice then quotient + 1
  else if tie.goesUp quotient then quotient + 1 else quotient

/-- `n * 2 ^ e` as a fraction, for an exponent of either sign. -/
def shifted (n : Nat) (e : Int) : Nat × Nat := (n * Nat.pow 2 e.toNat, Nat.pow 2 (-e).toNat)

/-- `n * 10 ^ e` as a fraction, for an exponent of either sign. -/
def tens (n : Nat) (e : Int) : Nat × Nat := (n * Nat.pow 10 e.toNat, Nat.pow 10 (-e).toNat)

end Colorimetry.Number
