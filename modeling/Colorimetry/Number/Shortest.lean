import Colorimetry.Number.Binary

/-!
# The fewest digits that read back

A floating-point number is one of the values of its format, and every real number of an interval
around it rounds to it. Of the decimals in that interval, `shortest` takes one with the fewest
digits, and of these the nearest to the value.

The search goes over decimal grids, from coarse to fine. If a grid has a point in the interval,
then one of the value's two neighbours on that grid lies in it, so only these two are tested
(`onGrid`). The search ends at the latest on the grid that contains the value itself.
-/

namespace Colorimetry.Number

/-- An exact non-negative decimal value, `digits * 10 ^ exponent`. -/
structure Decimal where
  /-- The significant digits, read as one number. -/
  digits : Nat
  /-- The power of ten that they are multiplied by. -/
  exponent : Int
  deriving DecidableEq, Repr

/-- The interval of the reals that round to a value, in quarters of the value's last place. -/
structure Interval where
  /-- The least real that rounds to the value, if `closed`. -/
  lower : Nat
  /-- The greatest real that rounds to the value, if `closed`. -/
  upper : Nat
  /-- Whether the ends belong to the interval. -/
  closed : Bool
  deriving DecidableEq, Repr

namespace Interval

/-- The interval of a magnitude. Below a power of two the neighbours stand twice as close; the ends
are ties, which go to an even significand. -/
def around (f : Format) (v : Magnitude) : Interval where
  lower := if v.mantissa = f.leading ∧ -(f.lowest : Int) < v.exponent then 4 * v.mantissa - 1
    else 4 * v.mantissa - 2
  upper := 4 * v.mantissa + 2
  closed := v.mantissa % 2 == 0

/-- Whether the point `point / unit` lies in the interval. -/
def contains (i : Interval) (point unit : Nat) : Bool :=
  if i.closed then decide (i.lower * unit ≤ point ∧ point ≤ i.upper * unit)
  else decide (i.lower * unit < point ∧ point < i.upper * unit)

end Interval

/-- The decimal with step `10 ^ k` that reads back, if there is one: of the two neighbours of the
value the one that lies in the interval, and of two the nearer. -/
def onGrid (tie : Tie) (i : Interval) (v : Magnitude) (k : Int) : Option Decimal :=
  let (stepNum, stepDen) := tens 1 k
  let (quarterNum, quarterDen) := shifted 1 (v.exponent - 2)
  -- a grid point `c` lies at `c * point` quarters of the last place, in units of `1 / unit`
  let point := stepNum * quarterDen
  let unit := quarterNum * stepDen
  let target := 4 * v.mantissa * unit
  let below := target / point
  match i.contains (below * point) unit, i.contains ((below + 1) * point) unit with
  | true, true => some ⟨roundDiv tie target point, k⟩
  | true, false => some ⟨below, k⟩
  | false, true => some ⟨below + 1, k⟩
  | false, false => none

/-- The first hit on the grids `10 ^ k`, `10 ^ (k - 1)`, …, or else `exact`. -/
def searchGrids (tie : Tie) (i : Interval) (v : Magnitude) (exact : Decimal) :
    Nat → Int → Decimal
  | 0, _ => exact
  | n + 1, k => (onGrid tie i v k).getD (searchGrids tie i v exact n (k - 1))

/-- **The fewest digits that read back as `v`**, and of these the nearest; zero is the digit zero.
-/
def shortest (f : Format) (tie : Tie) (v : Magnitude) : Decimal :=
  if v.mantissa = 0 then ⟨0, 0⟩
  else
    let top := (shifted v.mantissa v.exponent).1.log2 / 3 + 1
    let exact : Decimal :=
      ⟨(shifted v.mantissa (v.exponent + f.lowest)).1 * Nat.pow 5 f.lowest, -f.lowest⟩
    searchGrids tie (.around f v) v exact (top + f.lowest) top

end Colorimetry.Number
