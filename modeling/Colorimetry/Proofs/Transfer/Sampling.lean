import Mathlib
import Colorimetry.Proofs.Exact.Scalar
import Colorimetry.Transfer.Sampling

/-!
# Tables under rounding

The points of a table are quotients of row numbers, and in a narrow format neither the row numbers
nor their quotients are what they are written as: from some count on, several rows have the same
number, and a quotient is rounded once more. A table spans the unit interval all the same. Its first
point is zero over something and its last one a number over itself, however these were rounded, and
between the two a rounding cannot change an order, only merge what was apart.

So nothing is asked of a rounding but that it is monotone and leaves zero and one alone
(`IsRounding`), and row numbers and quotients may be rounded in different ways (`RoundsBelow`). What
comes out is a list of values from zero to one (`SpansUnit`), with the curve at each of the points
(`Curve.spans_tabulate`).
-/

namespace Colorimetry.Transfer

/-! ### Roundings -/

section Rounding

variable {K : Type} [Field K] [LinearOrder K]

/-- **A rounding**: it keeps the order, and the ends of the unit interval stay where they are. -/
structure IsRounding (round : K → K) : Prop where
  monotone : Monotone round
  zero : round 0 = 0
  one : round 1 = 1

variable {round : K → K} {x : K}

/-- What is not below zero is not rounded below it, -/
theorem IsRounding.nonneg (h : IsRounding round) (hx : 0 ≤ x) : 0 ≤ round x :=
  h.zero.symm.trans_le (h.monotone hx)

/-- and what is not below one is not either. -/
theorem IsRounding.one_le (h : IsRounding round) (hx : 1 ≤ x) : 1 ≤ round x :=
  h.one.symm.trans_le (h.monotone hx)

end Rounding

variable {K α : Type} [Field K] [LinearOrder K]

/-- **Row numbers below `n` and their quotients are rounded**: a scalar may have a value, that of a
row number is the rounded number, and that of a quotient of at most one the rounded quotient. -/
structure RoundsBelow [Div α] (value : α → Option K) (ofCount : ℕ → α) (conversion division : K → K)
    (n : ℕ) : Prop where
  rounds_conversion : IsRounding conversion
  rounds_division : IsRounding division
  value_ofCount {i : ℕ} : i < n → value (ofCount i) = some (conversion i)
  value_div {x y : α} {p q : K} : value x = some p → value y = some q → 0 ≤ p → p ≤ q → 0 < q →
    value (x / y) = some (division (p / q))

/-- **Values from zero to one**, in order. -/
structure SpansUnit (values : List K) : Prop where
  first : values.head? = some 0
  last : values.getLast? = some 1
  nondecreasing : values.Pairwise (· ≤ ·)
  mem_unit : ∀ v ∈ values, 0 ≤ v ∧ v ≤ 1

/-- **A table of `n` rows that spans the unit interval**: its points have values from zero to one,
and each of them stands beside the value of the curve there. -/
structure Curve.Spans [Scalar α] [Elementary α] (c : Curve α) (value : α → Option K) (n : ℕ)
    (rows : List (α × α)) : Prop where
  length : rows.length = n
  points : ∃ values, rows.map (value ·.1) = values.map some ∧ SpansUnit values
  output : ∀ row ∈ rows, row.2 = c.apply row.1

/-! ### Rounded points -/

section Points

variable {conversion division : K → K} {n i j : ℕ}

/-- The value of a point: a rounded quotient of rounded numbers. -/
def roundedPoint (conversion division : K → K) (n i : ℕ) : K :=
  division (conversion i / conversion (n - 1 : ℕ))

/-- The first point is zero. -/
theorem roundedPoint_zero (hc : IsRounding conversion) (hd : IsRounding division) :
    roundedPoint conversion division n 0 = 0 := by
  rw [roundedPoint, Nat.cast_zero, hc.zero, zero_div, hd.zero]

variable [IsStrictOrderedRing K]

/-- There is a last row to divide by. -/
theorem conversion_last_pos (h : IsRounding conversion) (hn : 2 ≤ n) :
    0 < conversion (n - 1 : ℕ) :=
  one_pos.trans_le (h.one_le (Nat.one_le_cast.mpr (by omega)))

/-- The last one is one. -/
theorem roundedPoint_last (hc : IsRounding conversion) (hd : IsRounding division) (hn : 2 ≤ n) :
    roundedPoint conversion division n (n - 1) = 1 := by
  rw [roundedPoint, div_self (conversion_last_pos hc hn).ne', hd.one]

/-- Points are in the order of their rows. -/
theorem roundedPoint_mono (hc : IsRounding conversion) (hd : IsRounding division) (hn : 2 ≤ n)
    (hij : i ≤ j) : roundedPoint conversion division n i ≤ roundedPoint conversion division n j :=
  hd.monotone (div_le_div_of_nonneg_right (hc.monotone (Nat.cast_le.mpr hij))
    (conversion_last_pos hc hn).le)

/-- **The points of a table span the unit interval.** -/
theorem spansUnit_roundedPoint (hc : IsRounding conversion) (hd : IsRounding division)
    (hn : 2 ≤ n) : SpansUnit ((List.range n).map (roundedPoint conversion division n)) where
  first := by
    rw [List.head?_map, List.head?_range, if_neg (by omega), Option.map_some,
      roundedPoint_zero hc hd]
  last := by
    rw [List.getLast?_map, List.getLast?_range, if_neg (by omega), Option.map_some,
      roundedPoint_last hc hd hn]
  nondecreasing := by
    rw [List.pairwise_map]
    exact List.pairwise_lt_range.imp fun hij => roundedPoint_mono hc hd hn hij.le
  mem_unit := by
    intro v hv
    obtain ⟨i, hi, rfl⟩ := List.mem_map.mp hv
    rw [List.mem_range] at hi
    constructor
    · rw [← roundedPoint_zero hc hd (n := n)]
      exact roundedPoint_mono hc hd hn (Nat.zero_le i)
    · rw [← roundedPoint_last hc hd hn]
      exact roundedPoint_mono hc hd hn (by omega)

end Points

/-! ### Tables -/

section Tables

variable [IsStrictOrderedRing K] {value : α → Option K} {ofCount : ℕ → α}
  {conversion division : K → K} {n i : ℕ}

/-- The point of a row has a value, since no row is beyond the last one. -/
theorem RoundsBelow.value_point [Div α] (h : RoundsBelow value ofCount conversion division n)
    (hn : 2 ≤ n) (hi : i < n) :
    value (ofCount i / ofCount (n - 1)) = some (roundedPoint conversion division n i) := by
  have hle : conversion i ≤ conversion (n - 1 : ℕ) :=
    h.rounds_conversion.monotone (Nat.cast_le.mpr (by omega))
  exact h.value_div (h.value_ofCount hi) (h.value_ofCount (by omega))
    (h.rounds_conversion.nonneg i.cast_nonneg) hle (conversion_last_pos h.rounds_conversion hn)

/-- **A table spans the unit interval**, whatever the rounding. -/
theorem Curve.spans_tabulate [Scalar α] [Elementary α] (c : Curve α)
    (h : RoundsBelow value ofCount conversion division n) (hn : 2 ≤ n) :
    c.Spans value n (c.tabulate ofCount n) where
  length := by rw [tabulate, evenlySpaced, List.length_map, List.length_map, List.length_range]
  points := by
    refine ⟨_, ?_, spansUnit_roundedPoint h.rounds_conversion h.rounds_division hn⟩
    rw [tabulate, evenlySpaced, List.map_map, List.map_map, List.map_map]
    exact List.map_congr_left fun i hi => h.value_point hn (List.mem_range.mp hi)
  output := by
    intro row hrow
    obtain ⟨x, -, rfl⟩ := List.mem_map.mp hrow
    rfl

end Tables

end Colorimetry.Transfer
