import Mathlib
import Colorimetry.Number.Shortest
import Colorimetry.Proofs.Number.Nearest

/-!
# The fewest digits read back

The decimal that `shortest` finds for a value of a format is a number to which that value is nearest
(`isNearest_shortest`), which is to say that it reads back. It is also no further from the value than
one step of its last digit, because on each grid only the two neighbours of the value are tried. The
second fact is what a second rounding needs: a decimal with few digits that is close to a middle
would be a good approximation of it, and there are not many of these.

The interval of the search is measured in quarters of the last place of the value, so that its ends
are the middles to the neighbours on either side of a power of two (`value_add_value`).
-/

namespace Colorimetry.Number

/-- The number that a decimal is. -/
def Decimal.value (d : Decimal) : ℚ := d.digits * 10 ^ d.exponent

/-! ### Intervals -/

/-- A number, in quarters of the last place, lies in an interval. -/
def Interval.Mem (i : Interval) (y : ℚ) : Prop :=
  if i.closed then i.lower ≤ y ∧ y ≤ i.upper else i.lower < y ∧ y < i.upper

/-- Whether a fraction lies in an interval is decided by products. -/
theorem Interval.contains_iff (i : Interval) {point unit : ℕ} (hunit : 0 < unit) :
    i.contains point unit = true ↔ i.Mem (point / unit) := by
  have hpos : (0 : ℚ) < unit := Nat.cast_pos.mpr hunit
  have hle : (i.lower : ℚ) ≤ point / unit ↔ i.lower * unit ≤ point := by
    rw [le_div_iff₀ hpos]
    norm_cast
  have hle' : (point / unit : ℚ) ≤ i.upper ↔ point ≤ i.upper * unit := by
    rw [div_le_iff₀ hpos]
    norm_cast
  have hlt : (i.lower : ℚ) < point / unit ↔ i.lower * unit < point := by
    rw [lt_div_iff₀ hpos]
    norm_cast
  have hlt' : (point / unit : ℚ) < i.upper ↔ point < i.upper * unit := by
    rw [div_lt_iff₀ hpos]
    norm_cast
  unfold Interval.contains Interval.Mem
  rw [hle, hle', hlt, hlt']
  split_ifs <;> simp

namespace Format

variable (f : Format)

/-- The middle between two neighbours, from the upper one. -/
theorem value_add_value {b c : ℕ} (h : c + 1 = b) :
    f.value c + f.value b =
      2 * ((Interval.around f (f.magnitude b)).lower * 2 ^ ((f.magnitude b).exponent - 2)) := by
  obtain ⟨n, m, hb, hhigh, hlow, hmagnitude⟩ := f.exists_shape b
  have hpos := f.leading_pos
  have hquarter : (2 : ℚ) ^ ((n : ℤ) - f.lowest - 2) = 2 ^ ((n : ℤ) - f.lowest) / 4 := by
    rw [zpow_sub₀ two_ne_zero]
    norm_num
  have hvalue : f.value b = m * 2 ^ ((n : ℤ) - f.lowest) := by
    rw [hb, f.value_shape hlow hhigh.le]
  rw [hvalue, hmagnitude]
  simp only [Interval.around, hquarter]
  by_cases hstart : m = f.leading ∧ n ≠ 0
  · -- below a power of two the step is half as large
    obtain ⟨rfl, hn⟩ := hstart
    obtain ⟨n, rfl⟩ := Nat.exists_eq_succ_of_ne_zero hn
    have hexponent : -(f.lowest : ℤ) < ((n + 1 : ℕ) : ℤ) - f.lowest := by omega
    obtain rfl : c = n * f.leading + (2 * f.leading - 1) := by
      rw [Nat.succ_mul] at hb
      omega
    have hhalf : (2 : ℚ) ^ (((n + 1 : ℕ) : ℤ) - f.lowest) = 2 * 2 ^ ((n : ℤ) - f.lowest) := by
      rw [← zpow_one_add₀ two_ne_zero]
      congr 1
      push_cast
      ring
    have hsub : 1 ≤ 2 * f.leading := by omega
    have hsub' : 1 ≤ 4 * f.leading := by omega
    rw [f.value_shape (.inl (by omega)) (by omega), Nat.succ_eq_add_one, hhalf,
      if_pos ⟨rfl, hexponent⟩, Nat.cast_sub hsub, Nat.cast_sub hsub']
    push_cast
    ring
  · have hcase : ¬(m = f.leading ∧ -(f.lowest : ℤ) < (n : ℤ) - f.lowest) := by
      rintro ⟨hm, hexponent⟩
      exact hstart ⟨hm, by omega⟩
    have hm : f.leading < m ∨ n = 0 := by omega
    have hsub : 2 ≤ 4 * m := by
      rcases hm with hm | rfl <;> omega
    rw [f.value_shape_pred hm hhigh.le (h.trans hb), if_neg hcase, Nat.cast_sub hsub]
    push_cast
    ring

/-- The middle between two neighbours, from the lower one. -/
theorem value_add_value_succ (b : ℕ) :
    f.value b + f.value (b + 1) =
      2 * ((Interval.around f (f.magnitude b)).upper * 2 ^ ((f.magnitude b).exponent - 2)) := by
  have hquarter : (2 : ℚ) ^ ((f.magnitude b).exponent - 2) = 2 ^ (f.magnitude b).exponent / 4 := by
    rw [zpow_sub₀ two_ne_zero]
    norm_num
  rw [value_succ, hquarter, value, Magnitude.value]
  simp only [Interval.around]
  push_cast
  ring

/-- A pattern is even if its significand is. -/
theorem even_iff_even_mantissa (hf : 1 < f.precision) (b : ℕ) :
    Even b ↔ Even (f.magnitude b).mantissa := by
  obtain ⟨n, m, hb, -, -, hmagnitude⟩ := f.exists_shape b
  have heven : Even (n * f.leading) := (f.even_leading hf).mul_left n
  rw [hmagnitude, hb, Nat.even_add]
  exact iff_true_left heven

/-- **The interval of a value holds the numbers to which it is nearest.** -/
theorem isNearest_of_mem (hf : 1 < f.precision) {b : ℕ} {x : ℚ}
    (h : (Interval.around f (f.magnitude b)).Mem (x / 2 ^ ((f.magnitude b).exponent - 2))) :
    f.IsNearest x b := by
  have hpow : (0 : ℚ) < 2 ^ ((f.magnitude b).exponent - 2) := zpow_pos two_pos _
  have hupper := f.value_add_value_succ b
  have hclosed : (Interval.around f (f.magnitude b)).closed = true ↔ Even b := by
    rw [f.even_iff_even_mantissa hf, Nat.even_iff]
    simp [Interval.around]
  unfold Interval.Mem at h
  split_ifs at h with heven
  · rw [le_div_iff₀ hpow, div_le_iff₀ hpow] at h
    refine ⟨fun c hc => ?_, by linarith, fun _ _ _ => hclosed.mp heven, fun _ => hclosed.mp heven⟩
    have hlower := f.value_add_value hc
    linarith
  · rw [lt_div_iff₀ hpow, div_lt_iff₀ hpow] at h
    refine ⟨fun c hc => ?_, by linarith, fun c hc htie => ?_, fun htie => ?_⟩
    · have hlower := f.value_add_value hc
      linarith
    · have hlower := f.value_add_value hc
      linarith
    · linarith

end Format

/-! ### The search -/

section Grid

variable {v : Magnitude} {k : ℤ} {point unit : ℕ}

/-- A step of a grid in quarters of the last place. -/
theorem step_div_quarter (v : Magnitude) (k : ℤ) :
    (((tens 1 k).1 * (shifted 1 (v.exponent - 2)).2 : ℕ) /
      ((shifted 1 (v.exponent - 2)).1 * (tens 1 k).2 : ℕ) : ℚ) = 10 ^ k / 2 ^ (v.exponent - 2) := by
  have hstep := tens_div 1 k
  have hquarter := shifted_div 1 (v.exponent - 2)
  rw [Nat.cast_one, one_mul] at hstep hquarter
  rw [← hstep, ← hquarter]
  push_cast
  rw [div_div_div_eq, mul_comm ((tens 1 k).2 : ℚ)]

/-- A point of the grid in quarters of the last place. -/
theorem mul_point_div_unit (hratio : (point / unit : ℚ) = 10 ^ k / 2 ^ (v.exponent - 2)) (c : ℕ) :
    ((c * point : ℕ) / unit : ℚ) = (⟨c, k⟩ : Decimal).value / 2 ^ (v.exponent - 2) := by
  rw [Decimal.value]
  push_cast
  rw [mul_div_assoc, hratio, mul_div_assoc]

/-- The value in steps of the grid. -/
theorem target_div_point (hpoint : 0 < point) (hunit : 0 < unit)
    (hratio : (point / unit : ℚ) = 10 ^ k / 2 ^ (v.exponent - 2)) :
    ((4 * v.mantissa * unit : ℕ) / point : ℚ) = v.value / 10 ^ k := by
  have hunit' : (0 : ℚ) < unit := Nat.cast_pos.mpr hunit
  have hpoint' : (0 : ℚ) < point := Nat.cast_pos.mpr hpoint
  have hten : (0 : ℚ) < 10 ^ k := zpow_pos (by norm_num) _
  have hpow : (0 : ℚ) < 2 ^ (v.exponent - 2) := zpow_pos two_pos _
  have hfour : (2 : ℚ) ^ v.exponent = 4 * 2 ^ (v.exponent - 2) := by
    rw [zpow_sub₀ two_ne_zero]
    ring
  rw [div_eq_div_iff hunit'.ne' hpow.ne'] at hratio
  rw [Magnitude.value, hfour, div_eq_div_iff hpoint'.ne' hten.ne']
  push_cast
  linear_combination (-(4 * (v.mantissa : ℚ))) * hratio

/-- The points next to the value are not further from it than a step. -/
theorem abs_sub_le_of_below (hpoint : 0 < point) (hunit : 0 < unit)
    (hratio : (point / unit : ℚ) = 10 ^ k / 2 ^ (v.exponent - 2)) {c : ℕ}
    (hc : c = 4 * v.mantissa * unit / point ∨ c = 4 * v.mantissa * unit / point + 1) :
    |(⟨c, k⟩ : Decimal).value - v.value| ≤ 10 ^ k := by
  have hten : (0 : ℚ) < 10 ^ k := zpow_pos (by norm_num) _
  have htarget := target_div_point hpoint hunit hratio
  generalize 4 * v.mantissa * unit = target at hc htarget
  have hle : ((target / point : ℕ) : ℚ) ≤ v.value / 10 ^ k := by
    rw [← htarget]
    exact Nat.cast_div_le
  have hlt : v.value / 10 ^ k < (target / point : ℕ) + 1 := by
    rw [← htarget, div_lt_iff₀ (Nat.cast_pos.mpr hpoint)]
    exact_mod_cast (Nat.div_lt_iff_lt_mul hpoint).mp (Nat.lt_succ_self _)
  rw [le_div_iff₀ hten] at hle
  rw [div_lt_iff₀ hten] at hlt
  rw [Decimal.value, abs_le]
  rcases hc with rfl | rfl
  · constructor <;> linarith
  · push_cast
    constructor <;> linarith

end Grid

section Search

variable {tie : Tie} {i : Interval} {v : Magnitude} {k : ℤ} {d : Decimal}

/-- What is found on a grid lies in the interval and is a neighbour of the value. -/
theorem onGrid_spec (h : onGrid tie i v k = some d) :
    d.exponent = k ∧ i.Mem (d.value / 2 ^ (v.exponent - 2)) ∧ |d.value - v.value| ≤ 10 ^ k := by
  have hratio := step_div_quarter v k
  have hpoint : 0 < (tens 1 k).1 * (shifted 1 (v.exponent - 2)).2 :=
    Nat.mul_pos (Nat.mul_pos one_pos (Nat.pow_pos (by norm_num))) (shifted_pos _ _)
  have hunit : 0 < (shifted 1 (v.exponent - 2)).1 * (tens 1 k).2 :=
    Nat.mul_pos (Nat.mul_pos one_pos (Nat.pow_pos two_pos)) (tens_pos _ _)
  simp only [onGrid] at h
  generalize (tens 1 k).1 * (shifted 1 (v.exponent - 2)).2 = point at h hratio hpoint
  generalize (shifted 1 (v.exponent - 2)).1 * (tens 1 k).2 = unit at h hratio hunit
  -- a point that the search accepts lies in the interval, whichever neighbour it is
  have hmem (c : ℕ) (hc : i.contains (c * point) unit = true) :
      i.Mem ((⟨c, k⟩ : Decimal).value / 2 ^ (v.exponent - 2)) := by
    rw [← mul_point_div_unit hratio]
    exact (i.contains_iff hunit).mp hc
  have hnear {c : ℕ} := abs_sub_le_of_below (c := c) hpoint hunit hratio
  split at h
  · next hlow hhigh =>
    obtain rfl := Option.some.inj h
    rcases roundDiv_eq_or tie (4 * v.mantissa * unit) point with hround | hround
    · rw [hround]
      exact ⟨rfl, hmem _ hlow, hnear (.inl rfl)⟩
    · rw [hround]
      exact ⟨rfl, hmem _ hhigh, hnear (.inr rfl)⟩
  · next hlow _ =>
    obtain rfl := Option.some.inj h
    exact ⟨rfl, hmem _ hlow, hnear (.inl rfl)⟩
  · next _ hhigh =>
    obtain rfl := Option.some.inj h
    exact ⟨rfl, hmem _ hhigh, hnear (.inr rfl)⟩
  · cases h

variable (tie i v) in
/-- The search ends with a decimal that was found on a grid, or with the exact one. -/
theorem searchGrids_cases (exact : Decimal) (n : ℕ) (k : ℤ) :
    searchGrids tie i v exact n k = exact ∨
      ∃ k', onGrid tie i v k' = some (searchGrids tie i v exact n k) := by
  induction n generalizing k with
  | zero => exact .inl rfl
  | succ n ih =>
    rw [searchGrids]
    cases h : onGrid tie i v k with
    | some d => exact .inr ⟨k, h⟩
    | none => exact ih (k - 1)

end Search

/-- The finest grid holds the value itself. -/
theorem value_exact (f : Format) (b : ℕ) :
    (⟨(shifted (f.magnitude b).mantissa ((f.magnitude b).exponent + f.lowest)).1 *
      Nat.pow 5 f.lowest, -f.lowest⟩ : Decimal).value = f.value b := by
  obtain ⟨n, m, -, -, -, hmagnitude⟩ := f.exists_shape b
  have hexponent : ((n : ℤ) - f.lowest + f.lowest).toNat = n := by omega
  have hten : (10 : ℚ) ^ (-(f.lowest : ℤ)) = 5 ^ (-(f.lowest : ℤ)) * 2 ^ (-(f.lowest : ℤ)) := by
    rw [← mul_zpow]
    norm_num
  rw [Decimal.value, Format.value, hmagnitude, Magnitude.value]
  simp only [shifted, hexponent, Nat.pow_eq]
  push_cast
  rw [hten, sub_eq_add_neg, zpow_add₀ two_ne_zero, zpow_natCast, zpow_neg, zpow_natCast]
  field_simp

/-- **The fewest digits read back**, and are not further from the value than one step of the last
digit. -/
theorem isNearest_shortest (f : Format) (hf : 1 < f.precision) (tie : Tie) {b : ℕ} (hb : b ≠ 0) :
    f.IsNearest (shortest f tie (f.magnitude b)).value b ∧
      |(shortest f tie (f.magnitude b)).value - f.value b| ≤
        10 ^ (shortest f tie (f.magnitude b)).exponent := by
  obtain ⟨n, m, hshape, -, hlow, hmagnitude⟩ := f.exists_shape b
  have hm : m ≠ 0 := by
    rintro rfl
    have := f.leading_pos
    rcases hlow with h | rfl <;> omega
  have hzero : (f.magnitude b).mantissa ≠ 0 := by rwa [hmagnitude]
  have hvalue := value_exact f b
  simp only [shortest, if_neg hzero]
  generalize (⟨(shifted (f.magnitude b).mantissa ((f.magnitude b).exponent + f.lowest)).1 *
    Nat.pow 5 f.lowest, -f.lowest⟩ : Decimal) = exact at hvalue ⊢
  generalize (shifted (f.magnitude b).mantissa (f.magnitude b).exponent).1.log2 / 3 + 1 = top
  rcases searchGrids_cases tie (.around f (f.magnitude b)) (f.magnitude b) exact
    (top + f.lowest) top with h | ⟨k, h⟩
  · -- no grid had a point, so the decimal is the value itself
    rw [h, hvalue]
    refine ⟨f.isNearest_self b, ?_⟩
    rw [sub_self, abs_zero]
    positivity
  · obtain ⟨hexponent, hmem, hnear⟩ := onGrid_spec h
    refine ⟨f.isNearest_of_mem hf hmem, ?_⟩
    rw [hexponent]
    exact hnear

end Colorimetry.Number
