import Mathlib
import Colorimetry.Proofs.Binary32.Units

/-!
# Rounding errors

The value of a finite float is a rational number (`value`), and what an operation does to values is
the exact operation followed by a rounding. The rounding moves a value by at most one part in
`2 ^ 24`, and by `2 ^ -150` more, because below the least normal value there are not twenty-four
digits to be had (`value_mul`, `value_reciprocal`). For a sum or a difference the first term is
enough: two multiples of `2 ^ -149` add up to a third one, and what is too small to have
twenty-four digits is not rounded (`value_add`).

An operation on finite values gives a finite value as long as the exact result does not exceed the
greatest one (`exists_value_add`, `exists_value_mul`, `exists_value_reciprocal_iff`). The addition of
zero and multiplication by zero, by one and by minus one are exact.
-/

namespace Colorimetry.Binary32

/-! ### Rounding integers -/

section Rounding

variable {b : ℕ}

theorem abs_nearest_sub_le (a : ℕ) (hb : 0 < b) :
    |(nearest a b : ℚ) - a / b| ≤ (a : ℚ) / b / 2 ^ 24 + 1 / 2 := by
  have hbq : (0 : ℚ) < b := Nat.cast_pos.mpr hb
  have hpos : (0 : ℚ) < 2 ^ 24 * b := by positivity
  have hmax : max (2 ^ 23 * b) a ≤ 2 ^ 23 * b + a := max_le (by omega) (by omega)
  have hup : (2 ^ 24 * (nearest a b * b) : ℚ) ≤ 2 ^ 24 * a + (2 ^ 23 * b + a) := by
    exact_mod_cast (nearest_mul_le (a := a) hb).trans (Nat.add_le_add_left hmax _)
  have hdown : (2 ^ 24 * a : ℚ) ≤ 2 ^ 24 * (nearest a b * b) + (2 ^ 23 * b + a) := by
    exact_mod_cast (le_nearest_mul (a := a) hb).trans (Nat.add_le_add_left hmax _)
  have hbound : ((a : ℚ) / b / 2 ^ 24 + 1 / 2) * (2 ^ 24 * b) = 2 ^ 23 * b + a := by
    field_simp
    ring
  have hdiff : ((nearest a b : ℚ) - a / b) * (2 ^ 24 * b) =
      2 ^ 24 * (nearest a b * b) - 2 ^ 24 * a := by
    field_simp
  -- times `2 ^ 24 * b` both bounds are integers
  refine le_of_mul_le_mul_right ?_ hpos
  rw [hbound, ← abs_of_pos hpos, ← abs_mul, hdiff, abs_le]
  exact ⟨by linarith, by linarith⟩

/-- An integer below twenty-four digits is not rounded, so the error is relative. -/
theorem abs_nearest_one_sub_le (a : ℕ) : |(nearest a 1 : ℚ) - a| ≤ (a : ℚ) / 2 ^ 24 := by
  rcases lt_or_ge a (2 ^ 24) with hlt | hge
  · have hexact : nearest (a * 1) 1 = a :=
      nearest_of_representable ⟨a, 0, hlt, by norm_num⟩ one_pos
    rw [mul_one] at hexact
    rw [hexact, sub_self, abs_zero]
    positivity
  · have hmax : max (2 ^ 23 * 1) a = a := max_eq_right (by omega)
    have hup := nearest_mul_le (a := a) one_pos
    have hdown := le_nearest_mul (a := a) one_pos
    rw [hmax, mul_one] at hup hdown
    have hup' : (2 ^ 24 * nearest a 1 : ℚ) ≤ 2 ^ 24 * a + a := by exact_mod_cast hup
    have hdown' : (2 ^ 24 * a : ℚ) ≤ 2 ^ 24 * nearest a 1 + a := by exact_mod_cast hdown
    rw [abs_le]
    exact ⟨by linarith, by linarith⟩

theorem nearestInt_neg (n : ℤ) (b : ℕ) : nearestInt (-n) b = -nearestInt n b := by
  rw [nearestInt, nearestInt, Int.sign_neg, Int.natAbs_neg, Int.neg_mul]

theorem nearestInt_natCast (a : ℕ) (hb : 0 < b) : nearestInt a b = nearest a b :=
  nearestInt_apply .positive a hb

theorem abs_nearestInt_sub_le (n : ℤ) (hb : 0 < b) :
    |(nearestInt n b : ℚ) - n / b| ≤ |(n : ℚ) / b| / 2 ^ 24 + 1 / 2 := by
  obtain ⟨a, rfl | rfl⟩ := n.eq_nat_or_neg
  · have habs : |((a : ℤ) : ℚ) / b| = a / b := abs_of_nonneg (by positivity)
    rw [habs, nearestInt_natCast a hb]
    exact abs_nearest_sub_le a hb
  · have habs : |((-(a : ℤ) : ℤ) : ℚ) / b| = a / b := by
      rw [Int.cast_neg, neg_div, abs_neg]
      exact abs_of_nonneg (by positivity)
    rw [habs, nearestInt_neg, nearestInt_natCast a hb, ← abs_neg]
    convert abs_nearest_sub_le a hb using 2
    push_cast
    ring

theorem abs_nearestInt_one_sub_le (n : ℤ) : |(nearestInt n 1 : ℚ) - n| ≤ |(n : ℚ)| / 2 ^ 24 := by
  obtain ⟨a, rfl | rfl⟩ := n.eq_nat_or_neg
  · rw [nearestInt_natCast a one_pos, Int.cast_natCast, Int.cast_natCast, Nat.abs_cast]
    exact abs_nearest_one_sub_le a
  · have habs : |((-(a : ℤ) : ℤ) : ℚ)| = a := by
      rw [Int.cast_neg, abs_neg]
      exact Nat.abs_cast a
    rw [habs, nearestInt_neg, nearestInt_natCast a one_pos, ← abs_neg]
    convert abs_nearest_one_sub_le a using 2
    push_cast
    ring

/-- Rounding does not reach beyond the greatest integer of twenty-four digits below the limit. -/
theorem natAbs_nearestInt_lt {n : ℤ} (hb : 0 < b) (h : n.natAbs ≤ (2 ^ 24 - 1) * 2 ^ 253 * b) :
    (nearestInt n b).natAbs < limit := by
  have hle : nearest n.natAbs b ≤ (2 ^ 24 - 1) * 2 ^ 253 := by
    rw [← nearest_of_representable ⟨2 ^ 24 - 1, 253, by norm_num, rfl⟩ hb]
    exact nearest_mono hb hb (Nat.mul_le_mul_right b h)
  have hsign : (nearestInt n b).natAbs ≤ nearest n.natAbs b := by
    rw [nearestInt, Int.natAbs_mul, Int.natAbs_natCast]
    have hone : n.sign.natAbs ≤ 1 := by
      rw [Int.natAbs_sign]
      split_ifs <;> omega
    exact mul_le_of_le_one_left (Nat.zero_le _) hone
  refine (hsign.trans hle).trans_lt ?_
  exact Nat.mul_lt_mul_of_pos_right (by norm_num) (Nat.two_pow_pos 253)

end Rounding

/-! ### Values -/

/-- The value of a finite float. -/
def value (x : Float32) : Option ℚ := Option.map (fun a : ℤ => (a : ℚ) / 2 ^ 149) (units x)

/-- The greatest finite value. -/
def greatest : ℚ := (2 ^ 24 - 1) * 2 ^ 104

/-- The value of a result that was rounded from a fraction of units. -/
def valueOfResult (n : ℤ) (b : ℕ) : Option ℚ :=
  Option.map (fun a : ℤ => (a : ℚ) / 2 ^ 149) (fit (nearestInt n b))

section Value

variable {x y : Float32} {p q r : ℚ}

theorem value_eq_some_iff : value x = some q ↔ ∃ a : ℤ, units x = some a ∧ (a : ℚ) / 2 ^ 149 = q :=
  Option.map_eq_some_iff

/-- Finite values are below the limit. -/
theorem abs_value_lt (hq : value x = some q) : |q| < 2 ^ 128 := by
  obtain ⟨a, ha, rfl⟩ := value_eq_some_iff.mp hq
  have hfit := fit_of_units ha
  rw [fit, Option.ite_none_right_eq_some] at hfit
  have hlimit : (2 ^ 128 * 2 ^ 149 : ℚ) = (limit : ℕ) := by norm_num [limit]
  have hpos : (0 : ℚ) < 2 ^ 149 := by positivity
  rw [abs_div, abs_of_pos hpos, div_lt_iff₀ hpos, hlimit, ← Int.cast_abs, ← Nat.cast_natAbs]
  exact_mod_cast hfit.1

theorem valueOfResult_eq_some_iff {n : ℤ} {b : ℕ} :
    valueOfResult n b = some q ↔
      (nearestInt n b).natAbs < limit ∧ (nearestInt n b : ℚ) / 2 ^ 149 = q := by
  unfold valueOfResult fit
  split_ifs with h <;> simp [h]

theorem abs_valueOfResult_sub_le {n : ℤ} {b : ℕ} (hb : 0 < b) (hr : valueOfResult n b = some r) :
    |r - (n : ℚ) / b / 2 ^ 149| ≤ |(n : ℚ) / b / 2 ^ 149| / 2 ^ 24 + 1 / 2 ^ 150 := by
  obtain ⟨-, rfl⟩ := valueOfResult_eq_some_iff.mp hr
  have herr := abs_nearestInt_sub_le n hb
  have hpos : (0 : ℚ) < 2 ^ 149 := by positivity
  rw [← sub_div, abs_div, abs_div _ (2 ^ 149 : ℚ), abs_of_pos hpos, div_le_iff₀ hpos]
  refine herr.trans_eq ?_
  field_simp

theorem abs_valueOfResult_one_sub_le {n : ℤ} (hr : valueOfResult n 1 = some r) :
    |r - (n : ℚ) / 2 ^ 149| ≤ |(n : ℚ) / 2 ^ 149| / 2 ^ 24 := by
  obtain ⟨-, rfl⟩ := valueOfResult_eq_some_iff.mp hr
  have herr := abs_nearestInt_one_sub_le n
  have hpos : (0 : ℚ) < 2 ^ 149 := by positivity
  rw [← sub_div, abs_div, abs_div _ (2 ^ 149 : ℚ), abs_of_pos hpos, div_le_iff₀ hpos]
  refine herr.trans_eq ?_
  field_simp

/-- A result that is not too great is finite. -/
theorem exists_valueOfResult {n : ℤ} {b : ℕ} (hb : 0 < b)
    (h : |(n : ℚ) / b / 2 ^ 149| ≤ greatest) : ∃ r, valueOfResult n b = some r := by
  refine ⟨_, valueOfResult_eq_some_iff.mpr ⟨natAbs_nearestInt_lt hb ?_, rfl⟩⟩
  have hbq : (0 : ℚ) < b := Nat.cast_pos.mpr hb
  have hpos : (0 : ℚ) < 2 ^ 149 := by positivity
  rw [div_div, abs_div, abs_of_pos (mul_pos hbq hpos), div_le_iff₀ (mul_pos hbq hpos),
    ← Int.cast_abs, ← Nat.cast_natAbs] at h
  have hgreatest : greatest * (b * 2 ^ 149) = ((2 ^ 24 - 1) * 2 ^ 253 * b : ℕ) := by
    unfold greatest
    push_cast
    ring
  rw [hgreatest] at h
  exact_mod_cast h

/-! ### Operations on values -/

theorem value_zero : value 0 = some 0 := by
  decide +kernel

theorem value_one : value 1 = some 1 := by
  decide +kernel

theorem value_neg (x : Float32) : value (-x) = (value x).map (-·) := by
  rw [value, units_neg, value]
  cases units x with
  | none => rfl
  | some a =>
    change some (((-a : ℤ) : ℚ) / 2 ^ 149) = some (-((a : ℚ) / 2 ^ 149))
    rw [Int.cast_neg, neg_div]

/-- An operation has finite operands if its result is finite. -/
theorem value_lift_eq {z : Float32} {f : ℤ → ℤ → ℤ} {b : ℕ}
    (hz : units z = Units.ofResult (lift (fun m n => nearestInt (f m n) b) (units x) (units y)))
    (hr : value z = some r) :
    ∃ m n, units x = some m ∧ units y = some n ∧ valueOfResult (f m n) b = some r := by
  rw [value, hz] at hr
  cases hx : units x with
  | none => rw [hx] at hr; cases hr
  | some m =>
    cases hy : units y with
    | none => rw [hx, hy] at hr; cases hr
    | some n =>
      rw [hx, hy] at hr
      exact ⟨m, n, rfl, rfl, hr⟩

/-- The result of an operation on finite operands. -/
theorem value_lift {z : Float32} {f : ℤ → ℤ → ℤ} {b : ℕ} {m n : ℤ}
    (hz : units z = Units.ofResult (lift (fun m n => nearestInt (f m n) b) (units x) (units y)))
    (hx : units x = some m) (hy : units y = some n) : value z = valueOfResult (f m n) b := by
  rw [value, hz, hx, hy]
  rfl

/-- **A sum of values**, up to a relative error. -/
theorem value_add (hr : value (x + y) = some r) :
    ∃ p q, value x = some p ∧ value y = some q ∧ |r - (p + q)| ≤ |p + q| / 2 ^ 24 := by
  obtain ⟨m, n, hx, hy, hr⟩ := value_lift_eq (units_add x y) hr
  refine ⟨_, _, value_eq_some_iff.mpr ⟨m, hx, rfl⟩, value_eq_some_iff.mpr ⟨n, hy, rfl⟩, ?_⟩
  rw [← add_div, ← Int.cast_add]
  exact abs_valueOfResult_one_sub_le hr

theorem exists_value_add (hp : value x = some p) (hq : value y = some q)
    (h : |p + q| ≤ greatest) : ∃ r, value (x + y) = some r := by
  obtain ⟨m, hx, rfl⟩ := value_eq_some_iff.mp hp
  obtain ⟨n, hy, rfl⟩ := value_eq_some_iff.mp hq
  rw [value_lift (units_add x y) hx hy]
  refine exists_valueOfResult one_pos ?_
  rw [Nat.cast_one, div_one, Int.cast_add, add_div]
  exact h

/-- **A product of values**, up to a relative error and half the least positive value. -/
theorem value_mul (hr : value (x * y) = some r) :
    ∃ p q, value x = some p ∧ value y = some q ∧
      |r - p * q| ≤ |p * q| / 2 ^ 24 + 1 / 2 ^ 150 := by
  obtain ⟨m, n, hx, hy, hr⟩ := value_lift_eq (units_mul x y) hr
  refine ⟨_, _, value_eq_some_iff.mpr ⟨m, hx, rfl⟩, value_eq_some_iff.mpr ⟨n, hy, rfl⟩, ?_⟩
  have herr := abs_valueOfResult_sub_le (Nat.two_pow_pos 149) hr
  rw [Int.cast_mul, Nat.cast_pow, Nat.cast_ofNat, div_div, ← div_mul_div_comm] at herr
  exact herr

theorem exists_value_mul (hp : value x = some p) (hq : value y = some q)
    (h : |p * q| ≤ greatest) : ∃ r, value (x * y) = some r := by
  obtain ⟨m, hx, rfl⟩ := value_eq_some_iff.mp hp
  obtain ⟨n, hy, rfl⟩ := value_eq_some_iff.mp hq
  rw [value_lift (units_mul x y) hx hy]
  refine exists_valueOfResult (Nat.two_pow_pos 149) ?_
  rw [Int.cast_mul, Nat.cast_pow, Nat.cast_ofNat, div_div, ← div_mul_div_comm]
  exact h

/-- A difference is the sum with the opposite. -/
theorem value_sub (x y : Float32) : value (x - y) = value (x + -y) := by
  rw [value, value, units_sub, units_add, units_neg]
  cases hx : units x with
  | none => rfl
  | some m =>
    cases hy : units y with
    | none => rfl
    | some n =>
      change Option.map _ (fit (nearestInt (m - n) 1)) = Option.map _ (fit (nearestInt (m + -n) 1))
      rw [Int.sub_eq_add_neg]

theorem value_add_comm (x y : Float32) : value (x + y) = value (y + x) := by
  rw [value, value, units_add, units_add]
  cases hx : units x with
  | none => cases units y <;> rfl
  | some m =>
    cases hy : units y with
    | none => rfl
    | some n =>
      change Option.map _ (fit (nearestInt (m + n) 1)) = Option.map _ (fit (nearestInt (n + m) 1))
      rw [Int.add_comm]

theorem value_mul_comm (x y : Float32) : value (x * y) = value (y * x) := by
  rw [value, value, units_mul, units_mul]
  cases hx : units x with
  | none => cases units y <;> rfl
  | some m =>
    cases hy : units y with
    | none => rfl
    | some n =>
      change Option.map _ (fit (nearestInt (m * n) _)) = Option.map _ (fit (nearestInt (n * m) _))
      rw [Int.mul_comm]

/-! ### Exact operations -/

/-- A result that is the units of a float is exact. -/
theorem valueOfResult_of_units {n : ℤ} (hy : units y = some n) : valueOfResult n 1 = value y := by
  rw [valueOfResult, nearestInt_of_units hy, fit_of_units hy, value, hy]

theorem value_add_zero (hy : value y = some 0) : value (x + y) = value x := by
  obtain ⟨n, hy, hn⟩ := value_eq_some_iff.mp hy
  obtain rfl : n = 0 := by simpa using hn
  cases hx : units x with
  | none => rw [value, value, units_add, hx]; rfl
  | some m => rw [value_lift (units_add x y) hx hy, add_zero, valueOfResult_of_units hx]

theorem value_zero_mul (hx : value x = some 0) : value (x * y) = (value y).map fun _ => 0 := by
  obtain ⟨m, hx, hm⟩ := value_eq_some_iff.mp hx
  obtain rfl : m = 0 := by simpa using hm
  cases hy : units y with
  | none => rw [value, value, units_mul, hx, hy]; rfl
  | some n =>
    have hzero : valueOfResult 0 (2 ^ 149) = some 0 := by decide +kernel
    rw [value_lift (units_mul x y) hx hy, zero_mul, hzero, value, hy]
    rfl

/-- A unit factor on both sides. -/
theorem valueOfResult_mul_self (n : ℤ) {b : ℕ} (hb : 0 < b) :
    valueOfResult (b * n) b = valueOfResult n 1 := by
  have hsign : (b * n : ℤ).sign = n.sign := by
    rw [Int.sign_mul, Int.sign_eq_one_of_pos (by omega), one_mul]
  have hnearest := nearest_mul_left (a := n.natAbs) (b := 1) hb
  rw [mul_one] at hnearest
  have hint : nearestInt (b * n) b = nearestInt n 1 := by
    rw [nearestInt, nearestInt, hsign, Int.natAbs_mul, Int.natAbs_natCast, hnearest]
  rw [valueOfResult, valueOfResult, hint]

/-- Multiplication by one or by minus one. -/
theorem value_sign_mul (hp : value x = some p) (hsign : |p| = 1) :
    value (x * y) = (value y).map (p * ·) := by
  obtain ⟨m, hx, rfl⟩ := value_eq_some_iff.mp hp
  cases hy : units y with
  | none => rw [value, value, units_mul, hx, hy]; rfl
  | some n =>
    rw [value_lift (units_mul x y) hx hy]
    rcases eq_or_eq_neg_of_abs_eq hsign with hone | hone
    · obtain rfl : m = (2 ^ 149 : ℕ) := by
        rw [div_eq_one_iff_eq (by positivity)] at hone
        exact_mod_cast hone
      rw [hone, valueOfResult_mul_self n (Nat.two_pow_pos 149), valueOfResult_of_units hy]
      simp
    · obtain rfl : m = -(2 ^ 149 : ℕ) := by
        rw [div_eq_iff (by positivity), neg_one_mul] at hone
        exact_mod_cast hone
      have hneg : units (-y) = some (-n) := by rw [units_neg, hy]; rfl
      rw [hone, neg_mul, ← mul_neg, valueOfResult_mul_self (-n) (Nat.two_pow_pos 149),
        valueOfResult_of_units hneg, value_neg]
      simp

/-! ### Reciprocals -/

theorem value_reciprocal_eq {n : ℤ} (hy : units y = some n) :
    value (1 / y) =
      if n = 0 then none else valueOfResult (2 ^ 149 * n.sign * 2 ^ 149) n.natAbs := by
  have hne : units y ≠ none := by rw [hy]; exact Option.some_ne_none _
  rw [value, units_div 1 hne, units_one, hy]
  change Option.map _ ((quotient (2 ^ 149) n).bind fit) = _
  unfold quotient
  split_ifs with h
  · rfl
  · rfl

/-- The exact reciprocal, as a fraction of units. -/
theorem one_div_value {n : ℤ} (hn : n ≠ 0) :
    1 / ((n : ℚ) / 2 ^ 149) =
      ((2 ^ 149 * n.sign * 2 ^ 149 : ℤ) : ℚ) / n.natAbs / 2 ^ 149 := by
  have habs : (n.natAbs : ℚ) ≠ 0 := Nat.cast_ne_zero.mpr (Int.natAbs_ne_zero.mpr hn)
  have hnq : (n : ℚ) ≠ 0 := Int.cast_ne_zero.mpr hn
  have hsign : (n : ℚ) * n.sign = n.natAbs := by
    rw [← Int.cast_mul, Int.mul_sign_self, Int.cast_natCast]
  rw [one_div_div, div_div, div_eq_div_iff hnq (by positivity)]
  push_cast
  rw [← hsign]
  ring

theorem value_reciprocal (hq : value y = some q) (hr : value (1 / y) = some r) :
    q ≠ 0 ∧ |r - 1 / q| ≤ |1 / q| / 2 ^ 24 + 1 / 2 ^ 150 := by
  obtain ⟨n, hy, rfl⟩ := value_eq_some_iff.mp hq
  rw [value_reciprocal_eq hy] at hr
  split_ifs at hr with hn
  refine ⟨div_ne_zero (Int.cast_ne_zero.mpr hn) (by positivity), ?_⟩
  rw [one_div_value hn]
  exact abs_valueOfResult_sub_le (Int.natAbs_pos.mpr hn) hr

/-- The fraction of units in a reciprocal, without its sign. -/
theorem natAbs_reciprocal {n : ℤ} (hn : n ≠ 0) :
    (2 ^ 149 * n.sign * 2 ^ 149).natAbs = 2 ^ 149 * 2 ^ 149 := by
  rw [Int.natAbs_mul, Int.natAbs_mul, Int.natAbs_sign_of_ne_zero hn]
  norm_num

/-- A quarter of the least normal value, in units. -/
theorem quarter_lt_iff (n : ℤ) : 1 / 2 ^ 128 < |(n : ℚ) / 2 ^ 149| ↔ 2 ^ 21 < n.natAbs := by
  have hpos : (0 : ℚ) < 2 ^ 149 := by positivity
  have hquarter : (1 / 2 ^ 128 : ℚ) * 2 ^ 149 = (2 ^ 21 : ℕ) := by norm_num
  rw [abs_div, abs_of_pos hpos, lt_div_iff₀ hpos, hquarter, ← Int.cast_abs, ← Nat.cast_natAbs,
    Nat.cast_lt]

/-- **A reciprocal is finite** exactly if the divisor exceeds a quarter of the least normal
value. -/
theorem exists_value_reciprocal_iff (hq : value y = some q) :
    (∃ r, value (1 / y) = some r) ↔ 1 / 2 ^ 128 < |q| := by
  obtain ⟨n, hy, rfl⟩ := value_eq_some_iff.mp hq
  rw [quarter_lt_iff, value_reciprocal_eq hy]
  split_ifs with hn
  · simp [hn]
  · have hpos : 0 < n.natAbs := Int.natAbs_pos.mpr hn
    constructor
    · rintro ⟨r, hr⟩
      have hlt := (valueOfResult_eq_some_iff.mp hr).1
      by_contra hle
      -- the quotient is beyond the limit, and the limit is representable
      have hge : limit ≤ nearest (2 ^ 149 * 2 ^ 149) n.natAbs := by
        rw [← nearest_of_representable (n := limit) ⟨2 ^ 23, 254, by norm_num, by norm_num [limit]⟩
          one_pos]
        refine nearest_mono one_pos hpos ?_
        rw [mul_one, mul_one]
        calc limit * n.natAbs ≤ limit * 2 ^ 21 := Nat.mul_le_mul_left _ (not_lt.mp hle)
          _ = 2 ^ 149 * 2 ^ 149 := by norm_num [limit]
      have hsign : (2 ^ 149 * n.sign * 2 ^ 149).sign.natAbs = 1 := by
        rw [Int.natAbs_sign_of_ne_zero]
        rw [← Int.natAbs_ne_zero, natAbs_reciprocal hn]
        norm_num
      rw [nearestInt, Int.natAbs_mul, hsign, one_mul, Int.natAbs_natCast,
        natAbs_reciprocal hn] at hlt
      exact absurd hlt (not_lt.mpr hge)
    · intro h
      refine ⟨_, valueOfResult_eq_some_iff.mpr ⟨natAbs_nearestInt_lt hpos ?_, rfl⟩⟩
      rw [natAbs_reciprocal hn]
      calc 2 ^ 149 * 2 ^ 149 ≤ (2 ^ 24 - 1) * 2 ^ 253 * (2 ^ 21 + 1) := by norm_num
        _ ≤ (2 ^ 24 - 1) * 2 ^ 253 * n.natAbs := Nat.mul_le_mul_left _ h

end Value

end Colorimetry.Binary32
