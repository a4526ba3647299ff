import Mathlib
import Colorimetry.Proofs.Number.Shortest

/-!
# Decimals close to the middle of two values

The middle of two neighbouring binary32 values is an odd multiple of half a last place,
`m * 2 ^ (e - 1)`. How close can a decimal come to one without being one? A decimal with few digits
is a multiple of a power of ten that is about as large as the last place, so the question is how well
fractions with small denominators approximate `10 ^ k / 2 ^ (e - 1)`, one number for each of the 254
exponents of the format.

Farey's answer (`near_cases`): if two fractions enclose the number and are so close to each other
that their cross products differ by one, then every fraction with a smaller denominator than both
together that comes close to the number is one of the two. The two are found by the Euclidean
algorithm (`neighbours`), and that they are what is wanted is checked afterwards, for each exponent
(`certificate_all`). **There are two exponents with a decimal closer than the binary64 values around
a middle can tell** (`eq_middle_or`).
-/

namespace Colorimetry.Number

/-! ### Enclosing fractions -/

/-- A fraction. -/
structure Approximant where
  /-- The denominator. -/
  den : ℕ
  /-- The numerator. -/
  num : ℕ
  deriving DecidableEq

namespace Approximant

/-- By how much the multiple of a number by the denominator misses the numerator, in units of the
denominator of that number. -/
def gap (a : Approximant) (N Q : ℕ) : ℕ := ((a.den : ℤ) * N - a.num * Q).natAbs

/-- A fraction advanced by a multiple of another one. -/
def advance (a : Approximant) (t : ℕ) (b : Approximant) : Approximant :=
  ⟨a.den + t * b.den, a.num + t * b.num⟩

end Approximant

/-- The gaps of two fractions to a number between them, weighted with each other's denominators, make
up the denominator of the number. A miss by a small share of it is then smaller than both gaps
together. -/
theorem lt_gap_add_gap {T Q δ δ' u v w : ℤ} (hQ : 0 < Q) (hdet : δ * v + δ' * u = Q) (hδ : 0 ≤ δ)
    (hδ' : 0 ≤ δ') (hu : 0 ≤ u) (huT : u < T) (hvT : v < T) (hnear : T * w ≤ Q) : w < δ + δ' := by
  by_contra! hle
  have hT : T * (δ + δ') ≤ Q := (mul_le_mul_of_nonneg_left hle (by linarith)).trans hnear
  have hleft : δ * v ≤ δ * T := mul_le_mul_of_nonneg_left hvT.le hδ
  have hright : δ' * u ≤ δ' * T := mul_le_mul_of_nonneg_left huT.le hδ'
  -- one of the gaps is not zero, since they make up the denominator
  rcases hδ.lt_or_eq with hpos | hzero
  · have hlt : δ * v < δ * T := mul_lt_mul_of_pos_left hvT hpos
    linarith
  · rcases hδ'.lt_or_eq with hpos' | hzero'
    · have hlt : δ' * u < δ' * T := mul_lt_mul_of_pos_left huT hpos'
      linarith
    · rw [← hzero, ← hzero', zero_mul, zero_mul] at hdet
      linarith

/-- A difference of multiples by numbers of opposite signs is as large as both together. -/
theorem add_le_abs_mul_sub_mul {x y δ δ' : ℤ} (hδ : 0 ≤ δ) (hδ' : 0 ≤ δ')
    (hxy : (x < 0 ∧ 0 < y) ∨ (0 < x ∧ y < 0)) : δ + δ' ≤ |x * δ - y * δ'| := by
  have hone {z w : ℤ} (hz : 0 < z) (hw : 0 ≤ w) : w ≤ z * w := le_mul_of_one_le_left hw hz
  rcases hxy with ⟨hx, hy⟩ | ⟨hx, hy⟩
  · have hleft := hone (neg_pos.mpr hx) hδ
    have hright := hone hy hδ'
    exact le_trans (by linarith) (neg_le_abs _)
  · have hleft := hone hx hδ
    have hright := hone (neg_pos.mpr hy) hδ'
    exact le_trans (by linarith) (le_abs_self _)

/-- **Close fractions are enclosing fractions.** Two fractions enclose `N / Q`, and their cross
products differ by one. A fraction whose denominator is smaller than both denominators together and
that misses `N / Q` by less than the enclosing ones together is a multiple of one of the two. -/
theorem near_cases {T N Q : ℕ} {a b : Approximant} (hQ : 0 < Q)
    (hcross : a.den * b.num = b.den * a.num + 1) (ha : a.num * Q ≤ a.den * N)
    (hb : b.den * N ≤ b.num * Q) (haT : a.den < T) (hbT : b.den < T) {D m : ℤ} (hD : 0 < D)
    (hsum : D < a.den + b.den) (hnear : T * |D * N - m * Q| ≤ Q) :
    (∃ x : ℤ, 0 < x ∧ D = x * a.den ∧ m = x * a.num) ∨
      ∃ x : ℤ, 0 < x ∧ D = x * b.den ∧ m = x * b.num := by
  zify at hcross ha hb hQ haT hbT
  -- the cross products being one apart, the enclosing fractions are a basis
  obtain ⟨x, hx⟩ : ∃ x : ℤ, x = D * b.num - m * b.den := ⟨_, rfl⟩
  obtain ⟨y, hy⟩ : ∃ y : ℤ, y = m * a.den - D * a.num := ⟨_, rfl⟩
  have hDxy : D = x * a.den + y * b.den := by
    rw [hx, hy]
    linear_combination (-D) * hcross
  have hmxy : m = x * a.num + y * b.num := by
    rw [hx, hy]
    linear_combination (-m) * hcross
  obtain ⟨δ, hδ⟩ : ∃ δ : ℤ, δ = a.den * N - a.num * Q := ⟨_, rfl⟩
  obtain ⟨δ', hδ'⟩ : ∃ δ' : ℤ, δ' = b.num * Q - b.den * N := ⟨_, rfl⟩
  have hδ0 : 0 ≤ δ := by linarith
  have hδ0' : 0 ≤ δ' := by linarith
  have hmiss : D * N - m * Q = x * δ - y * δ' := by
    rw [hDxy, hmxy, hδ, hδ']
    ring
  have hdet : δ * b.den + δ' * a.den = Q := by
    rw [hδ, hδ']
    linear_combination (Q : ℤ) * hcross
  have haPos : (0 : ℤ) ≤ a.den := Int.natCast_nonneg _
  have hbPos : (0 : ℤ) ≤ b.den := Int.natCast_nonneg _
  -- with coefficients of opposite signs the fraction would miss by both gaps
  have hclose := lt_gap_add_gap hQ hdet hδ0 hδ0' haPos haT hbT hnear
  rw [hmiss] at hclose
  rcases lt_trichotomy x 0 with hx0 | hx0 | hx0
  · rcases lt_or_ge 0 y with hy0 | hy0
    · exact absurd hclose (not_lt.mpr (add_le_abs_mul_sub_mul hδ0 hδ0' (.inl ⟨hx0, hy0⟩)))
    · have hleft : x * a.den ≤ 0 := mul_nonpos_of_nonpos_of_nonneg hx0.le haPos
      have hright : y * b.den ≤ 0 := mul_nonpos_of_nonpos_of_nonneg hy0 hbPos
      linarith
  · rw [hx0, zero_mul, zero_add] at hDxy hmxy
    refine .inr ⟨y, ?_, hDxy, hmxy⟩
    by_contra! hy0
    have hright : y * b.den ≤ 0 := mul_nonpos_of_nonpos_of_nonneg hy0 hbPos
    linarith
  · rcases lt_trichotomy y 0 with hy0 | hy0 | hy0
    · exact absurd hclose (not_lt.mpr (add_le_abs_mul_sub_mul hδ0 hδ0' (.inr ⟨hx0, hy0⟩)))
    · rw [hy0, zero_mul, add_zero] at hDxy hmxy
      exact .inl ⟨x, hx0, hDxy, hmxy⟩
    · have hleft : (a.den : ℤ) ≤ x * a.den := le_mul_of_one_le_left haPos hx0
      have hright : (b.den : ℤ) ≤ y * b.den := le_mul_of_one_le_left hbPos hy0
      linarith

/-! ### The search for them -/

/-- The fractions that enclose `N / Q`, advanced in turn as far as they go until their denominators
together exceed a limit. -/
def neighbours (N Q limit : ℕ) : ℕ → Approximant → Approximant → Approximant × Approximant
  | 0, a, b => (a, b)
  | n + 1, a, b =>
    if limit < a.den + b.den then (a, b)
    else if b.gap N Q ≤ a.gap N Q then
      let t := if b.gap N Q = 0 then (limit - a.den) / b.den
        else min (a.gap N Q / b.gap N Q) ((limit - a.den) / b.den)
      neighbours N Q limit n (a.advance t b) b
    else
      let t := if a.gap N Q = 0 then (limit - b.den) / a.den
        else min (b.gap N Q / a.gap N Q) ((limit - b.den) / a.den)
      neighbours N Q limit n a (b.advance t a)

/-! ### One exponent -/

/-- The coarsest decimal grid with a point that is not further from a value of an exponent than a
middle is. -/
def coarsest (e : ℤ) : ℤ := ((e - 1) * 30103 - 1) / 100000 + 1

/-- The numerator of a step of the grid in halves of the last place. -/
def stepNum (e : ℤ) : ℕ := Nat.pow 10 (coarsest e).toNat * Nat.pow 2 (1 - e).toNat

/-- The denominator of a step of the grid in halves of the last place. -/
def stepDen (e : ℤ) : ℕ := Nat.pow 10 (-coarsest e).toNat * Nat.pow 2 (e - 1).toNat

/-- The number of steps to the end of the binade. -/
def reach (e : ℤ) : ℕ := Nat.pow 2 25 * stepDen e / stepNum e

/-- The middle that two decimals come too close to, in halves of the last place. -/
def criticalMiddle : ℕ := 22841339

/-- An enclosing fraction is exact, or misses by more than `2 ^ -29`, or is one of the two. -/
def isTellable (e : ℤ) (a : Approximant) : Bool :=
  a.gap (stepNum e) (stepDen e) == 0 ||
    decide (stepDen e < Nat.pow 2 29 * a.gap (stepNum e) (stepDen e)) ||
    (decide (e = -107 ∨ e = -106) && a.num == criticalMiddle && decide (reach e < 2 * a.den))

/-- What is checked of an exponent. -/
def certificate (e : ℤ) : Bool :=
  let N := stepNum e
  let Q := stepDen e
  let (a, b) := neighbours N Q (reach e) 100 ⟨1, N / Q⟩ ⟨1, N / Q + 1⟩
  decide (N * Nat.pow 2 29 + 10 * Q < 10 * Q * Nat.pow 2 29) &&
    a.den * b.num == b.den * a.num + 1 && decide (a.num * Q ≤ a.den * N) &&
    decide (b.den * N ≤ b.num * Q) && decide (a.den < Nat.pow 2 29) &&
    decide (b.den < Nat.pow 2 29) && decide (reach e < a.den + b.den) && isTellable e a &&
    isTellable e b

theorem certificate_all : ∀ i < 254, certificate ((i : ℕ) - 149) = true := by
  decide +kernel

section Exponent

variable {e : ℤ}

theorem stepNum_pos (e : ℤ) : 0 < stepNum e :=
  Nat.mul_pos (Nat.pow_pos (by norm_num)) (Nat.pow_pos two_pos)

theorem stepDen_pos (e : ℤ) : 0 < stepDen e :=
  Nat.mul_pos (Nat.pow_pos (by norm_num)) (Nat.pow_pos two_pos)

/-- A step of the grid in halves of the last place. -/
theorem stepNum_div_stepDen (e : ℤ) :
    (stepNum e / stepDen e : ℚ) = 10 ^ coarsest e / 2 ^ (e - 1) := by
  have hten := pow_div_pow_eq_zpow (show (10 : ℚ) ≠ 0 by norm_num) (coarsest e)
  have htwo := pow_div_pow_eq_zpow (show (2 : ℚ) ≠ 0 by norm_num) (1 - e)
  have hinv : (2 : ℚ) ^ (e - 1) = (2 ^ (1 - e))⁻¹ := by
    rw [← zpow_neg, neg_sub]
  rw [hinv, div_inv_eq_mul, ← hten, ← htwo, neg_sub]
  simp only [stepNum, stepDen, Nat.pow_eq]
  push_cast
  rw [div_mul_div_comm]

/-- What is wanted of the fractions that enclose a step. -/
theorem exists_enclosing (hlow : -149 ≤ e) (hhigh : e ≤ 104) :
    stepNum e * 2 ^ 29 + 10 * stepDen e < 10 * stepDen e * 2 ^ 29 ∧ ∃ a b : Approximant,
      a.den * b.num = b.den * a.num + 1 ∧ a.num * stepDen e ≤ a.den * stepNum e ∧
      b.den * stepNum e ≤ b.num * stepDen e ∧ a.den < 2 ^ 29 ∧ b.den < 2 ^ 29 ∧
      reach e < a.den + b.den ∧ isTellable e a = true ∧ isTellable e b = true := by
  have hcert := certificate_all (e + 149).toNat (by omega)
  have hindex : (((e + 149).toNat : ℕ) : ℤ) - 149 = e := by omega
  rw [hindex] at hcert
  simp only [certificate] at hcert
  generalize neighbours (stepNum e) (stepDen e) (reach e) 100 ⟨1, stepNum e / stepDen e⟩
    ⟨1, stepNum e / stepDen e + 1⟩ = ab at hcert
  simp only [Bool.and_eq_true, decide_eq_true_eq, beq_iff_eq, Nat.pow_eq] at hcert
  obtain ⟨⟨⟨⟨⟨⟨⟨⟨hstep, hcross⟩, ha⟩, hb⟩, haT⟩, hbT⟩, hreach⟩, hat⟩, hbt⟩ := hcert
  exact ⟨hstep, ab.1, ab.2, hcross, ha, hb, haT, hbT, hreach, hat, hbt⟩

/-- A multiple of a fraction that can be told from a middle is one only if it is exact. -/
theorem eq_or_of_isTellable {a : Approximant} (ha : isTellable e a = true) {x : ℤ} (hx : 0 < x)
    (hreach : x * a.den ≤ reach e)
    (hnear : (2 ^ 29 : ℕ) * |x * a.den * stepNum e - x * a.num * stepDen e| ≤ stepDen e) :
    x * a.den * stepNum e = x * a.num * stepDen e ∨
      (e = -107 ∨ e = -106) ∧ x * a.num = criticalMiddle := by
  have hgap : |x * a.den * stepNum e - x * a.num * stepDen e| =
      x * a.gap (stepNum e) (stepDen e) := by
    rw [Approximant.gap, Int.natCast_natAbs, mul_assoc, mul_assoc, ← mul_sub, abs_mul,
      abs_of_pos hx]
  simp only [isTellable, Bool.or_eq_true, Bool.and_eq_true, beq_iff_eq, decide_eq_true_eq,
    Nat.pow_eq] at ha
  rcases ha with (hzero | hfar) | ⟨⟨he, hnum⟩, htwice⟩
  · left
    rw [hzero, Nat.cast_zero, mul_zero, abs_eq_zero] at hgap
    exact sub_eq_zero.mp hgap
  · exfalso
    rw [hgap] at hnear
    have hle : (a.gap (stepNum e) (stepDen e) : ℤ) ≤ x * a.gap (stepNum e) (stepDen e) :=
      le_mul_of_one_le_left (Int.natCast_nonneg _) hx
    zify at hfar
    push_cast at hnear
    linarith
  · right
    refine ⟨he, ?_⟩
    obtain rfl : x = 1 := by
      by_contra hne
      have htwo : 2 ≤ x := by omega
      have hle : 2 * (a.den : ℤ) ≤ x * a.den :=
        mul_le_mul_of_nonneg_right htwo (Int.natCast_nonneg _)
      omega
    rw [one_mul, hnum]

/-- The distance that can be told, in halves of the last place. -/
theorem two_zpow_sub_thirty (e : ℤ) : (2 : ℚ) ^ (e - 30) = 2 ^ (e - 1) / 2 ^ 29 := by
  rw [← zpow_natCast, ← zpow_sub₀ two_ne_zero]
  congr 1
  push_cast
  ring

/-- The end of the binade, in halves of the last place. -/
theorem two_zpow_add_twenty_four (e : ℤ) : (2 : ℚ) ^ (e + 24) = 2 ^ (e - 1) * 2 ^ 25 := by
  rw [← zpow_natCast, ← zpow_add₀ two_ne_zero]
  congr 1
  push_cast
  ring

/-- A decimal that is one step away from the value stands on the coarsest grid. -/
theorem coarsest_le {k : ℤ} (hcoarsest : stepNum e * 2 ^ 29 + 10 * stepDen e < 10 * stepDen e * 2 ^ 29)
    (hstep : (2 : ℚ) ^ (e - 1) - 2 ^ (e - 30) ≤ 10 ^ k) : coarsest e ≤ k := by
  have hhalf : (0 : ℚ) < 2 ^ (e - 1) := zpow_pos two_pos _
  have hden : (0 : ℚ) < stepDen e := Nat.cast_pos.mpr (stepDen_pos e)
  by_contra! hlt
  have hle : (10 : ℚ) ^ k ≤ 10 ^ (coarsest e - 1) := zpow_le_zpow_right₀ (by norm_num) (by omega)
  have hcoarse : (10 : ℚ) ^ (coarsest e - 1) < 2 ^ (e - 1) - 2 ^ (e - 30) := by
    have hcast : (stepNum e * 2 ^ 29 + 10 * stepDen e : ℚ) < 10 * stepDen e * 2 ^ 29 := by
      exact_mod_cast hcoarsest
    have htenth : (10 : ℚ) ^ (coarsest e - 1) = stepNum e / stepDen e * 2 ^ (e - 1) / 10 := by
      rw [stepNum_div_stepDen, div_mul_cancel₀ _ hhalf.ne', zpow_sub_one₀ (by norm_num)]
      ring
    rw [htenth, two_zpow_sub_thirty, div_mul_eq_mul_div, div_div, div_lt_iff₀ (by positivity)]
    have hmul := mul_lt_mul_of_pos_right hcast hhalf
    linear_combination (1 / 2 ^ 29 : ℚ) * hmul
  linarith

/-- A decimal on the coarsest grid is a number of steps. -/
theorem exists_steps {d : Decimal} (h : coarsest e ≤ d.exponent) :
    ∃ D : ℕ, d.value = D * (stepNum e / stepDen e) * 2 ^ (e - 1) := by
  obtain ⟨s, hs⟩ : ∃ s : ℕ, d.exponent = coarsest e + s :=
    ⟨(d.exponent - coarsest e).toNat, by omega⟩
  refine ⟨d.digits * 10 ^ s, ?_⟩
  rw [Decimal.value, hs, zpow_add₀ (by norm_num), zpow_natCast, stepNum_div_stepDen]
  push_cast
  field_simp

/-- In the binade there are not more steps than to its end. -/
theorem le_reach {D : ℕ} (h : (D * (stepNum e / stepDen e) * 2 ^ (e - 1) : ℚ) < 2 ^ (e + 24)) :
    D ≤ reach e := by
  have hhalf : (0 : ℚ) < 2 ^ (e - 1) := zpow_pos two_pos _
  have hden : (0 : ℚ) < stepDen e := Nat.cast_pos.mpr (stepDen_pos e)
  rw [two_zpow_add_twenty_four, mul_comm (2 ^ (e - 1)), mul_lt_mul_iff_left₀ hhalf, mul_div_assoc',
    div_lt_iff₀ hden] at h
  rw [reach, Nat.le_div_iff_mul_le (stepNum_pos e)]
  exact_mod_cast h.le

/-- How far a number of steps is from a number of halves of the last place. -/
theorem steps_sub_halves (D m : ℕ) :
    (D * (stepNum e / stepDen e) * 2 ^ (e - 1) - m * 2 ^ (e - 1) : ℚ) =
      ((D : ℤ) * stepNum e - m * stepDen e : ℤ) * (2 ^ (e - 1) / stepDen e) := by
  have hden : (stepDen e : ℚ) ≠ 0 := Nat.cast_ne_zero.mpr (stepDen_pos e).ne'
  push_cast
  field_simp

/-- The distance is that of the fraction. -/
theorem mul_abs_le_of_abs_le {D m : ℕ}
    (h : |(D * (stepNum e / stepDen e) * 2 ^ (e - 1) - m * 2 ^ (e - 1) : ℚ)| ≤ 2 ^ (e - 30)) :
    (2 ^ 29 : ℕ) * |(D : ℤ) * stepNum e - m * stepDen e| ≤ stepDen e := by
  have hhalf : (0 : ℚ) < 2 ^ (e - 1) := zpow_pos two_pos _
  have hden : (0 : ℚ) < stepDen e := Nat.cast_pos.mpr (stepDen_pos e)
  rw [steps_sub_halves, abs_mul, abs_of_pos (div_pos hhalf hden), two_zpow_sub_thirty,
    mul_div_assoc', div_le_div_iff₀ hden (by norm_num)] at h
  have hscaled : (2 ^ 29 : ℚ) * |(((D : ℤ) * stepNum e - m * stepDen e : ℤ) : ℚ)| ≤ stepDen e := by
    refine le_of_mul_le_mul_right ?_ hhalf
    linarith
  exact_mod_cast hscaled

/-- **A decimal that is as close to a middle as half a binary64 place is the middle**, but for one
middle at two exponents. The decimal lies in the binade and is not further from the value than one
step of its last digit. -/
theorem eq_middle_or (hlow : -149 ≤ e) (hhigh : e ≤ 104) {d : Decimal} {m : ℕ}
    (hpos : 0 < d.value) (hbinade : d.value < 2 ^ (e + 24))
    (hstep : (2 : ℚ) ^ (e - 1) - 2 ^ (e - 30) ≤ 10 ^ d.exponent)
    (hnear : |d.value - m * 2 ^ (e - 1)| ≤ 2 ^ (e - 30)) :
    d.value = m * 2 ^ (e - 1) ∨ (e = -107 ∨ e = -106) ∧ m = criticalMiddle := by
  obtain ⟨hcoarsest, a, b, hcross, ha, hb, haT, hbT, hreach, hat, hbt⟩ :=
    exists_enclosing hlow hhigh
  obtain ⟨D, hD⟩ := exists_steps (coarsest_le hcoarsest hstep)
  rw [hD] at hpos hbinade hnear ⊢
  have hDpos : (0 : ℤ) < D := by
    have hne : D ≠ 0 := by
      rintro rfl
      rw [Nat.cast_zero, zero_mul, zero_mul] at hpos
      exact lt_irrefl _ hpos
    omega
  have hDreach := le_reach hbinade
  have hDnear := mul_abs_le_of_abs_le hnear
  have hexact (h : (D : ℤ) * stepNum e = m * stepDen e) :
      (D * (stepNum e / stepDen e) * 2 ^ (e - 1) : ℚ) = m * 2 ^ (e - 1) := by
    rw [← sub_eq_zero, steps_sub_halves, h, sub_self, Int.cast_zero, zero_mul]
  -- a close decimal is a multiple of an enclosing fraction, and these are told from a middle
  rcases near_cases (stepDen_pos e) hcross ha hb haT hbT hDpos (by omega) hDnear with
    ⟨x, hx, hDx, hmx⟩ | ⟨x, hx, hDx, hmx⟩
  · rw [hDx, hmx] at hDnear hexact
    rcases eq_or_of_isTellable hat hx (by omega) hDnear with h | ⟨he, hnum⟩
    · exact .inl (hexact h)
    · exact .inr ⟨he, by omega⟩
  · rw [hDx, hmx] at hDnear hexact
    rcases eq_or_of_isTellable hbt hx (by omega) hDnear with h | ⟨he, hnum⟩
    · exact .inl (hexact h)
    · exact .inr ⟨he, by omega⟩

end Exponent

end Colorimetry.Number
