import Mathlib
import Colorimetry.Number.Literal

/-!
# The nearest value of a format

Rounding to a format is spelled out in `Format.round` by exponents and significands. What it does is
simpler to say (`Format.IsNearest`): the patterns of a format are in the order of their values, and a
pattern is nearest to a number that lies between the middles to its two neighbours, where a middle
itself belongs to the even one of two patterns. There is one such pattern for each number
(`IsNearest.unique`), and rounding finds it unless it is beyond infinity (`exists_isNearest_round`).

Two facts about values carry everything. The step from a pattern to the next one is a power of two,
the one of its exponent (`value_succ`). And a pattern is a significand and a number of binades
(`exists_shape`), where the last significand of a binade is the first of the next
(`value_shape`), so a significand that is rounded up need not be put right.
-/

namespace Colorimetry.Number

/-! ### Fractions -/

section Fractions

theorem shifted_pos (n : ℕ) (e : ℤ) : 0 < (shifted n e).2 :=
  Nat.pow_pos two_pos

theorem tens_pos (n : ℕ) (e : ℤ) : 0 < (tens n e).2 :=
  Nat.pow_pos (by norm_num)

/-- A power with an exponent of either sign is a fraction of natural powers. -/
theorem pow_div_pow_eq_zpow {a : ℚ} (ha : a ≠ 0) (e : ℤ) :
    a ^ e.toNat / a ^ (-e).toNat = a ^ e := by
  rw [← zpow_natCast, ← zpow_natCast, ← zpow_sub₀ ha]
  congr 1
  omega

theorem shifted_div (n : ℕ) (e : ℤ) :
    ((shifted n e).1 / (shifted n e).2 : ℚ) = n * 2 ^ e := by
  simp only [shifted, Nat.pow_eq]
  push_cast
  rw [mul_div_assoc, pow_div_pow_eq_zpow two_ne_zero]

theorem tens_div (n : ℕ) (e : ℤ) :
    ((tens n e).1 / (tens n e).2 : ℚ) = n * 10 ^ e := by
  simp only [tens, Nat.pow_eq]
  push_cast
  rw [mul_div_assoc, pow_div_pow_eq_zpow (by norm_num)]

/-- A fraction in units of a power of two. -/
theorem shifted_neg_div (num den : ℕ) (e : ℤ) :
    ((shifted num (-e)).1 / ((shifted num (-e)).2 * den : ℕ) : ℚ) = num / den / 2 ^ e := by
  push_cast
  rw [← div_div, shifted_div, zpow_neg]
  ring

/-- A nearest natural number is not below a natural number that the number is not below, -/
theorem le_of_le_nearest {n h : ℕ} {y : ℚ} (hle : n ≤ y) (hup : 2 * y ≤ 2 * h + 1) : n ≤ h := by
  have hlt : (2 * n : ℚ) ≤ 2 * h + 1 := by linarith
  have hlt' : 2 * n ≤ 2 * h + 1 := by exact_mod_cast hlt
  omega

/-- and not above one that it is not above. -/
theorem nearest_le_of_le {n h : ℕ} {y : ℚ} (hle : y ≤ n) (hdown : 2 * h ≤ 2 * y + 1) : h ≤ n := by
  have hlt : (2 * h : ℚ) ≤ 2 * n + 1 := by linarith
  have hlt' : 2 * h ≤ 2 * n + 1 := by exact_mod_cast hlt
  omega

/-- The nearest natural number is a half away at most, and is even if it is as far as that. -/
theorem roundDiv_toEven_spec (num : ℕ) {den : ℕ} (hden : 0 < den) :
    (2 * (num / den) : ℚ) ≤ 2 * roundDiv .toEven num den + 1 ∧
      (2 * roundDiv .toEven num den : ℚ) ≤ 2 * (num / den) + 1 ∧
      ((2 * (num / den) : ℚ) = 2 * roundDiv .toEven num den + 1 ∨
        (2 * roundDiv .toEven num den : ℚ) = 2 * (num / den) + 1 →
          Even (roundDiv .toEven num den)) := by
  have hpos : (0 : ℚ) < den := Nat.cast_pos.mpr hden
  have hnum : (num / den : ℚ) = (num / den : ℕ) + (num % den : ℕ) / den := by
    rw [div_eq_iff hpos.ne', add_mul, div_mul_cancel₀ _ hpos.ne']
    exact_mod_cast (Nat.div_add_mod' num den).symm
  have hmod : ((num % den : ℕ) : ℚ) / den < 1 :=
    (div_lt_one hpos).mpr (Nat.cast_lt.mpr (Nat.mod_lt num hden))
  have hnonneg : 0 ≤ ((num % den : ℕ) : ℚ) / den := by positivity
  have hhalf : (2 * (((num % den : ℕ) : ℚ) / den) : ℚ) = (2 * (num % den) : ℕ) / den := by
    push_cast
    ring
  have hlt : 2 * (num % den) < den ↔ 2 * (((num % den : ℕ) : ℚ) / den) < 1 := by
    rw [hhalf, div_lt_one hpos, Nat.cast_lt]
  have hgt : den < 2 * (num % den) ↔ 1 < 2 * (((num % den : ℕ) : ℚ) / den) := by
    rw [hhalf, one_lt_div hpos, Nat.cast_lt]
  rw [hnum]
  -- from here on only the remainder's share of the divisor counts, a number below one
  generalize ((num % den : ℕ) : ℚ) / den = r at hmod hnonneg hlt hgt
  simp only [roundDiv]
  split_ifs with h1 h2 h3
  · have hr := hlt.mp h1
    refine ⟨by linarith, by linarith, ?_⟩
    rintro (h | h) <;> linarith
  · have hr := hgt.mp h2
    push_cast
    refine ⟨by linarith, by linarith, ?_⟩
    rintro (h | h) <;> linarith
  · -- a tie between an odd number and the next one
    have hr : 2 * r = 1 := le_antisymm (not_lt.mp fun h => h2 (hgt.mpr h))
      (not_lt.mp fun h => h1 (hlt.mpr h))
    push_cast
    refine ⟨by linarith, by linarith, fun _ => ?_⟩
    have hodd : num / den % 2 = 1 := by simpa [Tie.goesUp] using h3
    exact Nat.even_iff.mpr (by omega)
  · have hr : 2 * r = 1 := le_antisymm (not_lt.mp fun h => h2 (hgt.mpr h))
      (not_lt.mp fun h => h1 (hlt.mpr h))
    refine ⟨by linarith, by linarith, fun _ => ?_⟩
    have heven : ¬num / den % 2 = 1 := by simpa [Tie.goesUp] using h3
    exact Nat.even_iff.mpr (by omega)

/-- Both neighbours of a quotient can be the nearest number, and no other can. -/
theorem roundDiv_eq_or (tie : Tie) (num den : ℕ) :
    roundDiv tie num den = num / den ∨ roundDiv tie num den = num / den + 1 := by
  simp only [roundDiv]
  split_ifs <;> simp

end Fractions

/-! ### Values of patterns -/

/-- The number that a magnitude is. -/
def Magnitude.value (v : Magnitude) : ℚ := v.mantissa * 2 ^ v.exponent

namespace Format

/-- The number that a pattern stands for, continued beyond infinity. -/
def value (f : Format) (b : ℕ) : ℚ := (f.magnitude b).value

section Values

variable (f : Format)

theorem leading_pos : 0 < f.leading :=
  Nat.pow_pos two_pos

theorem even_leading (hf : 1 < f.precision) : Even f.leading := by
  rw [leading, Nat.pow_eq]
  exact (Nat.even_pow' (by omega)).mpr even_two

/-- **A pattern is a significand and a number of binades.** -/
theorem exists_shape (b : ℕ) : ∃ n h : ℕ, b = n * f.leading + h ∧ h < 2 * f.leading ∧
    (f.leading ≤ h ∨ n = 0) ∧ f.magnitude b = ⟨h, n - f.lowest⟩ := by
  have hpos := f.leading_pos
  have hmod := Nat.mod_lt b hpos
  have hdiv := Nat.div_add_mod' b f.leading
  cases hk : b / f.leading with
  | zero =>
    refine ⟨0, b, by simp, ?_, .inr rfl, ?_⟩
    · rw [hk, zero_mul, zero_add] at hdiv
      omega
    · simp [magnitude, hk]
  | succ n =>
    refine ⟨n, f.leading + b % f.leading, ?_, by omega, .inl (by omega), ?_⟩
    · rw [hk] at hdiv
      linarith
    · simp [magnitude, hk]

/-- The value of a significand and a number of binades. The last significand of a binade is the
first of the next one. -/
theorem value_shape {n h : ℕ} (hlow : f.leading ≤ h ∨ n = 0) (hhigh : h ≤ 2 * f.leading) :
    f.value (n * f.leading + h) = h * 2 ^ ((n : ℤ) - f.lowest) := by
  have hpos := f.leading_pos
  rcases lt_or_ge h f.leading with hh | hh
  · obtain rfl : n = 0 := hlow.resolve_left (by omega)
    have hdiv : h / f.leading = 0 := Nat.div_eq_of_lt hh
    simp [value, magnitude, hdiv, Magnitude.value]
  · obtain ⟨q, rfl⟩ := Nat.exists_eq_add_of_le hh
    have hpattern : n * f.leading + (f.leading + q) = f.leading * (n + 1) + q := by ring
    rcases (show q ≤ f.leading by omega).lt_or_eq with hq | rfl
    · have hdiv : (f.leading * (n + 1) + q) / f.leading = n + 1 := by
        rw [Nat.mul_add_div hpos, Nat.div_eq_of_lt hq, add_zero]
      have hmod : (f.leading * (n + 1) + q) % f.leading = q := by
        rw [Nat.mul_add_mod, Nat.mod_eq_of_lt hq]
      simp [value, magnitude, hpattern, hdiv, hmod, Magnitude.value]
    · -- twice the leading significand is read as the leading one, a binade up
      have hnext : n * f.leading + (f.leading + f.leading) = f.leading * (n + 2) := by ring
      have hdiv : f.leading * (n + 2) / f.leading = n + 1 + 1 := Nat.mul_div_cancel_left _ hpos
      have hmod : f.leading * (n + 2) % f.leading = 0 := Nat.mul_mod_right _ _
      have hexp : ((n : ℤ) + 1 - f.lowest) = (n - f.lowest) + 1 := by ring
      rw [value, magnitude, hnext, hdiv, hmod, Magnitude.value]
      push_cast
      rw [hexp, zpow_add₀ two_ne_zero]
      ring

/-- In a binade the next pattern has the next significand, -/
theorem value_shape_succ {n h : ℕ} (hlow : f.leading ≤ h ∨ n = 0) (hhigh : h < 2 * f.leading) :
    f.value (n * f.leading + h + 1) = (h + 1) * 2 ^ ((n : ℤ) - f.lowest) := by
  rw [add_assoc, f.value_shape (hlow.imp_left (by omega)) (by omega)]
  push_cast
  rfl

/-- and the previous pattern the previous one. -/
theorem value_shape_pred {n h c : ℕ} (hlow : f.leading < h ∨ n = 0) (hhigh : h ≤ 2 * f.leading)
    (hc : c + 1 = n * f.leading + h) : f.value c = (h - 1) * 2 ^ ((n : ℤ) - f.lowest) := by
  have hpos := f.leading_pos
  have hone : 1 ≤ h := by
    rcases hlow with hlow | rfl <;> omega
  obtain rfl : c = n * f.leading + (h - 1) := by omega
  rw [f.value_shape (hlow.imp_left (by omega)) (by omega), Nat.cast_sub hone, Nat.cast_one]

/-- The step from a pattern to the next one. -/
theorem value_succ (b : ℕ) : f.value (b + 1) = f.value b + 2 ^ (f.magnitude b).exponent := by
  obtain ⟨n, h, hb, hhigh, hlow, hmagnitude⟩ := f.exists_shape b
  rw [hmagnitude, hb, f.value_shape_succ hlow hhigh, f.value_shape hlow hhigh.le]
  ring

/-- **Patterns are in the order of their values.** -/
theorem strictMono_value : StrictMono f.value := by
  refine strictMono_nat_of_lt_succ fun b => ?_
  rw [value_succ]
  have hstep : (0 : ℚ) < 2 ^ (f.magnitude b).exponent := zpow_pos two_pos _
  linarith

theorem value_zero : f.value 0 = 0 := by
  simp [value, magnitude, Magnitude.value, Nat.zero_div]

theorem value_nonneg (b : ℕ) : 0 ≤ f.value b := by
  rw [value, Magnitude.value]
  positivity

/-- A number of not more digits than a significand has, in some binade, has a pattern. -/
theorem exists_value_eq (n s : ℕ) (hn : n < 2 * f.leading) :
    ∃ b, f.value b = n * 2 ^ ((s : ℤ) - f.lowest) := by
  induction s generalizing n with
  | zero =>
    refine ⟨0 * f.leading + n, ?_⟩
    rw [f.value_shape (.inr rfl) hn.le]
  | succ s ih =>
    rcases lt_or_ge n f.leading with h | h
    · -- a short significand is doubled until it is long enough or the last binade is reached
      obtain ⟨b, hb⟩ := ih (2 * n) (by omega)
      refine ⟨b, hb.trans ?_⟩
      have hexp : ((s + 1 : ℕ) : ℤ) - f.lowest = (s - f.lowest) + 1 := by
        push_cast
        ring
      rw [hexp, zpow_add₀ two_ne_zero]
      push_cast
      ring
    · exact ⟨_, f.value_shape (.inl h) hn.le⟩

end Values

/-! ### The nearest pattern -/

/-- **A pattern is nearest to a number**: the number lies between the middles to the neighbours of
the pattern, and on a middle only if the pattern is even. -/
structure IsNearest (f : Format) (x : ℚ) (b : ℕ) : Prop where
  lower : ∀ c, c + 1 = b → f.value c + f.value b ≤ 2 * x
  upper : 2 * x ≤ f.value b + f.value (b + 1)
  even_of_lower : ∀ c, c + 1 = b → f.value c + f.value b = 2 * x → Even b
  even_of_upper : 2 * x = f.value b + f.value (b + 1) → Even b

section Nearest

variable {f : Format} {x : ℚ} {b c : ℕ}

/-- **Rounding is monotone**: a pattern that is nearest to a greater number is not below. -/
theorem IsNearest.mono {y : ℚ} (hb : f.IsNearest x b) (hc : f.IsNearest y c) (hxy : x ≤ y) :
    b ≤ c := by
  by_contra! hlt
  obtain ⟨a, rfl⟩ := Nat.exists_eq_add_of_lt hlt
  have hmono := f.strictMono_value
  have hlower := hb.lower (c + a) rfl
  have hupper := hc.upper
  have hle : f.value c ≤ f.value (c + a) := hmono.monotone (by omega)
  have hle' : f.value (c + 1) ≤ f.value (c + a + 1) := hmono.monotone (by omega)
  -- the middles coincide, so the two patterns are neighbours, and both are even
  have hsame : c = c + a := hmono.injective (by linarith)
  obtain rfl : a = 0 := by omega
  have heven := hc.even_of_upper (by linarith)
  have heven' := hb.even_of_lower c rfl (by linarith)
  exact Nat.not_even_iff_odd.mpr heven.add_one heven'

/-- **There is one nearest pattern.** -/
theorem IsNearest.unique (hb : f.IsNearest x b) (hc : f.IsNearest x c) : b = c :=
  le_antisymm (hb.mono hc le_rfl) (hc.mono hb le_rfl)

/-- Rounding does not pass a value from below, -/
theorem IsNearest.value_le (hb : f.IsNearest x b) (hx : x ≤ f.value c) : f.value b ≤ f.value c := by
  refine f.strictMono_value.monotone (not_lt.mp fun hlt => ?_)
  obtain ⟨a, rfl⟩ := Nat.exists_eq_add_of_lt hlt
  have hlower := hb.lower (c + a) rfl
  have hle : f.value c ≤ f.value (c + a) := f.strictMono_value.monotone (by omega)
  have hlt' : f.value c < f.value (c + a + 1) := f.strictMono_value hlt
  linarith

/-- nor from above. -/
theorem IsNearest.le_value (hb : f.IsNearest x b) (hx : f.value c ≤ x) : f.value c ≤ f.value b := by
  refine f.strictMono_value.monotone (not_lt.mp fun hlt => ?_)
  have hupper := hb.upper
  have hle : f.value (b + 1) ≤ f.value c := f.strictMono_value.monotone hlt
  have hlt' : f.value b < f.value c := f.strictMono_value hlt
  linarith

/-- A value is nearest to itself. -/
theorem isNearest_self (f : Format) (b : ℕ) : f.IsNearest (f.value b) b := by
  have hmono := f.strictMono_value
  have hupper : f.value b < f.value (b + 1) := hmono b.lt_succ_self
  have hlower {c : ℕ} (hc : c + 1 = b) : f.value c < f.value b := hmono (by omega)
  refine ⟨fun c hc => ?_, by linarith, fun c hc htie => ?_, fun htie => ?_⟩
  · linarith [hlower hc]
  · linarith [hlower hc]
  · linarith

/-- A significand that is nearest makes a pattern that is nearest. -/
theorem isNearest_shape (hf : 1 < f.precision) {y : ℚ} {n h : ℕ} (hlow : f.leading ≤ y ∨ n = 0)
    (hhigh : y < 2 * f.leading) (hup : 2 * y ≤ 2 * h + 1) (hdown : 2 * h ≤ 2 * y + 1)
    (heven : 2 * y = 2 * h + 1 ∨ 2 * h = 2 * y + 1 → Even h) :
    f.IsNearest (y * 2 ^ ((n : ℤ) - f.lowest)) (n * f.leading + h) := by
  have hpow : (0 : ℚ) < 2 ^ ((n : ℤ) - f.lowest) := zpow_pos two_pos _
  have hpattern : Even h → Even (n * f.leading + h) :=
    ((f.even_leading hf).mul_left n).add
  have hh : h ≤ 2 * f.leading := nearest_le_of_le (by exact_mod_cast hhigh.le) hdown
  have hh' : f.leading ≤ h ∨ n = 0 := hlow.imp_left fun hlow => le_of_le_nearest hlow hup
  have hvalue := f.value_shape hh' hh
  -- the next pattern is one step up, but at the end of the binade the number is below the value
  have hnext : f.value (n * f.leading + h + 1) = (h + 1) * 2 ^ ((n : ℤ) - f.lowest) ∨
      y * 2 ^ ((n : ℤ) - f.lowest) < f.value (n * f.leading + h) := by
    rcases hh.lt_or_eq with hlt | heq
    · exact .inl (f.value_shape_succ hh' hlt)
    · right
      rw [hvalue, heq]
      push_cast
      exact mul_lt_mul_of_pos_right hhigh hpow
  -- the previous pattern is one step down, but at the start the number is not below the value
  have hprevious (c : ℕ) (hc : c + 1 = n * f.leading + h) :
      f.value c = (h - 1) * 2 ^ ((n : ℤ) - f.lowest) ∨
      f.value (n * f.leading + h) ≤ y * 2 ^ ((n : ℤ) - f.lowest) := by
    by_cases hstart : f.leading < h ∨ n = 0
    · exact .inl (f.value_shape_pred hstart hh hc)
    · obtain ⟨hge, hn⟩ := not_or.mp hstart
      have heq : f.leading = h := le_antisymm (hh'.resolve_right hn) (not_lt.mp hge)
      right
      rw [hvalue, ← heq]
      exact mul_le_mul_of_nonneg_right (hlow.resolve_right hn) hpow.le
  have hmono := f.strictMono_value
  have hlt : f.value (n * f.leading + h) < f.value (n * f.leading + h + 1) :=
    hmono (Nat.lt_succ_self _)
  have hlt' (c : ℕ) (hc : c + 1 = n * f.leading + h) : f.value c < f.value (n * f.leading + h) :=
    hmono (by omega)
  have hup' := mul_le_mul_of_nonneg_right hup hpow.le
  have hdown' := mul_le_mul_of_nonneg_right hdown hpow.le
  refine ⟨fun c hc => ?_, ?_, fun c hc htie => ?_, fun htie => ?_⟩
  · rcases hprevious c hc with h' | h'
    · rw [h', hvalue]
      linarith
    · linarith [hlt' c hc]
  · rcases hnext with h' | h'
    · rw [h', hvalue]
      linarith
    · linarith
  · rcases hprevious c hc with h' | h'
    · rw [h', hvalue] at htie
      refine hpattern (heven (.inr (mul_right_cancel₀ hpow.ne' ?_)))
      linarith
    · linarith [hlt' c hc]
  · rcases hnext with h' | h'
    · rw [h', hvalue] at htie
      refine hpattern (heven (.inl (mul_right_cancel₀ hpow.ne' ?_)))
      linarith
    · linarith

end Nearest

/-! ### Rounding -/

section Rounding

variable (f : Format) {num den : ℕ}

/-- The leading binary digits of a fraction. -/
theorem log2_bounds (hnum : num ≠ 0) (hden : 0 < den) :
    (2 : ℚ) ^ ((num.log2 : ℤ) - den.log2 - 1) < num / den ∧
      (num / den : ℚ) < 2 ^ ((num.log2 : ℤ) - den.log2 + 1) := by
  have hpos : (0 : ℚ) < den := Nat.cast_pos.mpr hden
  have hnumLow : (2 : ℚ) ^ num.log2 ≤ num := by exact_mod_cast Nat.log2_self_le hnum
  have hnumHigh : (num : ℚ) < 2 ^ (num.log2 + 1) := by exact_mod_cast Nat.lt_log2_self
  have hdenLow : (2 : ℚ) ^ den.log2 ≤ den := by exact_mod_cast Nat.log2_self_le hden.ne'
  have hdenHigh : (den : ℚ) < 2 ^ (den.log2 + 1) := by exact_mod_cast Nat.lt_log2_self
  constructor
  · rw [lt_div_iff₀ hpos]
    calc (2 : ℚ) ^ ((num.log2 : ℤ) - den.log2 - 1) * den
      _ < 2 ^ ((num.log2 : ℤ) - den.log2 - 1) * 2 ^ (den.log2 + 1) := by gcongr
      _ = 2 ^ num.log2 := by
        rw [← zpow_natCast, ← zpow_natCast, ← zpow_add₀ two_ne_zero]
        congr 1
        push_cast
        ring
      _ ≤ num := hnumLow
  · rw [div_lt_iff₀ hpos]
    calc (num : ℚ)
      _ < 2 ^ (num.log2 + 1) := hnumHigh
      _ = 2 ^ ((num.log2 : ℤ) - den.log2 + 1) * 2 ^ den.log2 := by
        rw [← zpow_natCast, ← zpow_natCast, ← zpow_add₀ two_ne_zero]
        congr 1
        push_cast
        ring
      _ ≤ 2 ^ ((num.log2 : ℤ) - den.log2 + 1) * den := by gcongr

/-- A significand of full precision is a power of two. -/
theorem cast_leading : (f.leading : ℚ) = 2 ^ ((f.precision - 1 : ℕ) : ℤ) := by
  rw [leading, Nat.pow_eq, zpow_natCast]
  push_cast
  rfl

/-- The significand at an exponent falls short of full precision if the fraction does. -/
theorem shifted_lt_iff (num : ℕ) (hden : 0 < den) (e : ℤ) :
    (shifted num (-e)).1 < f.leading * ((shifted num (-e)).2 * den) ↔
      (num / den : ℚ) < f.leading * 2 ^ e := by
  have hpow : (0 : ℚ) < 2 ^ e := zpow_pos two_pos _
  have hpos : (0 : ℚ) < ((shifted num (-e)).2 * den : ℕ) :=
    Nat.cast_pos.mpr (Nat.mul_pos (shifted_pos _ _) hden)
  rw [← div_lt_iff₀ hpow, ← shifted_neg_div, div_lt_iff₀ hpos]
  norm_cast

/-- The exponent at which a fraction is rounded gives it a significand of full precision, unless that
is finer than the finest grid. -/
theorem exists_exponentOf_eq (hnum : num ≠ 0) (hden : 0 < den) :
    ∃ e : ℤ, f.exponentOf num den = max (-(f.lowest : ℤ)) e ∧
      f.leading * 2 ^ e ≤ (num / den : ℚ) ∧ (num / den : ℚ) < 2 * f.leading * 2 ^ e := by
  obtain ⟨hlow, hhigh⟩ := log2_bounds hnum hden
  unfold exponentOf
  simp only [f.shifted_lt_iff num hden]
  refine ⟨_, rfl, ?_⟩
  generalize hguess : (num.log2 : ℤ) - den.log2 - (f.precision - 1 : ℕ) = guess
  have hsplit (k : ℤ) : (f.leading : ℚ) * 2 ^ (guess + k) = 2 ^ ((num.log2 : ℤ) - den.log2 + k) := by
    rw [cast_leading, ← zpow_add₀ two_ne_zero]
    congr 1
    omega
  -- the fraction is within a binade on either side of the guess, and on which is compared
  split_ifs with h
  · rw [sub_eq_add_neg, hsplit, mul_assoc, hsplit]
    refine ⟨hlow.le, h.trans_eq ?_⟩
    rw [← add_zero guess, hsplit, ← zpow_one_add₀ two_ne_zero]
    congr 1
    ring
  · refine ⟨not_lt.mp h, hhigh.trans_eq ?_⟩
    rw [← hsplit, zpow_add_one₀ two_ne_zero]
    ring

/-- **The exponent at which a fraction is rounded** gives it a significand of full precision, unless
the finest grid is reached first. -/
theorem exponentOf_spec (hnum : num ≠ 0) (hden : 0 < den) :
    -(f.lowest : ℤ) ≤ f.exponentOf num den ∧
      (num / den : ℚ) < 2 * f.leading * 2 ^ f.exponentOf num den ∧
      (f.leading * 2 ^ f.exponentOf num den ≤ (num / den : ℚ) ∨
        f.exponentOf num den = -(f.lowest : ℤ)) := by
  obtain ⟨e, he, hlow, hhigh⟩ := f.exists_exponentOf_eq hnum hden
  rw [he]
  refine ⟨le_max_left _ _, hhigh.trans_le ?_, ?_⟩
  · have hmono : (2 : ℚ) ^ e ≤ 2 ^ max (-(f.lowest : ℤ)) e :=
      zpow_le_zpow_right₀ one_le_two (le_max_right _ _)
    gcongr
  · rcases max_choice (-(f.lowest : ℤ)) e with hmax | hmax
    · exact .inr hmax
    · left
      rwa [hmax]

/-- **Rounding finds the nearest pattern**, or infinity if it is beyond that. -/
theorem exists_isNearest_round (hf : 1 < f.precision) (num : ℕ) {den : ℕ} (hden : 0 < den) :
    ∃ b, f.IsNearest (num / den) b ∧ f.round num den = min f.infinity b := by
  unfold round
  split_ifs with hnum
  · refine ⟨0, ?_, by simp⟩
    rw [hnum, Nat.cast_zero, zero_div, ← f.value_zero]
    exact isNearest_self f 0
  · obtain ⟨hmin, hhigh, hlow⟩ := f.exponentOf_spec hnum hden
    generalize f.exponentOf num den = e at hmin hhigh hlow
    obtain ⟨n, hn⟩ : ∃ n : ℕ, e + f.lowest = n := ⟨(e + f.lowest).toNat, by omega⟩
    have he : (n : ℤ) - f.lowest = e := by omega
    have hpow : (0 : ℚ) < 2 ^ e := zpow_pos two_pos _
    have hden' : 0 < (shifted num (-e)).2 * den := Nat.mul_pos (shifted_pos _ _) hden
    obtain ⟨hup, hdown, heven⟩ := roundDiv_toEven_spec (shifted num (-e)).1 hden'
    rw [shifted_neg_div] at hup hdown heven
    have hnearest := isNearest_shape hf (f := f) (y := num / den / 2 ^ e) (n := n) ?_ ?_ hup hdown
      heven
    · rw [he, div_mul_cancel₀ _ hpow.ne'] at hnearest
      refine ⟨_, hnearest, ?_⟩
      simp only [hn, Int.toNat_natCast]
    · refine hlow.imp (fun h => (le_div_iff₀ hpow).mpr h) fun h => ?_
      omega
    · rw [div_lt_iff₀ hpow]
      exact hhigh

end Rounding

end Format

end Colorimetry.Number
