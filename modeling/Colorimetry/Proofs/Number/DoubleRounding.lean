import Mathlib
import Colorimetry.Proofs.Number.Approximation

/-!
# Rounding twice

A binary32 value is written with the fewest digits that read back, and read by way of binary64. The
decimal lies between the middles to the neighbours of the value, and so does the binary64 value
nearest to it, because the middles are binary64 values themselves. The second rounding therefore
finds the value again, unless the first one has moved the decimal onto a middle and the tie goes to
the neighbour. Then the value is odd, and the decimal is closer to the middle than half a binary64
place (`isNearest_value_of_ne`, `abs_sub_le_of_lt`).

Few decimals are as close as that (`eq_middle_or`), and of those only one is written:
**7.038531 · 10⁻²⁶ is the one magnitude that does not survive** (`narrow_unlucky`), and every other
one does (`narrow_roundDecimal_shortest`).
-/

namespace Colorimetry.Number

open Format

/-! ### Reading a decimal -/

section Reading

variable {digits digits' : ℕ} {exponent exponent' : ℤ} {x : ℚ}

/-- The power of ten of the first digit. -/
theorem toDigits_bounds (hdigits : digits ≠ 0) :
    (10 : ℚ) ^ (((Nat.toDigits 10 digits).length : ℤ) - 1) ≤ digits ∧
      (digits : ℚ) < 10 ^ ((Nat.toDigits 10 digits).length : ℤ) := by
  have hlen : 0 < (Nat.toDigits 10 digits).length := Nat.length_toDigits_pos
  have hhigh : digits < 10 ^ (Nat.toDigits 10 digits).length :=
    (Nat.length_toDigits_le_iff (by norm_num) hlen).mp le_rfl
  constructor
  · obtain ⟨n, hn⟩ := Nat.exists_eq_succ_of_ne_zero hlen.ne'
    have hpow : 10 ^ n ≤ digits := by
      rcases Nat.eq_zero_or_pos n with rfl | hpos
      · exact Nat.one_le_iff_ne_zero.mpr hdigits
      · by_contra! hlt
        have := (Nat.length_toDigits_le_iff (by norm_num) hpos).mpr hlt
        omega
    have hexp : ((Nat.toDigits 10 digits).length : ℤ) - 1 = n := by omega
    rw [hexp, zpow_natCast]
    exact_mod_cast hpow
  · rw [zpow_natCast]
    exact_mod_cast hhigh

/-- **A decimal is read as the nearest value**, unless it is beyond the reach of both formats. -/
theorem exists_isNearest_roundDecimal (f : Format) (hf : 1 < f.precision)
    (hx : digits * 10 ^ exponent = x) (hlow : (10 : ℚ) ^ (-400 : ℤ) ≤ x)
    (hhigh : x < 10 ^ (400 : ℤ)) :
    ∃ b, f.IsNearest x b ∧ Literal.roundDecimal f digits exponent = min f.infinity b := by
  have hten : (0 : ℚ) < 10 ^ exponent := zpow_pos (by norm_num) _
  have hdigits : digits ≠ 0 := by
    rintro rfl
    have hpos : (0 : ℚ) < 10 ^ (-400 : ℤ) := zpow_pos (by norm_num) _
    rw [Nat.cast_zero, zero_mul] at hx
    linarith
  obtain ⟨hfirst, hnext⟩ := toDigits_bounds hdigits
  have hbelow : (10 : ℚ) ^ (exponent + (Nat.toDigits 10 digits).length - 1) ≤ x := by
    rw [← hx, add_sub_assoc, zpow_add₀ (by norm_num), mul_comm]
    exact mul_le_mul_of_nonneg_right hfirst hten.le
  have habove : x < 10 ^ (exponent + (Nat.toDigits 10 digits).length) := by
    rw [← hx, zpow_add₀ (by norm_num), mul_comm]
    exact mul_lt_mul_of_pos_left hnext hten
  -- the bounds on the number keep the reader from answering zero or infinity at once
  have hmin : ¬exponent + (Nat.toDigits 10 digits).length < -400 := by
    intro h
    have hle : (10 : ℚ) ^ (exponent + (Nat.toDigits 10 digits).length) ≤ 10 ^ (-400 : ℤ) :=
      zpow_le_zpow_right₀ (by norm_num) h.le
    linarith
  have hmax : ¬400 < exponent + (Nat.toDigits 10 digits).length := by
    intro h
    have hle : (10 : ℚ) ^ (400 : ℤ) ≤ 10 ^ (exponent + (Nat.toDigits 10 digits).length - 1) :=
      zpow_le_zpow_right₀ (by norm_num) (by omega)
    linarith
  obtain ⟨b, hb, hround⟩ := f.exists_isNearest_round hf (tens digits exponent).1
    (tens_pos digits exponent)
  rw [tens_div, hx] at hb
  refine ⟨b, hb, ?_⟩
  simp only [Literal.roundDecimal, hdigits, hmin, hmax, or_self, if_false]
  exact hround

/-- **The way a decimal is written does not matter.** -/
theorem roundDecimal_congr (f : Format) (hf : 1 < f.precision) (hx : digits * 10 ^ exponent = x)
    (hx' : digits' * 10 ^ exponent' = x) (hlow : (10 : ℚ) ^ (-400 : ℤ) ≤ x)
    (hhigh : x < 10 ^ (400 : ℤ)) :
    Literal.roundDecimal f digits exponent = Literal.roundDecimal f digits' exponent' := by
  obtain ⟨b, hb, hround⟩ := exists_isNearest_roundDecimal f hf hx hlow hhigh
  obtain ⟨b', hb', hround'⟩ := exists_isNearest_roundDecimal f hf hx' hlow hhigh
  rw [hround, hround', hb.unique hb']

/-- A binary64 value is narrowed to the nearest binary32 value. -/
theorem exists_isNearest_narrow {bits : ℕ} (h : bits < binary64.infinity) :
    ∃ b, binary32.IsNearest (binary64.value bits) b ∧
      Literal.narrow bits = min binary32.infinity b := by
  obtain ⟨b, hb, hround⟩ := binary32.exists_isNearest_round (by decide)
    (shifted (binary64.magnitude bits).mantissa (binary64.magnitude bits).exponent).1
    (shifted_pos (binary64.magnitude bits).mantissa (binary64.magnitude bits).exponent)
  rw [shifted_div] at hb
  refine ⟨b, hb, ?_⟩
  simp only [Literal.narrow, not_le.mpr h, if_false]
  exact hround

end Reading

/-! ### Middles -/

/-- What is known of a binary32 pattern. -/
theorem binary32_shape (b : ℕ) : ∃ e m : ℕ, binary32.magnitude b = ⟨m, e - 149⟩ ∧ m < 2 ^ 24 ∧
    b = e * 2 ^ 23 + m ∧ (2 ^ 23 ≤ m ∨ e = 0) := by
  obtain ⟨n, h, hb, hhigh, hlow, hmagnitude⟩ := binary32.exists_shape b
  have hleading : binary32.leading = 2 ^ 23 := rfl
  rw [hleading] at hb hhigh hlow
  exact ⟨n, h, hmagnitude, by omega, hb, hlow⟩

/-- **The middle between two binary32 values is a binary64 value.** -/
theorem exists_middle (c : ℕ) :
    ∃ m, binary64.value m = (binary32.value c + binary32.value (c + 1)) / 2 := by
  obtain ⟨e, m, hmagnitude, hm, -, -⟩ := binary32_shape c
  obtain ⟨b, hb⟩ := binary64.exists_value_eq (2 * m + 1) (e + 924) (by
    have hleading : binary64.leading = 2 ^ 52 := rfl
    rw [hleading]
    omega)
  refine ⟨b, hb.trans ?_⟩
  have hexponent : ((e + 924 : ℕ) : ℤ) - binary64.lowest = (e - 149) - 1 := by
    have hlowest : binary64.lowest = 1074 := rfl
    rw [hlowest]
    push_cast
    ring
  rw [value_succ, value, hmagnitude, Magnitude.value, hexponent, zpow_sub_one₀ two_ne_zero]
  push_cast
  ring

section Middle

variable {x : ℚ} {b bits : ℕ}

/-- **The second rounding undoes the first** unless that has ended on a middle from which it goes to
the neighbour. -/
theorem isNearest_value_of_ne (hb : binary32.IsNearest x b) (hbits : binary64.IsNearest x bits)
    (hne : ¬Even b → ∀ c, c + 1 = b ∨ c = b →
      binary64.value bits ≠ (binary32.value c + binary32.value (c + 1)) / 2) :
    binary32.IsNearest (binary64.value bits) b := by
  refine ⟨fun c hc => ?_, ?_, fun c hc htie => ?_, fun htie => ?_⟩
  · -- the middle is a binary64 value, so the first rounding does not pass it
    subst hc
    obtain ⟨m, hm⟩ := exists_middle c
    have hlower := hb.lower c rfl
    have hle := hbits.le_value (c := m) (by linarith)
    linarith
  · obtain ⟨m, hm⟩ := exists_middle b
    have hupper := hb.upper
    have hle := hbits.value_le (c := m) (by linarith)
    linarith
  · by_contra hodd
    subst hc
    exact hne hodd c (.inl rfl) (by linarith)
  · by_contra hodd
    exact hne hodd b (.inr rfl) (by linarith)

/-- The nearest value is not further than half a place. -/
theorem abs_sub_value_le (f : Format) (h : f.IsNearest x b) (hx : 0 ≤ x) :
    |x - f.value b| ≤ 2 ^ ((f.magnitude b).exponent - 1) := by
  have hhalf : (2 : ℚ) ^ (f.magnitude b).exponent = 2 * 2 ^ ((f.magnitude b).exponent - 1) := by
    rw [zpow_sub_one₀ two_ne_zero]
    ring
  have hpow : (0 : ℚ) < 2 ^ ((f.magnitude b).exponent - 1) := zpow_pos two_pos _
  have hupper := h.upper
  rw [f.value_succ, hhalf] at hupper
  rw [abs_le]
  refine ⟨?_, by linarith⟩
  rcases Nat.eq_zero_or_pos b with rfl | hb
  · rw [f.value_zero]
    linarith
  · -- below the start of a binade the place is half as large
    obtain ⟨c, hc⟩ : ∃ c, c + 1 = b := ⟨b - 1, by omega⟩
    have hlower := h.lower c hc
    rw [f.value_add_value hc] at hlower
    have hquarter : (2 : ℚ) ^ ((f.magnitude b).exponent - 2) =
        2 ^ ((f.magnitude b).exponent - 1) / 2 := by
      rw [zpow_sub₀ two_ne_zero, zpow_sub_one₀ two_ne_zero]
      ring
    have hend : 4 * (f.magnitude b).mantissa ≤ (Interval.around f (f.magnitude b)).lower + 2 := by
      simp only [Interval.around]
      split_ifs <;> omega
    have hend' : (4 * (f.magnitude b).mantissa : ℚ) ≤
        (Interval.around f (f.magnitude b)).lower + 2 := by
      exact_mod_cast hend
    have hmul := mul_le_mul_of_nonneg_right hend' hpow.le
    rw [hquarter] at hlower
    rw [value, Magnitude.value, hhalf]
    linarith

/-- A decimal whose binary64 value lies in the binade of a binary32 exponent is moved by `2 ^ -30` of
the last place at most. -/
theorem abs_sub_le_of_lt {e : ℤ} (he : -149 ≤ e) (hx : 0 ≤ x) (hbits : binary64.IsNearest x bits)
    (hlt : binary64.value bits < 2 ^ (e + 24)) : |x - binary64.value bits| ≤ 2 ^ (e - 30) := by
  refine (abs_sub_value_le binary64 hbits hx).trans (zpow_le_zpow_right₀ one_le_two ?_)
  obtain ⟨n, h, -, -, hlow, hmagnitude⟩ := binary64.exists_shape bits
  have hlowest : binary64.lowest = 1074 := rfl
  have hleading : binary64.leading = 2 ^ 52 := rfl
  rw [value, Magnitude.value] at hlt
  rw [hmagnitude] at hlt ⊢
  rw [hlowest] at hlt ⊢
  rw [hleading] at hlow
  push_cast at hlt ⊢
  -- a normal value has its leading bit below the end of the binade, a subnormal one the least place
  rcases hlow with hlow | rfl
  · have hpow : (2 : ℚ) ^ (52 + ((n : ℤ) - 1074)) < 2 ^ (e + 24) := by
      calc (2 : ℚ) ^ (52 + ((n : ℤ) - 1074))
        _ = (2 ^ 52 : ℕ) * 2 ^ ((n : ℤ) - 1074) := by
          rw [zpow_add₀ two_ne_zero]
          norm_num
        _ ≤ h * 2 ^ ((n : ℤ) - 1074) := by gcongr
        _ < 2 ^ (e + 24) := hlt
    have hexponent := (zpow_lt_zpow_iff_right₀ one_lt_two).mp hpow
    omega
  · simp only [Nat.cast_zero]
    omega

end Middle

/-! ### The round trip -/

/-- The pattern of 7.038531 · 10⁻²⁶. -/
def unlucky : ℕ := 0x15ae43fd

/-- The one magnitude that does not survive: it comes back as the next one. -/
theorem narrow_unlucky :
    Literal.narrow (Literal.roundDecimal .binary64
      (shortest .binary32 .toEven (binary32.magnitude unlucky)).digits
      (shortest .binary32 .toEven (binary32.magnitude unlucky)).exponent) = unlucky + 1 := by
  decide +kernel

/-- Its double has the same middle, but is written with fewer digits. -/
theorem narrow_unlucky_double :
    Literal.narrow (Literal.roundDecimal .binary64
      (shortest .binary32 .toEven (binary32.magnitude (unlucky + 2 ^ 23))).digits
      (shortest .binary32 .toEven (binary32.magnitude (unlucky + 2 ^ 23))).exponent) =
        unlucky + 2 ^ 23 := by
  decide +kernel

section RoundTrip

variable {b : ℕ}

/-- The exponent and the significand of a finite magnitude that is not zero. -/
theorem exists_binade (hb : b ≠ 0) (hfinite : b < binary32.infinity) :
    ∃ (e : ℤ) (m : ℕ), binary32.magnitude b = ⟨m, e⟩ ∧ -149 ≤ e ∧ e ≤ 104 ∧ 0 < m ∧ m < 2 ^ 24 ∧
      b = (e + 149).toNat * 2 ^ 23 + m ∧ (Even b ↔ Even m) := by
  obtain ⟨n, m, hmagnitude, hm, hshape, hlow⟩ := binary32_shape b
  have hinfinity : binary32.infinity = 255 * 2 ^ 23 := rfl
  rw [hinfinity] at hfinite
  have heven := binary32.even_iff_even_mantissa (by decide) b
  rw [hmagnitude] at heven
  refine ⟨n - 149, m, hmagnitude, by omega, by omega, by omega, hm, ?_, heven⟩
  have hexponent : ((n : ℤ) - 149 + 149).toNat = n := by omega
  rw [hexponent]
  exact hshape

/-- The middle above a value, -/
theorem middle_above {e : ℤ} {m : ℕ} (hmagnitude : binary32.magnitude b = ⟨m, e⟩) :
    (binary32.value b + binary32.value (b + 1)) / 2 = (2 * m + 1 : ℕ) * 2 ^ (e - 1) := by
  rw [value_succ, value, hmagnitude, Magnitude.value, zpow_sub_one₀ two_ne_zero]
  push_cast
  ring

/-- and the one below an odd value. -/
theorem middle_below {e : ℤ} {m c : ℕ} (hmagnitude : binary32.magnitude b = ⟨m, e⟩)
    (hm : ¬Even m) (hc : c + 1 = b) :
    (binary32.value c + binary32.value (c + 1)) / 2 = (2 * m - 1 : ℕ) * 2 ^ (e - 1) := by
  have hstart : ¬(m = binary32.leading ∧ -(binary32.lowest : ℤ) < e) := by
    rintro ⟨rfl, -⟩
    exact hm (binary32.even_leading (by decide))
  have hpos : m ≠ 0 := by
    rintro rfl
    exact hm Even.zero
  have hquarter : (2 : ℚ) ^ (e - 2) = 2 ^ (e - 1) / 2 := by
    rw [zpow_sub₀ two_ne_zero, zpow_sub_one₀ two_ne_zero]
    ring
  have hsub : 2 ≤ 4 * m := by omega
  have hsub' : 1 ≤ 2 * m := by omega
  rw [hc, binary32.value_add_value hc, hmagnitude]
  simp only [Interval.around, if_neg hstart, hquarter]
  rw [Nat.cast_sub hsub, Nat.cast_sub hsub']
  push_cast
  ring

/-- Where a decimal that is read as a finite value lies. -/
theorem bounds_of_isNearest {x : ℚ} (h : binary32.IsNearest x b) (hb : b ≠ 0)
    (hfinite : b < binary32.infinity) : (10 : ℚ) ^ (-400 : ℤ) ≤ x ∧ x < 2 ^ (128 : ℤ) := by
  obtain ⟨e, m, hmagnitude, hlow, hhigh, hpos, hm, -, -⟩ := exists_binade hb hfinite
  have hmid := middle_above hmagnitude
  obtain ⟨c, hc⟩ : ∃ c, c + 1 = b := ⟨b - 1, by omega⟩
  have hlower := h.lower c hc
  have hupper := h.upper
  have hvalue : binary32.value b = m * 2 ^ e := by rw [value, hmagnitude, Magnitude.value]
  constructor
  · -- in two steps, since the power of ten is too long to be computed with
    have hleast : (10 : ℚ) ^ (-400 : ℤ) ≤ 2 ^ (-149 : ℤ) / 2 :=
      (zpow_le_zpow_right₀ (by norm_num) (by norm_num)).trans
        (show (10 : ℚ) ^ (-50 : ℤ) ≤ 2 ^ (-149 : ℤ) / 2 by norm_num)
    have hplace : (2 : ℚ) ^ (-149 : ℤ) ≤ 2 ^ e := zpow_le_zpow_right₀ one_le_two hlow
    have hone : (1 : ℚ) ≤ m := by exact_mod_cast hpos
    have hnonneg := binary32.value_nonneg c
    have hmul : (2 : ℚ) ^ e ≤ m * 2 ^ e := le_mul_of_one_le_left (by positivity) hone
    rw [hvalue] at hlower
    generalize (2 : ℚ) ^ (-149 : ℤ) = least at hleast hplace
    exact hleast.trans (by linarith)
  · have hplace : (2 : ℚ) ^ (e - 1) ≤ 2 ^ (103 : ℤ) := zpow_le_zpow_right₀ one_le_two (by omega)
    have hlt : ((2 * m + 1 : ℕ) : ℚ) < 2 ^ 25 := by exact_mod_cast (show 2 * m + 1 < 2 ^ 25 by omega)
    calc x ≤ (2 * m + 1 : ℕ) * 2 ^ (e - 1) := by linarith
      _ ≤ (2 * m + 1 : ℕ) * 2 ^ (103 : ℤ) := by gcongr
      _ < 2 ^ 25 * 2 ^ (103 : ℤ) := by gcongr
      _ = 2 ^ (128 : ℤ) := by norm_num

/-- It is far from the limit beyond which decimals are not expanded. -/
theorem two_pow_le_ten_pow : (2 : ℚ) ^ (128 : ℤ) ≤ 10 ^ (400 : ℤ) :=
  (show (2 : ℚ) ^ (128 : ℤ) ≤ 10 ^ (50 : ℤ) by norm_num).trans
    (zpow_le_zpow_right₀ (by norm_num) (by norm_num))

/-- Such a decimal has a finite binary64 value. -/
theorem lt_infinity_of_isNearest {x : ℚ} {bits : ℕ} (hx : x < 2 ^ (128 : ℤ))
    (hbits : binary64.IsNearest x bits) : bits < binary64.infinity := by
  have hinfinity : binary64.value binary64.infinity = 2 ^ (1024 : ℤ) := by
    have hshape : binary64.infinity = 2046 * binary64.leading + binary64.leading := by decide
    rw [hshape, binary64.value_shape (.inl le_rfl) (by omega)]
    have hleading : (binary64.leading : ℚ) = 2 ^ (52 : ℤ) := by norm_num [leading, binary64]
    rw [hleading, ← zpow_add₀ two_ne_zero]
    rfl
  obtain ⟨c, hc⟩ := binary64.exists_value_eq 1 1202 (by decide)
  have hvalue : binary64.value c = 2 ^ (128 : ℤ) := by
    rw [hc]
    norm_num [binary64]
  have hle := hbits.value_le (c := c) (by rw [hvalue]; exact hx.le)
  refine binary64.strictMono_value.lt_iff_lt.mp (hle.trans_lt ?_)
  rw [hvalue, hinfinity]
  exact zpow_lt_zpow_right₀ one_lt_two (by norm_num)

/-- A middle is half a place away from the value. -/
theorem abs_value_sub_middle {e : ℤ} {m n : ℕ} (hmagnitude : binary32.magnitude b = ⟨m, e⟩)
    (hm : 0 < m) (hn : n = 2 * m + 1 ∨ n = 2 * m - 1) :
    |binary32.value b - n * 2 ^ (e - 1)| = 2 ^ (e - 1) := by
  have hhalf : (0 : ℚ) < 2 ^ (e - 1) := zpow_pos two_pos _
  have hvalue : binary32.value b = m * (2 * 2 ^ (e - 1)) := by
    rw [value, hmagnitude, Magnitude.value, ← zpow_one_add₀ two_ne_zero]
    congr 2
    ring
  rw [hvalue]
  rcases hn with rfl | rfl
  · rw [abs_sub_comm, abs_of_nonneg] <;> push_cast <;> linarith
  · rw [Nat.cast_sub (by omega), abs_of_nonneg] <;> push_cast <;> linarith

/-- **A middle on which the first rounding ends**, without the decimal being it, is the one that two
decimals come too close to. -/
theorem critical_of_value_eq {d : Decimal} {e : ℤ} {m n bits : ℕ}
    (hmagnitude : binary32.magnitude b = ⟨m, e⟩) (hlow : -149 ≤ e) (hhigh : e ≤ 104) (hm : 0 < m)
    (hm' : m < 2 ^ 24) (hpos : 0 < d.value) (hnearest : binary32.IsNearest d.value b)
    (hstep : |d.value - binary32.value b| ≤ 10 ^ d.exponent)
    (hbits : binary64.IsNearest d.value bits) (hn : n = 2 * m + 1 ∨ n = 2 * m - 1)
    (hmiddle : binary64.value bits = n * 2 ^ (e - 1)) (hne : d.value ≠ n * 2 ^ (e - 1)) :
    (e = -107 ∨ e = -106) ∧ n = criticalMiddle := by
  have hhalf : (0 : ℚ) < 2 ^ (e - 1) := zpow_pos two_pos _
  -- every middle of the binade is below its end
  have hend {c : ℕ} (hc : c < 2 ^ 25) : (c * 2 ^ (e - 1) : ℚ) < 2 ^ (e + 24) := by
    have hc' : (c : ℚ) < 2 ^ 25 := by exact_mod_cast hc
    rw [two_zpow_add_twenty_four, mul_comm (2 ^ (e - 1))]
    exact mul_lt_mul_of_pos_right hc' hhalf
  have hnear : |d.value - n * 2 ^ (e - 1)| ≤ 2 ^ (e - 30) := by
    rw [← hmiddle]
    exact abs_sub_le_of_lt hlow hpos.le hbits (hmiddle ▸ hend (by omega))
  refine (eq_middle_or hlow hhigh hpos ?_ ?_ hnear).resolve_left hne
  · have hupper := hnearest.upper
    have hmid := middle_above hmagnitude
    have hlast := hend (show 2 * m + 1 < 2 ^ 25 by omega)
    linarith
  · have htriangle := abs_sub_le (binary32.value b) d.value (n * 2 ^ (e - 1))
    rw [abs_value_sub_middle hmagnitude hm hn, abs_sub_comm (binary32.value b)] at htriangle
    linarith

/-- **Every other magnitude survives.** -/
theorem narrow_roundDecimal_shortest (hb : b ≠ 0) (hfinite : b < binary32.infinity)
    (hlucky : b ≠ unlucky) :
    Literal.narrow (Literal.roundDecimal .binary64
      (shortest .binary32 .toEven (binary32.magnitude b)).digits
      (shortest .binary32 .toEven (binary32.magnitude b)).exponent) = b := by
  obtain rfl | hdouble := eq_or_ne b (unlucky + 2 ^ 23)
  · exact narrow_unlucky_double
  obtain ⟨hnearest, hstep⟩ := isNearest_shortest binary32 (by decide) .toEven hb
  generalize shortest .binary32 .toEven (binary32.magnitude b) = d at hnearest hstep ⊢
  obtain ⟨hmin, hmax⟩ := bounds_of_isNearest hnearest hb hfinite
  have hpos : 0 < d.value := lt_of_lt_of_le (zpow_pos (by norm_num) _) hmin
  obtain ⟨bits, hbits, hround⟩ := exists_isNearest_roundDecimal binary64 (by decide)
    (show (d.digits : ℚ) * 10 ^ d.exponent = d.value from rfl) hmin
    (hmax.trans_le two_pow_le_ten_pow)
  have hbitsFinite := lt_infinity_of_isNearest hmax hbits
  rw [hround, min_eq_right hbitsFinite.le]
  obtain ⟨b', hb', hnarrow⟩ := exists_isNearest_narrow hbitsFinite
  rw [hnarrow]
  obtain ⟨e, m, hmagnitude, hlow, hhigh, hm, hm', hshape, heven⟩ := exists_binade hb hfinite
  have hcritical {n : ℕ} := critical_of_value_eq (n := n) hmagnitude hlow hhigh hm hm' hpos hnearest
    hstep hbits
  have hsame := isNearest_value_of_ne hnearest hbits ?_
  · rw [hb'.unique hsame, min_eq_right hfinite.le]
  · intro hodd c hc hmiddle
    rcases hc with hc | rfl
    · -- below a critical middle the significand would be even
      have hmid := middle_below hmagnitude (mt heven.mpr hodd) hc
      obtain ⟨-, hn⟩ := hcritical (.inr rfl) (hmiddle.trans hmid) fun hexact => by
        refine hodd (hnearest.even_of_lower c hc ?_)
        rw [hc] at hmid
        linarith
      refine hodd (heven.mpr (Nat.even_iff.mpr ?_))
      rw [criticalMiddle] at hn
      omega
    · -- above it the pattern is one of the two that are looked at apart
      have hmid := middle_above hmagnitude
      obtain ⟨he, hn⟩ := hcritical (.inl rfl) (hmiddle.trans hmid) fun hexact => by
        refine hodd (hnearest.even_of_upper ?_)
        linarith
      rw [criticalMiddle] at hn
      rw [unlucky] at hlucky hdouble
      rcases he with rfl | rfl <;> omega

/-- What becomes of a magnitude that is written and read. -/
def reread (b : ℕ) : ℕ := if b = unlucky then unlucky + 1 else b

/-- **What is read of a magnitude**, however its decimal is laid out. On the way it does not become
infinite. -/
theorem narrow_roundDecimal_of_value_eq {digits : ℕ} {exponent : ℤ} (hfinite : b < binary32.infinity)
    (hvalue : digits * (10 : ℚ) ^ exponent =
      (shortest .binary32 .toEven (binary32.magnitude b)).value) :
    Literal.roundDecimal .binary64 digits exponent < binary64.infinity ∧
      Literal.narrow (Literal.roundDecimal .binary64 digits exponent) = reread b := by
  rcases Nat.eq_zero_or_pos b with rfl | hb
  · have hzero : (shortest .binary32 .toEven (binary32.magnitude 0)).value = 0 := by
      have hshortest : shortest .binary32 .toEven (binary32.magnitude 0) = ⟨0, 0⟩ := by decide
      rw [hshortest, Decimal.value, Nat.cast_zero, zero_mul]
    have hten : (10 : ℚ) ^ exponent ≠ 0 := (zpow_pos (by norm_num) _).ne'
    have hdigits : digits = 0 := by
      have := (mul_eq_zero.mp (hvalue.trans hzero)).resolve_right hten
      exact_mod_cast this
    subst hdigits
    have hround : Literal.roundDecimal .binary64 0 exponent = 0 := by simp [Literal.roundDecimal]
    rw [hround]
    decide
  · obtain ⟨hnearest, -⟩ := isNearest_shortest binary32 (by decide) .toEven hb.ne'
    obtain ⟨hmin, hmax⟩ := bounds_of_isNearest hnearest hb.ne' hfinite
    have hhigh := hmax.trans_le two_pow_le_ten_pow
    refine ⟨?_, ?_⟩
    · obtain ⟨bits, hbits, hround⟩ :=
        exists_isNearest_roundDecimal binary64 (by decide) hvalue hmin hhigh
      rw [hround]
      exact (min_le_right _ _).trans_lt (lt_infinity_of_isNearest hmax hbits)
    · rw [roundDecimal_congr binary64 (by decide) hvalue rfl hmin hhigh, reread]
      split_ifs with hunlucky
      · rw [hunlucky, narrow_unlucky]
      · exact narrow_roundDecimal_shortest hb.ne' hfinite hunlucky

end RoundTrip

end Colorimetry.Number
