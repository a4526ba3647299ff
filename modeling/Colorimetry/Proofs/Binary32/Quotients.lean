import Mathlib
import Colorimetry.Number.Literal
import Colorimetry.Proofs.Binary32.Error
import Colorimetry.Proofs.Number.RoundTrip
import Colorimetry.Proofs.Transfer.Sampling

/-!
# Row numbers and their quotients in binary32

A natural number becomes a binary32 value by way of bits, which are found for it as they are for a
literal, and a quotient is rounded in units. Both roundings are one: the value nearest to a rational
number (`rounded`), which keeps the order and leaves zero and one alone (`isRounding_rounded`). So the
points of a table are rounded quotients of rounded numbers as long as no row number is beyond the
finite values, and sixty-four bits do not reach there (`roundsBelow_float32`).
-/

namespace Colorimetry.Binary32

open Float.Model.UnpackedFloat (unpack unpackSign unpackExponent unpackMantissa)
open Number (float32OfBits float32OfNat roundDiv)
open Transfer (IsRounding RoundsBelow)

/-! ### One rounding -/

/-- Rounding to an integer is the same for units and for patterns. -/
theorem halfEven_eq_roundDiv (a b : ℕ) : halfEven a b = roundDiv .toEven a b := by
  rcases lt_trichotomy (2 * (a % b)) b with h | h | h
  · simp only [halfEven_of_lt h, roundDiv, if_pos h]
  · rw [halfEven_of_eq h]
    simp only [roundDiv, Number.Tie.goesUp, h, lt_irrefl, if_false]
    rcases Nat.mod_two_eq_zero_or_one (a / b) with hone | hone <;> simp [hone]
  · simp only [halfEven_of_gt h, roundDiv, if_neg h.not_gt, if_pos h]

/-- The grain of a binade, as a multiple of the least positive value. -/
theorem two_zpow_sub_lowest (g : ℕ) :
    (2 : ℚ) ^ ((g : ℤ) - (Number.Format.binary32.lowest : ℕ)) = 2 ^ g / 2 ^ 149 := by
  rw [zpow_sub₀ two_ne_zero, zpow_natCast, zpow_natCast]
  rfl

/-- **A fraction rounded in units has the nearest pattern.** -/
theorem exists_isNearest_nearest (a : ℕ) {b : ℕ} (hb : 0 < b) :
    ∃ c, Number.Format.binary32.IsNearest (a / b / 2 ^ 149) c ∧
      Number.Format.binary32.value c = nearest a b / 2 ^ 149 := by
  have hpos : 0 < b * 2 ^ grain a b := Nat.mul_pos hb (Nat.two_pow_pos _)
  have hposq : (0 : ℚ) < (b * 2 ^ grain a b : ℕ) := Nat.cast_pos.mpr hpos
  -- the fraction over its grain is a significand, and the grain a number of binades
  have hlow : ((Number.Format.binary32.leading : ℕ) : ℚ) ≤ a / (b * 2 ^ grain a b : ℕ) ∨
      grain a b = 0 := by
    refine or_iff_not_imp_right.mpr fun hg => (le_div_iff₀ hposq).mpr ?_
    exact_mod_cast pow_grain_le hb hg
  have hhigh : (a : ℚ) / (b * 2 ^ grain a b : ℕ) < 2 * (Number.Format.binary32.leading : ℕ) := by
    rw [div_lt_iff₀ hposq]
    exact_mod_cast lt_pow_grain (a := a) hb
  obtain ⟨hup, hdown, heven⟩ := Number.roundDiv_toEven_spec a hpos
  rw [← halfEven_eq_roundDiv] at hup hdown heven
  have hratio : (a : ℚ) / (b * 2 ^ grain a b : ℕ) * (2 ^ grain a b / 2 ^ 149) =
      a / b / 2 ^ 149 := by
    have hbq : (b : ℚ) ≠ 0 := Nat.cast_ne_zero.mpr hb.ne'
    push_cast
    field_simp
  have hnearest := Number.Format.isNearest_shape (by decide) hlow hhigh hup hdown heven
  rw [two_zpow_sub_lowest, hratio] at hnearest
  refine ⟨_, hnearest, ?_⟩
  rw [Number.Format.value_shape, two_zpow_sub_lowest, nearest, Nat.cast_mul, Nat.cast_pow,
    Nat.cast_ofNat, mul_div_assoc]
  · exact hlow.imp_left fun hlow => Number.le_of_le_nearest hlow hup
  · exact halfEven_grain_le hb

/-- **The binary32 value nearest to a rational number**; below zero it is zero. -/
def rounded (q : ℚ) : ℚ :=
  Number.Format.binary32.value (Number.Format.binary32.round q.num.toNat q.den)

/-- What is found is nearest, up to infinity. -/
theorem exists_isNearest_rounded (q : ℚ) :
    ∃ b, Number.Format.binary32.IsNearest (max q 0) b ∧
      rounded q = Number.Format.binary32.value (min Number.Format.binary32.infinity b) := by
  have hmax : (q.num.toNat : ℚ) / q.den = max q 0 := by
    rcases le_total 0 q with hq | hq
    · have hnum : ((q.num.toNat : ℕ) : ℤ) = q.num := Int.toNat_of_nonneg (Rat.num_nonneg.mpr hq)
      rw [max_eq_left hq, ← Int.cast_natCast, hnum, Rat.num_div_den]
    · have hnum : q.num.toNat = 0 := Int.toNat_of_nonpos (Rat.num_nonpos.mpr hq)
      rw [max_eq_right hq, hnum, Nat.cast_zero, zero_div]
  obtain ⟨b, hb, hround⟩ :=
    Number.Format.exists_isNearest_round (f := .binary32) (by decide) q.num.toNat q.den_pos
  rw [hmax] at hb
  exact ⟨b, hb, by rw [rounded, hround]⟩

/-- A value is found where it is nearest. -/
theorem rounded_eq {q : ℚ} {c : ℕ} (hq : 0 ≤ q) (h : Number.Format.binary32.IsNearest q c)
    (hc : c ≤ Number.Format.binary32.infinity) : rounded q = Number.Format.binary32.value c := by
  obtain ⟨b, hb, hrounded⟩ := exists_isNearest_rounded q
  rw [max_eq_left hq] at hb
  rw [hrounded, hb.unique h, min_eq_right hc]

/-- A value is its own rounding. -/
theorem rounded_value {c : ℕ} (hc : c ≤ Number.Format.binary32.infinity) :
    rounded (Number.Format.binary32.value c) = Number.Format.binary32.value c :=
  rounded_eq (Number.Format.value_nonneg _ c) (Number.Format.isNearest_self _ c) hc

/-- The pattern of one, -/
theorem value_pattern_one : Number.Format.binary32.value 0x3f800000 = 1 := by
  decide +kernel

/-- and that of the first number beyond sixty-four bits. -/
theorem value_pattern_two_pow : Number.Format.binary32.value 0x5f800000 = 2 ^ 64 := by
  decide +kernel

/-- **Binary32 rounds.** -/
theorem isRounding_rounded : IsRounding rounded where
  monotone := by
    intro q r hqr
    obtain ⟨b, hb, hq⟩ := exists_isNearest_rounded q
    obtain ⟨c, hc, hr⟩ := exists_isNearest_rounded r
    rw [hq, hr]
    exact (Number.Format.strictMono_value _).monotone
      (min_le_min_left _ (hb.mono hc (max_le_max_right 0 hqr)))
  zero := by
    have hzero := rounded_value (Nat.zero_le Number.Format.binary32.infinity)
    rwa [Number.Format.value_zero] at hzero
  one := by
    have hone := rounded_value (c := 0x3f800000) (by decide)
    rwa [value_pattern_one] at hone

/-! ### Row numbers -/

/-- The units of bits that are unpacked. -/
theorem units_ofBits (b : UInt32) : units (.ofBits b) = unitsOf (unpack .binary32 b.toBitVec) := by
  obtain ⟨hcanonical, hsame⟩ := canonical_unpack b.toBitVec
  have hfit := unitsOf_overflow hcanonical
  rw [hsame] at hfit
  exact (units_pack hcanonical).trans hfit.symm

/-- The sign of a pattern below infinity. -/
theorem unpackSign_of_lt_infinity {b : BitVec Float.Model.Format.binary32.numBits}
    (hb : b.toNat < Number.Format.binary32.infinity) : unpackSign b = 0#1 := by
  have hnat : (unpackSign b).toNat = b.toNat / 2 ^ 31 % 2 := by
    simp [unpackSign, BitVec.extractLsb, BitVec.extractLsb', Nat.shiftRight_eq_div_pow]
  have hzero : b.toNat / 2 ^ 31 = 0 := Nat.div_eq_of_lt (hb.trans (by decide))
  refine BitVec.eq_of_toNat_eq (hnat.trans ?_)
  rw [hzero]
  rfl

/-- What is unpacked from a pattern below infinity is its magnitude. -/
theorem unpack_of_lt_infinity {b : BitVec Float.Model.Format.binary32.numBits}
    (hb : b.toNat < Number.Format.binary32.infinity) :
    unpack .binary32 b = ofMantissa .positive (Number.Format.binary32.magnitude b.toNat).mantissa
      (Number.Format.binary32.magnitude b.toNat).exponent := by
  have hb' : b.toNat < 0x7f800000 := hb
  have hexponent := Number.toNat_unpackExponent b
  have hne : (unpackExponent b : BitVec 8) ≠ -1#8 := by
    intro h
    rw [h] at hexponent
    change 255 = b.toNat / 2 ^ 23 % 2 ^ 8 at hexponent
    omega
  have hleading : b.toNat / Number.Format.binary32.leading = b.toNat / 2 ^ 23 := rfl
  rw [unpack_eq, if_neg hne, unpackSign_of_lt_infinity hb, Number.toNat_unpackMantissa, hexponent,
    Number.Format.magnitude, hleading]
  -- the stored exponent is zero exactly where the magnitude has no leading digit
  cases hfield : b.toNat / 2 ^ 23 with
  | zero =>
    have hzero : (unpackExponent b : BitVec 8) = 0#8 := by
      refine BitVec.eq_of_toNat_eq (hexponent.trans ?_)
      rw [hfield]
      rfl
    have hmod : b.toNat % 2 ^ 23 = b.toNat := Nat.mod_eq_of_lt (by omega)
    rw [if_pos hzero, hmod]
    rfl
  | succ n =>
    have hne' : (unpackExponent b : BitVec 8) ≠ 0#8 := by
      intro h
      rw [h, hfield] at hexponent
      change 0 = (n + 1) % 2 ^ 8 at hexponent
      omega
    have hmod : (((n + 1) % 2 ^ 8 : ℕ) : ℤ) - 150 = n - 149 := by omega
    rw [if_neg hne', hmod]
    rfl

/-- **A pattern below infinity has its value.** -/
theorem value_float32OfBits {b : ℕ} (hb : b < Number.Format.binary32.infinity) :
    value (float32OfBits false b) = some (Number.Format.binary32.value b) := by
  have hnat : (UInt32.ofNat b).toBitVec.toNat = b := Nat.mod_eq_of_lt (hb.trans (by decide))
  obtain ⟨n, h, -, -, -, hmagnitude⟩ := Number.Format.binary32.exists_shape b
  have hunits : units (float32OfBits false b) = _ := units_ofBits (UInt32.ofNat b)
  have hexponent : ((n : ℤ) - (Number.Format.binary32.lowest : ℕ) + 149).toNat = n := by
    change ((n : ℤ) - 149 + 149).toNat = n
    omega
  rw [unpack_of_lt_infinity (hnat.trans_lt hb), hnat, hmagnitude, unitsOf_ofMantissa,
    hexponent] at hunits
  refine value_eq_some_iff.mpr ⟨_, hunits, ?_⟩
  rw [Number.Format.value, hmagnitude, Number.Magnitude.value, two_zpow_sub_lowest,
    ← mul_div_assoc]
  change ((h * 2 ^ n : ℕ) : ℤ) / (2 ^ 149 : ℚ) = _
  push_cast
  rfl

/-- The number of a row has no more than sixty-four bits, and is rounded to a finite value. -/
theorem value_float32OfNat {n : ℕ} (hn : n ≤ 2 ^ 64) :
    value (float32OfNat n) = some (rounded n) := by
  have hbits : rounded n = Number.Format.binary32.value (Number.Format.binary32.round n 1) := by
    rw [rounded, Rat.num_natCast, Rat.den_natCast, Int.toNat_natCast]
  have hlt : Number.Format.binary32.round n 1 < Number.Format.binary32.infinity := by
    rw [← (Number.Format.strictMono_value _).lt_iff_lt, ← hbits]
    calc rounded n ≤ rounded (2 ^ 64) := isRounding_rounded.monotone (by exact_mod_cast hn)
      _ = Number.Format.binary32.value 0x5f800000 := by
        rw [← value_pattern_two_pow, rounded_value (by decide)]
      _ < Number.Format.binary32.value Number.Format.binary32.infinity :=
        Number.Format.strictMono_value _ (by decide)
  rw [hbits]
  exact value_float32OfBits hlt

/-! ### Quotients -/

section Quotients

variable {x y : Float32} {a b : ℕ}

/-- A quotient in units. -/
theorem units_div_natCast (hx : units x = some (a : ℤ)) (hy : units y = some (b : ℤ))
    (hb : 0 < b) : units (x / y) = fit (nearest (a * 2 ^ 149) b) := by
  have hne : units y ≠ none := by rw [hy]; exact Option.some_ne_none _
  have hsign : (b : ℤ).sign = 1 := Int.sign_eq_one_of_pos (by omega)
  have hquotient : quotient a b = some (nearest (a * 2 ^ 149) b : ℤ) := by
    rw [quotient, if_neg (by omega), hsign, mul_one, Int.natAbs_natCast]
    exact congrArg some (nearestInt_natCast (a * 2 ^ 149) hb)
  rw [units_div x hne, hx, hy]
  change (quotient a b).bind fit = _
  rw [hquotient, Option.bind_some]

/-- A fraction of at most one is rounded to at most one. -/
theorem nearest_le_one (hb : 0 < b) (hab : a ≤ b) : nearest (a * 2 ^ 149) b ≤ 2 ^ 149 := by
  calc nearest (a * 2 ^ 149) b ≤ nearest (2 ^ 149 * b) b := by
        refine nearest_mono hb hb (Nat.mul_le_mul_right b ?_)
        rw [mul_comm]
        exact Nat.mul_le_mul_left _ hab
    _ = 2 ^ 149 := nearest_of_representable ⟨1, 149, by norm_num, by norm_num⟩ hb

/-- A value that is not below zero is a natural number of units. -/
theorem exists_units_natCast {p : ℚ} (hp : value x = some p) (hp0 : 0 ≤ p) :
    ∃ a : ℕ, units x = some (a : ℤ) ∧ (a : ℚ) / 2 ^ 149 = p := by
  obtain ⟨m, hx, rfl⟩ := value_eq_some_iff.mp hp
  have hpos : (0 : ℚ) < 2 ^ 149 := by positivity
  rw [le_div_iff₀ hpos, zero_mul, Int.cast_nonneg_iff] at hp0
  obtain ⟨a, rfl⟩ := Int.eq_ofNat_of_zero_le hp0
  exact ⟨a, hx, by rw [Int.cast_natCast]⟩

/-- **A quotient of at most one** is a finite value, the nearest one. -/
theorem value_div {p q : ℚ} (hp : value x = some p) (hq : value y = some q)
    (hp0 : 0 ≤ p) (hpq : p ≤ q) (hq0 : 0 < q) : value (x / y) = some (rounded (p / q)) := by
  obtain ⟨a, hx, rfl⟩ := exists_units_natCast hp hp0
  obtain ⟨b, hy, rfl⟩ := exists_units_natCast hq hq0.le
  have hpos : (0 : ℚ) < 2 ^ 149 := by positivity
  rw [div_le_div_iff_of_pos_right hpos, Nat.cast_le] at hpq
  rw [lt_div_iff₀ hpos, zero_mul, Nat.cast_pos] at hq0
  have hle := nearest_le_one hq0 hpq
  have hratio : ((a * 2 ^ 149 : ℕ) : ℚ) / b / 2 ^ 149 = a / 2 ^ 149 / (b / 2 ^ 149) := by
    rw [div_div_div_cancel_right₀ hpos.ne', Nat.cast_mul, Nat.cast_pow, Nat.cast_ofNat,
      mul_div_right_comm, mul_div_cancel_right₀ _ hpos.ne']
  obtain ⟨c, hc, hvalue⟩ := exists_isNearest_nearest (a * 2 ^ 149) hq0
  have hone : c ≤ 0x3f800000 := by
    rw [← (Number.Format.strictMono_value _).le_iff_le, hvalue, value_pattern_one, div_le_one hpos]
    exact_mod_cast hle
  have hfit : fit (nearest (a * 2 ^ 149) b) = some (nearest (a * 2 ^ 149) b : ℤ) :=
    if_pos (by rw [Int.natAbs_natCast]; exact hle.trans_lt (by norm_num [limit]))
  rw [hratio] at hc
  rw [rounded_eq (by positivity) hc (hone.trans (by decide)), hvalue]
  exact value_eq_some_iff.mpr ⟨_, (units_div_natCast hx hy hq0).trans hfit, by rw [Int.cast_natCast]⟩

end Quotients

/-- **Row numbers and their quotients are rounded**, up to the last row that can be counted. -/
theorem roundsBelow_float32 {n : ℕ} (hn : n ≤ 2 ^ 64) :
    RoundsBelow value float32OfNat rounded rounded n where
  rounds_conversion := isRounding_rounded
  rounds_division := isRounding_rounded
  value_ofCount hi := value_float32OfNat (hi.le.trans hn)
  value_div := value_div

end Colorimetry.Binary32
