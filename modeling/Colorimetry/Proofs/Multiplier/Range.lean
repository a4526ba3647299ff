import Mathlib
import Colorimetry.Proofs.Multiplier.Span
import Colorimetry.Surface.Color

/-!
# The multipliers that a decoder takes

A multiplier is accepted if it is finite and positive, and then the encoding matrix is inverted
whatever the multiplier is. In binary32 the inversion cannot follow: the determinant grows with the
third power of the reciprocal of the multiplier, so it overflows for small multipliers, and for great
ones its own reciprocal does. `isSome_inverse?_rgbToYcbcrMatrix_iff` gives the bounds, to the last digit:
for each encoding and range the multipliers from the one of `leastMultiplierBits` up to, and without,
the one of `multiplierLimitBits` have a decoding matrix, and the other finite positive ones do not.

The bounds are about `8e-14` and `4e12`, and every multiplier of a real container is well inside.
-/

namespace Colorimetry

open Binary32

/-! ### The bounds -/

/-- The least multiplier with a decoding matrix, in bits. -/
def leastMultiplierBits : Wire.Encoding → Bool → UInt32
  | .undefined, false | .bt601, false => 0x29b23524
  | .undefined, true | .bt601, true => 0x29c7666f
  | .bt709, false => 0x29b6eb18
  | .bt709, true => 0x29c9c113
  | .smpte240m, false => 0x29b5b77f
  | .smpte240m, true => 0x29c96f9b
  | .bt2020, false => 0x29b79e0a
  | .bt2020, true => 0x29c9a793

/-- The first multiplier that is too great for a decoding matrix, in bits. -/
def multiplierLimitBits : Wire.Encoding → Bool → UInt32
  | .undefined, false | .bt601, false => 0x545a7635
  | .undefined, true | .bt601, true => 0x547b3a79
  | .bt709, false => 0x545d0a75
  | .bt709, true => 0x547e31c0
  | .smpte240m, false => 0x545cb132
  | .smpte240m, true => 0x547dcb19
  | .bt2020, false => 0x545cee85
  | .bt2020, true => 0x547e119f

/-- The factors that these multipliers are reciprocals of. -/
def factorSpan : Wire.Encoding → Bool → Span
  | .undefined, false | .bt601, false => ⟨9830022, 12050462, by decide, by decide, by decide⟩
  | .undefined, true | .bt601, true => ⟨8547934, 10769720, by decide, by decide, by decide⟩
  | .bt709, false => ⟨9715326, 11740122, by decide, by decide, by decide⟩
  | .bt709, true => ⟨8448197, 10644059, by decide, by decide, by decide⟩
  | .smpte240m, false => ⟨9730675, 11817751, by decide, by decide, by decide⟩
  | .smpte240m, true => ⟨8461545, 10660875, by decide, by decide, by decide⟩
  | .bt2020, false => ⟨9720125, 11695429, by decide, by decide, by decide⟩
  | .bt2020, true => ⟨8452370, 10649317, by decide, by decide, by decide⟩

/-- The mantissa of a normal float. -/
def mantissaOfBits (b : UInt32) : ℕ := 2 ^ 23 + b.toNat % 2 ^ 23

theorem units_leastMultiplierBits (e : Wire.Encoding) (fullRange : Bool) :
    HasUnits (.ofBits (leastMultiplierBits e fullRange))
      (.ofNat (mantissaOfBits (leastMultiplierBits e fullRange) * 2 ^ 82)) := by
  cases e <;> cases fullRange <;> decide +kernel

theorem units_multiplierLimitBits (e : Wire.Encoding) (fullRange : Bool) :
    HasUnits (.ofBits (multiplierLimitBits e fullRange))
      (.ofNat (mantissaOfBits (multiplierLimitBits e fullRange) * 2 ^ 167)) := by
  cases e <;> cases fullRange <;> decide +kernel

theorem check_factorSpan {e : Wire.Encoding} (he : e ≠ .undefined) (fullRange : Bool) :
    (factorSpan e fullRange).check (codeMatrix (.ofWire e) fullRange) fullRange = true := by
  cases e with
  | undefined => exact absurd rfl he
  | bt601 | bt709 | smpte240m | bt2020 => cases fullRange <;> decide +kernel

/-- **The spans are right.** -/
theorem checked_factorSpan (e : Wire.Encoding) (fullRange : Bool) :
    (factorSpan e fullRange).Checked (codeMatrix (.ofWire e) fullRange) fullRange := by
  refine Span.checked_of_check ?_
  by_cases he : e = .undefined
  · -- decoded as BT.601
    subst he
    have hbt601 : Wire.Encoding.bt601 ≠ .undefined := by decide
    cases fullRange with
    | false => exact check_factorSpan hbt601 false
    | true => exact check_factorSpan hbt601 true
  · exact check_factorSpan he fullRange

/-! ### Reciprocals -/

section Reciprocal

variable {k : Float32} {n : ℕ}

/-- The reciprocal of a multiplier, in units and before an overflow. -/
def reciprocalUnits (n : ℕ) : ℕ := nearest (2 ^ 149 * 2 ^ 149) n

theorem units_reciprocal (hn : 0 < n) (hk : units k = some (n : ℤ)) :
    units (1 / k) = fit (reciprocalUnits n : ℕ) := by
  have hne : units k ≠ none := by
    rw [hk]
    exact Option.some_ne_none _
  have hpos : (n : ℤ) ≠ 0 := by omega
  rw [units_div 1 hne, units_one, hk]
  change (quotient (2 ^ 149) n).bind fit = _
  have hsign : (n : ℤ).sign = 1 := Int.sign_eq_one_of_pos (by omega)
  have hnumerator : (2 ^ 149 * 1 * 2 ^ 149 : ℤ) = (2 ^ 149 * 2 ^ 149 : ℕ) := by norm_num
  rw [quotient, if_neg hpos, hsign, hnumerator, Int.natAbs_natCast, nearestInt_natCast _ hn]
  rfl

/-- Reciprocals are antitone, and a multiplier next to a bound tells on which side the others
are. -/
theorem reciprocalUnits_le_iff {a s c : ℕ} (hn : Representable n) (hpos : 0 < n) (ha : 2 ^ 23 < a)
    (hat : reciprocalUnits (a * 2 ^ s) ≤ c) (hbefore : c < reciprocalUnits ((a - 1) * 2 ^ s)) :
    reciprocalUnits n ≤ c ↔ a * 2 ^ s ≤ n := by
  have hanti {i j : ℕ} (hi : 0 < i) (hij : i ≤ j) : reciprocalUnits j ≤ reciprocalUnits i :=
    nearest_mono (hi.trans_le hij) hi (Nat.mul_le_mul_left _ hij)
  constructor
  · -- a smaller multiplier is at most the neighbour of the bound
    rintro hle
    by_contra hlt
    have hstep : n ≤ (a - 1) * 2 ^ s := by
      by_contra hgt
      obtain ⟨m, -, rfl⟩ := hn.exists_mantissa (show 2 ^ 23 ≤ a - 1 by omega) (not_le.mp hgt).le
      have hm := Nat.lt_of_mul_lt_mul_right (not_le.mp hgt)
      have hm' := Nat.lt_of_mul_lt_mul_right (not_le.mp hlt)
      omega
    exact absurd (hbefore.trans_le (hanti hpos hstep)) (not_lt.mpr hle)
  · rintro hle
    exact (hanti (Nat.mul_pos (by omega) (Nat.two_pow_pos s)) hle).trans hat

/-- The bounds of the multipliers are where the reciprocals leave the span. -/
theorem leastMultiplier_bounds (e : Wire.Encoding) (fullRange : Bool) :
    2 ^ 23 < mantissaOfBits (leastMultiplierBits e fullRange) ∧
      reciprocalUnits (mantissaOfBits (leastMultiplierBits e fullRange) * 2 ^ 82) ≤
        (factorSpan e fullRange).top * 2 ^ 169 ∧
      (factorSpan e fullRange).top * 2 ^ 169 <
        reciprocalUnits ((mantissaOfBits (leastMultiplierBits e fullRange) - 1) * 2 ^ 82) := by
  cases e <;> cases fullRange <;> decide +kernel

theorem multiplierLimit_bounds (e : Wire.Encoding) (fullRange : Bool) :
    2 ^ 23 < mantissaOfBits (multiplierLimitBits e fullRange) ∧
      reciprocalUnits (mantissaOfBits (multiplierLimitBits e fullRange) * 2 ^ 167) ≤
        (factorSpan e fullRange).bottom * 2 ^ 84 - 1 ∧
      (factorSpan e fullRange).bottom * 2 ^ 84 - 1 <
        reciprocalUnits ((mantissaOfBits (multiplierLimitBits e fullRange) - 1) * 2 ^ 167) := by
  cases e <;> cases fullRange <;> decide +kernel

/-- **The multipliers with a decoding matrix.** -/
theorem isSome_inverse?_rgbToYcbcrMatrix_iff (e : Wire.Encoding) (fullRange : Bool) (hn : 0 < n)
    (hk : units k = some (n : ℤ)) :
    (rgbToYcbcrMatrix (.ofWire e) k fullRange).inverse?.isSome = true ↔
      mantissaOfBits (leastMultiplierBits e fullRange) * 2 ^ 82 ≤ n ∧
        n < mantissaOfBits (multiplierLimitBits e fullRange) * 2 ^ 167 := by
  rw [rgbToYcbcrMatrix_eq_multiplied]
  have hvalues := related_codeMatrix (hasUnits_ofWire e) fullRange
  have hchecked := checked_factorSpan e fullRange
  have hrep := Span.representable_of_units hk
  obtain ⟨hleast, hat, hbefore⟩ := leastMultiplier_bounds e fullRange
  obtain ⟨hlimit, hat', hbefore'⟩ := multiplierLimit_bounds e fullRange
  have htop := reciprocalUnits_le_iff hrep hn hleast hat hbefore
  have hbottom := reciprocalUnits_le_iff hrep hn hlimit hat' hbefore'
  rw [← htop, ← not_le (b := n), ← hbottom, and_comm]
  have hunits := units_reciprocal hn hk
  rcases lt_or_ge (reciprocalUnits n) limit with hlt | hge
  · rw [fit, Int.natAbs_natCast, if_pos hlt] at hunits
    have hpos : 0 < (factorSpan e fullRange).bottom * 2 ^ 84 := by
      have := (factorSpan e fullRange).le_bottom
      positivity
    rw [hchecked.isSome_inverse?_iff hvalues hunits]
    refine and_congr_left' ?_
    omega
  · -- an infinite reciprocal is above the span, too
    rw [fit, Int.natAbs_natCast, if_neg (not_lt.mpr hge)] at hunits
    rw [hchecked.inverse?_eq_none_of_units_eq_none hvalues hunits]
    have hbeyond : (factorSpan e fullRange).top * 2 ^ 169 < limit := by
      have hlt := Nat.mul_lt_mul_of_pos_right (factorSpan e fullRange).top_lt (Nat.two_pow_pos 169)
      refine hlt.trans ?_
      exact Nat.mul_lt_mul_of_pos_left (Nat.pow_lt_pow_right one_lt_two (by norm_num))
        (Nat.two_pow_pos 24)
    simp only [Option.isSome_none, Bool.false_eq_true, false_iff, not_and]
    omega

end Reciprocal

end Colorimetry
