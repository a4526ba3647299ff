import Mathlib
import Colorimetry.Proofs.Binary32.Rounding

/-!
# Rounding in the model of floats

The logical model of the built-in floats rounds by shifting a mantissa to the right one bit at a
time, with a round bit and a sticky bit for what is shifted out. This module reads that off as the
rounding of fractions. A mantissa with its two bits *represents* a fraction (`Represents`) if it is
the integral part and the bits say where the rest lies; shifting doubles the denominator
(`Represents.shiftRight`), and at the end the rounded mantissa is the nearest integer
(`Represents.roundedMantissa`).

`unitsOf` counts a finite float in multiples of `2 ^ -149`. Up to the sign, what
`roundWithAccuracy` yields is then `nearest`, and it is in the canonical form that packing asks for
(`roundWithAccuracy_spec`).
-/

namespace Colorimetry.Binary32

open Float.Model (Format UnpackedFloat totalExponent)
open Float.Model.UnpackedFloat

/-! ### Mantissas with a round bit and a sticky bit -/

/-- A mantissa and its bits describe a fraction. -/
structure Represents (em : ExtendedMantissa) (a b : ℕ) : Prop where
  mantissa : em.mantissa = a / b
  roundBit : em.roundBit = true ↔ b ≤ 2 * (a % b)
  stickyBit : em.stickyBit = true ↔ 2 * (a % b) % b ≠ 0

section Represents

variable {em : ExtendedMantissa} {a b : ℕ}

/-- Something was shifted out. -/
theorem Represents.or_eq_true (h : Represents em a b) (hb : 0 < b) :
    (em.roundBit || em.stickyBit) = true ↔ a % b ≠ 0 := by
  have hmod : a % b < b := Nat.mod_lt a hb
  rw [Bool.or_eq_true, h.roundBit, h.stickyBit]
  constructor
  · rintro (hround | hsticky) hzero
    · omega
    · simp [hzero] at hsticky
  · intro hne
    by_cases hround : b ≤ 2 * (a % b)
    · exact Or.inl hround
    · refine Or.inr ?_
      rw [Nat.mod_eq_of_lt (by omega)]
      omega

/-- The rounded mantissa is the nearest integer. -/
theorem Represents.roundedMantissa (h : Represents em a b) (hb : 0 < b) :
    em.roundedMantissa = halfEven a b := by
  have hmod : a % b < b := Nat.mod_lt a hb
  obtain ⟨m, r, s⟩ := em
  obtain ⟨hm, hr, hs⟩ := h
  simp only at hm hr hs
  subst hm
  cases r <;> cases s <;>
    simp only [ExtendedMantissa.roundedMantissa, ExtendedMantissa.accuracy,
      Accuracy.roundToNearestEven, Bool.false_eq_true, false_iff, true_iff, not_le, not_not] at *
  case false.false =>
    rw [Nat.mod_eq_of_lt hr] at hs
    rw [halfEven_of_lt hr]
  case false.true => rw [halfEven_of_lt hr]
  case true.false =>
    rw [Nat.mod_eq_sub_mod hr, Nat.mod_eq_of_lt (by omega)] at hs
    rw [halfEven_of_eq (by omega)]
  case true.true =>
    rw [Nat.mod_eq_sub_mod hr, Nat.mod_eq_of_lt (by omega)] at hs
    rw [halfEven_of_gt (by omega)]

/-- Shifting by one bit doubles the denominator. -/
theorem Represents.shiftRightOne (h : Represents em a b) (hb : 0 < b) :
    Represents em.shiftRightOne a (b * 2) := by
  have hmod : a % b < b := Nat.mod_lt a hb
  have hdiv : a / (b * 2) = a / b / 2 := (Nat.div_div_eq_div_mul a b 2).symm
  have hrest : a % (b * 2) = a % b + b * (a / b % 2) := Nat.mod_mul
  refine ⟨?_, ?_, ?_⟩
  · rw [hdiv, ← h.mantissa]
    rfl
  · have hbit : em.shiftRightOne.roundBit = true ↔ a / b % 2 = 1 := by
      rw [ExtendedMantissa.shiftRightOne, h.mantissa]
      simp
    rw [hbit, hrest]
    rcases Nat.mod_two_eq_zero_or_one (a / b) with h2 | h2 <;> rw [h2] <;> omega
  · have hbit : em.shiftRightOne.stickyBit = true ↔ a % b ≠ 0 := h.or_eq_true hb
    rw [hbit, Nat.mul_comm 2, Nat.mul_mod_mul_right, hrest, Nat.add_mul_mod_self_left,
      Nat.mod_mod]
    omega

/-- Shifting multiplies the denominator by a power of two. -/
theorem Represents.shiftRight (h : Represents em a b) (hb : 0 < b) (n : ℕ) :
    Represents (em >>> n) a (b * 2 ^ n) := by
  change Represents (n.repeat ExtendedMantissa.shiftRightOne em) a (b * 2 ^ n)
  induction n with
  | zero => simpa [Nat.repeat] using h
  | succ n ih =>
    rw [pow_succ, ← mul_assoc]
    exact ih.shiftRightOne (Nat.mul_pos hb (Nat.two_pow_pos n))

/-- An exact mantissa. -/
theorem represents_exact (m : ℕ) :
    Represents (ExtendedMantissa.ofMantissaAndAccuracy m .exact) m 1 := by
  refine ⟨(Nat.div_one m).symm, ?_, ?_⟩ <;>
    simp [ExtendedMantissa.ofMantissaAndAccuracy, Nat.mod_one]

/-- A quotient with its remainder. -/
theorem represents_quotient (hb : 0 < b) :
    Represents (ExtendedMantissa.ofMantissaAndAccuracy (a / b) (accuracyOfFraction (a % b) b))
      a b := by
  have hmod : a % b < b := Nat.mod_lt a hb
  by_cases hzero : a % b = 0
  · rw [accuracyOfFraction, if_pos hzero]
    refine ⟨rfl, ?_, ?_⟩ <;>
      simp [ExtendedMantissa.ofMantissaAndAccuracy, hzero]
    omega
  · rw [accuracyOfFraction, if_neg hzero]
    rcases lt_trichotomy (2 * (a % b)) b with h | h | h
    · rw [compare_lt_iff_lt.mpr h]
      refine ⟨rfl, ?_, ?_⟩ <;> simp only [ExtendedMantissa.ofMantissaAndAccuracy]
      · simpa using h
      · rw [Nat.mod_eq_of_lt h]
        simpa using hzero
    · rw [compare_eq_iff_eq.mpr h]
      refine ⟨rfl, ?_, ?_⟩ <;> simp [ExtendedMantissa.ofMantissaAndAccuracy, h]
    · rw [compare_gt_iff_gt.mpr h]
      refine ⟨rfl, ?_, ?_⟩ <;> simp only [ExtendedMantissa.ofMantissaAndAccuracy, true_iff]
      · exact h.le
      · rw [Nat.mod_eq_sub_mod h.le, Nat.mod_eq_of_lt (by omega)]
        omega

end Represents

/-! ### Floats in units -/

/-- A finite float in multiples of `2 ^ -149`. -/
def unitsOf : UnpackedFloat → Option ℤ
  | .finite s m e _ => some (s.apply (m * 2 ^ (e + 149).toNat : ℕ))
  | .zero _ => some 0
  | .infinity _ | .notANumber => none

/-- The one form of a finite float that packing preserves: twenty-four digits in the mantissa, or
the least exponent. -/
def Canonical : UnpackedFloat → Prop
  | .finite _ m e _ => m < 2 ^ 24 ∧ -149 ≤ e ∧ (2 ^ 23 ≤ m ∨ e = -149)
  | .zero _ | .infinity _ | .notANumber => True

/-- How far a mantissa is shifted to its target exponent. -/
def shift (m : ℕ) (e : ℤ) : ℕ := (max (m.log2 + 1 + e - 24) (-149) - e).toNat

/-- The float of a mantissa and an exponent. -/
def ofMantissa (s : Sign) (m : ℕ) (e : ℤ) : UnpackedFloat :=
  if h : m = 0 then .zero s else .finite s m e (Nat.pos_of_ne_zero h)

theorem finite_eq_ofMantissa (s : Sign) {m n : ℕ} {e f : ℤ} (h : 0 < m) (hm : m = n)
    (he : e = f) : .finite s m e h = ofMantissa s n f := by
  subst hm he
  rw [ofMantissa, dif_neg h.ne']

theorem unitsOf_ofMantissa (s : Sign) (m : ℕ) (e : ℤ) :
    unitsOf (ofMantissa s m e) = some (s.apply (m * 2 ^ (e + 149).toNat : ℕ)) := by
  unfold ofMantissa
  split_ifs with h
  · rw [h]
    cases s <;> simp [unitsOf, Sign.apply]
  · rfl

theorem canonical_ofMantissa (s : Sign) {m : ℕ} {e : ℤ} (hm : m < 2 ^ 24) (he : -149 ≤ e)
    (h : 2 ^ 23 ≤ m ∨ e = -149) : Canonical (ofMantissa s m e) := by
  unfold ofMantissa
  split_ifs
  · trivial
  · exact ⟨hm, he, h⟩

/-- Rounding is two shifts, the second one for a mantissa that was rounded up to a power of two. -/
theorem roundWithAccuracy_eq (s : Sign) (m : ℕ) (e : ℤ) (acc : Accuracy) :
    roundWithAccuracy .binary32 s m e acc =
      let r := (ExtendedMantissa.ofMantissaAndAccuracy m acc >>> shift m e).roundedMantissa
      let e' := e + shift m e
      let m' := (ExtendedMantissa.ofMantissaAndAccuracy r .exact >>> shift r e').mantissa
      ofMantissa s m' (e' + shift r e') :=
  rfl

section Rounding

variable {m a b i j : ℕ} {e : ℤ}

/-- The leading digit of a fraction, multiplied and divided by powers of two. -/
theorem log2_mul_pow_div (hne : a / b ≠ 0) (i j : ℕ) :
    (a * 2 ^ i / (b * 2 ^ j)).log2 = (a / b).log2 + i - j := by
  have hb : 0 < b := Nat.pos_of_ne_zero fun h => hne (by rw [h, Nat.div_zero])
  have hlow : 2 ^ (a / b).log2 * b ≤ a :=
    (Nat.le_div_iff_mul_le hb).mp (Nat.log2_self_le hne)
  have hhigh : a < 2 ^ ((a / b).log2 + 1) * b :=
    (Nat.div_lt_iff_lt_mul hb).mp Nat.lt_log2_self
  generalize (a / b).log2 = l at hlow hhigh ⊢
  have hden : 0 < b * 2 ^ j := Nat.mul_pos hb (Nat.two_pow_pos j)
  by_cases hlt : l + i < j
  · have hzero : a * 2 ^ i / (b * 2 ^ j) = 0 := by
      refine Nat.div_eq_of_lt ?_
      calc a * 2 ^ i < 2 ^ (l + 1) * b * 2 ^ i :=
            Nat.mul_lt_mul_of_pos_right hhigh (Nat.two_pow_pos i)
        _ = b * 2 ^ (l + i + 1) := by ring
        _ ≤ b * 2 ^ j := Nat.mul_le_mul_left b (Nat.pow_le_pow_right two_pos hlt)
    rw [hzero, Nat.log2_zero]
    omega
  · obtain ⟨k, hk⟩ := Nat.exists_eq_add_of_le (not_lt.mp hlt)
    have hle : 2 ^ k ≤ a * 2 ^ i / (b * 2 ^ j) := by
      rw [Nat.le_div_iff_mul_le hden]
      calc 2 ^ k * (b * 2 ^ j) = b * 2 ^ (j + k) := by ring
        _ = 2 ^ l * b * 2 ^ i := by rw [← hk]; ring
        _ ≤ a * 2 ^ i := Nat.mul_le_mul_right _ hlow
    have hlt : a * 2 ^ i / (b * 2 ^ j) < 2 ^ (k + 1) := by
      rw [Nat.div_lt_iff_lt_mul hden]
      calc a * 2 ^ i < 2 ^ (l + 1) * b * 2 ^ i :=
            Nat.mul_lt_mul_of_pos_right hhigh (Nat.two_pow_pos i)
        _ = b * 2 ^ (l + i) * 2 := by ring
        _ = 2 ^ (k + 1) * (b * 2 ^ j) := by rw [hk]; ring
    have hq : a * 2 ^ i / (b * 2 ^ j) ≠ 0 := by
      have := Nat.two_pow_pos k
      omega
    rw [(Nat.log2_eq_iff hq).mpr ⟨hle, hlt⟩]
    omega

/-- The target exponent counts the grain. -/
theorem grain_eq_shift (hm : m = a / b) (hzero : m = 0 → e ≤ -149)
    (hij : (i : ℤ) - j = e + 149) (he : e ≤ max (m.log2 + 1 + e - 24) (-149)) :
    (grain (a * 2 ^ i) (b * 2 ^ j) : ℤ) = e + shift m e + 149 := by
  have hshift : (shift m e : ℤ) = max (m.log2 + 1 + e - 24) (-149) - e :=
    Int.toNat_of_nonneg (by omega)
  rw [hshift]
  rw [grain_eq]
  by_cases hne : a / b = 0
  · have hm0 : m = 0 := hm.trans hne
    have hle := hzero hm0
    have hq : a * 2 ^ i / (b * 2 ^ j) = 0 := by
      rcases Nat.eq_zero_or_pos b with hb | hb
      · simp [hb]
      · have hlt : a < b := (Nat.div_eq_zero_iff_lt hb).mp hne
        refine Nat.div_eq_of_lt ?_
        exact Nat.mul_lt_mul_of_lt_of_le hlt (Nat.pow_le_pow_right two_pos (by omega))
          (Nat.two_pow_pos j)
    rw [hq, hm0, Nat.log2_zero]
    omega
  · rw [log2_mul_pow_div hne, hm]
    omega

/-- The mantissa after a shift without rounding. -/
theorem mantissa_shiftRight (r n : ℕ) :
    (ExtendedMantissa.ofMantissaAndAccuracy r .exact >>> n).mantissa = r / 2 ^ n := by
  rw [((represents_exact r).shiftRight one_pos n).mantissa, one_mul]

/-- A mantissa of twenty-four digits stays where it is, and the next one is shifted by one bit. -/
theorem shift_eq {r : ℕ} (hr : r ≤ 2 ^ 24) (he : -149 ≤ e) :
    shift r e = if r = 2 ^ 24 then 1 else 0 := by
  unfold shift
  split_ifs with h
  · have hlog : r.log2 = 24 := by
      rw [h]
      decide
    rw [hlog]
    omega
  · have hlog : r.log2 ≤ 23 := by
      rcases Nat.eq_zero_or_pos r with h0 | h0
      · simp [h0]
      · have := (Nat.log2_lt h0.ne').mpr (lt_of_le_of_ne hr h)
        omega
    omega

/-- The second shift keeps the units, and its result is canonical. -/
theorem ofMantissa_shift_spec (s : Sign) {r g : ℕ} {e : ℤ} (hr : r ≤ 2 ^ 24)
    (hdigits : g ≠ 0 → 2 ^ 23 ≤ r) (he : e = g - 149) :
    unitsOf (ofMantissa s (r / 2 ^ shift r e) (e + shift r e)) = some (s.apply (r * 2 ^ g : ℕ)) ∧
      Canonical (ofMantissa s (r / 2 ^ shift r e) (e + shift r e)) := by
  subst he
  rw [shift_eq hr (by omega)]
  split_ifs with hcarry
  · -- the mantissa was rounded up to a power of two
    have htoNat : ((g : ℤ) - 149 + (1 : ℕ) + 149).toNat = g + 1 := by omega
    have hpow : 2 ^ 24 / 2 ^ 1 * 2 ^ (g + 1) = 2 ^ 24 * 2 ^ g := by ring
    subst hcarry
    rw [unitsOf_ofMantissa, htoNat, hpow]
    exact ⟨rfl, canonical_ofMantissa s (by norm_num) (by omega) (Or.inl (by norm_num))⟩
  · have htoNat : ((g : ℤ) - 149 + (0 : ℕ) + 149).toNat = g := by omega
    rw [unitsOf_ofMantissa, htoNat, pow_zero, Nat.div_one]
    refine ⟨rfl, canonical_ofMantissa s (lt_of_le_of_ne hr hcarry) (by omega) ?_⟩
    by_cases hg : g = 0
    · exact Or.inr (by omega)
    · exact Or.inl (hdigits hg)

/-- **Rounding in the model is rounding of fractions**, up to the sign. -/
theorem roundWithAccuracy_spec (s : Sign) {acc : Accuracy}
    (h : Represents (ExtendedMantissa.ofMantissaAndAccuracy m acc) a b) (hm : m = a / b)
    (hb : 0 < b) (hzero : m = 0 → e ≤ -149) (hij : (i : ℤ) - j = e + 149)
    (he : e ≤ max (m.log2 + 1 + e - 24) (-149)) :
    unitsOf (roundWithAccuracy .binary32 s m e acc) =
        some (s.apply (nearest (a * 2 ^ i) (b * 2 ^ j))) ∧
      Canonical (roundWithAccuracy .binary32 s m e acc) := by
  have hgrain := grain_eq_shift hm hzero hij he
  have hround := (h.shiftRight hb (shift m e)).roundedMantissa (Nat.mul_pos hb (Nat.two_pow_pos _))
  have hden : 0 < b * 2 ^ j := Nat.mul_pos hb (Nat.two_pow_pos j)
  have hle := halfEven_grain_le (a := a * 2 ^ i) hden
  have hge := pow_grain_le (a := a * 2 ^ i) hden
  -- after the first shift the mantissa holds the digits of the result
  have hdigits : halfEven (a * 2 ^ i) (b * 2 ^ j * 2 ^ grain (a * 2 ^ i) (b * 2 ^ j)) =
      halfEven a (b * 2 ^ shift m e) := by
    have hexp : j + grain (a * 2 ^ i) (b * 2 ^ j) = i + shift m e := by omega
    rw [mul_assoc, ← pow_add, hexp, pow_add, mul_comm a, mul_left_comm,
      halfEven_mul_left (Nat.two_pow_pos i)]
  have hdig23 : grain (a * 2 ^ i) (b * 2 ^ j) ≠ 0 → 2 ^ 23 ≤ halfEven a (b * 2 ^ shift m e) := by
    intro hne
    rw [← hdigits]
    exact le_halfEven (Nat.mul_pos hden (Nat.two_pow_pos _)) (hge hne)
  rw [hdigits] at hle
  rw [roundWithAccuracy_eq]
  simp only [hround, nearest, hdigits, mantissa_shiftRight]
  exact ofMantissa_shift_spec s hle hdig23 (by omega)

end Rounding

end Colorimetry.Binary32
