import Mathlib
import Colorimetry.Proofs.Multiplier.Range
import Colorimetry.Proofs.Surface.Resolution

/-!
# Which multipliers a surface can be decoded with

`Color.checkMultiplier` lets every finite positive multiplier pass, and what follows is the inversion
of the encoding matrix. In binary32 it does not always succeed. `Color.ycbcrToRgb_outcome` says, for
every state and every multiplier, which of three things happens: the multiplier is refused by the
check; there is a decoding matrix, and it is finite; or the encoding matrix is reported as singular.
The second is a matter of two bounds that depend on the encoding and the range
(`Color.leastMultiplier`, `Color.multiplierLimit`).

The proof is the one for factors in `Span.Checked.isSome_inverse?_iff`, read through reciprocals, and
the comparison of floats by their units.
-/

namespace Colorimetry.Surface.Color

open Binary32

/-- The least multiplier with a decoding matrix, around `8e-14`. -/
def leastMultiplier (s : Color) : Float32 :=
  .ofBits (leastMultiplierBits s.encoding s.isFullRange)

/-- The first multiplier that is too great for a decoding matrix, around `4e12`. -/
def multiplierLimit (s : Color) : Float32 :=
  .ofBits (multiplierLimitBits s.encoding s.isFullRange)

section Conditions

variable (s : Color) {k : Float32}

/-- What passes the check, in units. -/
theorem isFinite_and_pos_iff :
    (k.isFinite = true ∧ 0 < k) ↔ ∃ n : ℕ, 0 < n ∧ units k = some (n : ℤ) := by
  constructor
  · rintro ⟨hfin, hpos⟩
    obtain ⟨a, ha⟩ := Option.isSome_iff_exists.mp ((isFinite_eq_isSome k).symm.trans hfin)
    have hlt : 0 < a := (lt_iff units_zero ha).mp hpos
    obtain ⟨n, rfl⟩ := Int.eq_ofNat_of_zero_le hlt.le
    exact ⟨n, by exact_mod_cast hlt, ha⟩
  · rintro ⟨n, hn, hk⟩
    refine ⟨?_, (lt_iff units_zero hk).mpr (by exact_mod_cast hn)⟩
    rw [isFinite_eq_isSome, hk]
    rfl

/-- What lies between the bounds, in units. -/
theorem between_iff :
    (s.leastMultiplier ≤ k ∧ k < s.multiplierLimit) ↔ ∃ n : ℕ, 0 < n ∧ units k = some (n : ℤ) ∧
      mantissaOfBits (leastMultiplierBits s.encoding s.isFullRange) * 2 ^ 82 ≤ n ∧
        n < mantissaOfBits (multiplierLimitBits s.encoding s.isFullRange) * 2 ^ 167 := by
  have hleast := units_leastMultiplierBits s.encoding s.isFullRange
  have hlimit := units_multiplierLimitBits s.encoding s.isFullRange
  constructor
  · rintro ⟨hle, hlt⟩
    obtain ⟨a, ha⟩ := exists_units_of_le_of_lt hleast hlimit hle hlt
    have hle' := (le_iff hleast ha).mp hle
    have hlt' := (lt_iff ha hlimit).mp hlt
    obtain ⟨n, rfl⟩ := Int.eq_ofNat_of_zero_le ((Int.natCast_nonneg _).trans hle')
    have hmantissa : 0 < mantissaOfBits (leastMultiplierBits s.encoding s.isFullRange) := by
      unfold mantissaOfBits
      positivity
    refine ⟨n, ?_, ha, by exact_mod_cast hle', by exact_mod_cast hlt'⟩
    exact (Nat.mul_pos hmantissa (Nat.two_pow_pos 82)).trans_le (by exact_mod_cast hle')
  · rintro ⟨n, -, hk, hle, hlt⟩
    exact ⟨(le_iff hleast hk).mpr (by exact_mod_cast hle),
      (lt_iff hk hlimit).mpr (by exact_mod_cast hlt)⟩

/-- **Between the bounds there is an inverse**, and among the multipliers that pass the check only
there. -/
theorem isSome_inverse?_iff_between (hk : k.isFinite = true ∧ 0 < k) :
    (rgbToYcbcrMatrix (s.colorEncoding : ColorEncoding Float32) k s.isFullRange).inverse?.isSome =
        true ↔
      s.leastMultiplier ≤ k ∧ k < s.multiplierLimit := by
  obtain ⟨n, hn, hunits⟩ := isFinite_and_pos_iff.mp hk
  have hiff := isSome_inverse?_rgbToYcbcrMatrix_iff s.encoding s.isFullRange hn hunits
  refine hiff.trans ?_
  rw [between_iff]
  constructor
  · rintro h
    exact ⟨n, hn, hunits, h⟩
  · rintro ⟨n', -, hunits', h⟩
    obtain rfl : n = n' := by
      have hsame : some (n : ℤ) = some (n' : ℤ) := hunits.symm.trans hunits'
      exact_mod_cast Option.some.inj hsame
    exact h

end Conditions

/-! ### The outcome -/

section Outcome

variable (s : Color) {k : Float32}

/-- A multiplier that is refused. -/
theorem ycbcrToRgb_of_not_accepted (hk : ¬(k.isFinite = true ∧ 0 < k)) :
    s.ycbcrToRgb k = .error (.invalidMultiplier k) := by
  have hcheck : checkMultiplier k = .error (.invalidMultiplier k) := by
    unfold checkMultiplier
    refine if_neg ?_
    rw [Bool.and_eq_true, decide_eq_true_eq]
    exact hk
  rw [ycbcrToRgb, hcheck]
  rfl

/-- An accepted multiplier with a decoding matrix. -/
theorem ycbcrToRgb_of_inverse {m : Mat4 Float32} (hk : k.isFinite = true ∧ 0 < k)
    (hm : (rgbToYcbcrMatrix (s.colorEncoding : ColorEncoding Float32) k s.isFullRange).inverse? =
      some m) : s.ycbcrToRgb k = .ok m := by
  rw [ycbcrToRgb, checkMultiplier_eq_ok_iff.mpr hk]
  change Error.ofSingular (ycbcrToRgbMatrix s.colorEncoding k s.isFullRange) = _
  rw [ycbcrToRgbMatrix, Mat4.requireInverse, hm]
  rfl

/-- An accepted multiplier without one. -/
theorem ycbcrToRgb_of_no_inverse (hk : k.isFinite = true ∧ 0 < k)
    (hm : (rgbToYcbcrMatrix (s.colorEncoding : ColorEncoding Float32) k s.isFullRange).inverse? =
      none) :
    s.ycbcrToRgb k = .error (.singular ⟨(s.colorEncoding : ColorEncoding Float32).name,
      rgbToYcbcrMatrix s.colorEncoding k s.isFullRange⟩) := by
  rw [ycbcrToRgb, checkMultiplier_eq_ok_iff.mpr hk]
  change Error.ofSingular (ycbcrToRgbMatrix s.colorEncoding k s.isFullRange) = _
  rw [ycbcrToRgbMatrix, Mat4.requireInverse, hm]
  rfl

theorem accepted_of_between (h : s.leastMultiplier ≤ k ∧ k < s.multiplierLimit) :
    k.isFinite = true ∧ 0 < k := by
  obtain ⟨n, hn, hk, -⟩ := s.between_iff.mp h
  exact isFinite_and_pos_iff.mpr ⟨n, hn, hk⟩

end Outcome

/-- **The outcome of a decoding request**, for every state and every binary32 value. The check
refuses what is not finite and positive. A matrix, which then is finite, comes out exactly if the
multiplier lies between the bounds; the other accepted multipliers end with a singular matrix. -/
theorem ycbcrToRgb_outcome (s : Color) (k : Float32) :
    (s.ycbcrToRgb k = .error (.invalidMultiplier k) ↔ ¬(k.isFinite = true ∧ 0 < k)) ∧
    ((∃ m, s.ycbcrToRgb k = .ok m ∧ m.isFinite = true) ↔
      s.leastMultiplier ≤ k ∧ k < s.multiplierLimit) ∧
    (s.ycbcrToRgb k = .error (.singular ⟨(s.colorEncoding : ColorEncoding Float32).name,
        rgbToYcbcrMatrix s.colorEncoding k s.isFullRange⟩) ↔
      (k.isFinite = true ∧ 0 < k) ∧ ¬(s.leastMultiplier ≤ k ∧ k < s.multiplierLimit)) := by
  by_cases hk : k.isFinite = true ∧ 0 < k
  · have hiff := s.isSome_inverse?_iff_between hk
    cases hm : (rgbToYcbcrMatrix (s.colorEncoding : ColorEncoding Float32) k
        s.isFullRange).inverse? with
    | some m =>
      have hok := s.ycbcrToRgb_of_inverse hk hm
      rw [hm] at hiff
      have hbetween := hiff.mp rfl
      rw [hok]
      refine ⟨⟨nofun, fun h => absurd hk h⟩, ⟨fun _ => hbetween, fun _ => ⟨m, rfl, ?_⟩⟩,
        ⟨nofun, fun h => absurd hbetween h.2⟩⟩
      exact isFinite_of_inverse?_eq_some hm
    | none =>
      have herror := s.ycbcrToRgb_of_no_inverse hk hm
      rw [hm] at hiff
      have hout : ¬(s.leastMultiplier ≤ k ∧ k < s.multiplierLimit) := by
        rintro h
        cases hiff.mpr h
      rw [herror]
      exact ⟨⟨nofun, fun h => absurd hk h⟩, ⟨nofun, fun h => absurd h hout⟩,
        ⟨fun _ => ⟨hk, hout⟩, fun _ => rfl⟩⟩
  · rw [s.ycbcrToRgb_of_not_accepted hk]
    exact ⟨⟨fun _ => hk, fun _ => rfl⟩,
      ⟨nofun, fun h => absurd (s.accepted_of_between h) hk⟩, ⟨nofun, fun h => absurd h.1 hk⟩⟩

/-- A multiplier of `2 ^ 50` passes the check of a new surface, and the encoding matrix is then found
to be singular. -/
theorem ycbcrToRgb_two_pow_fifty :
    ((1125899906842624.0 : Float32).isFinite = true ∧ (0 : Float32) < 1125899906842624.0) ∧
      ∃ cause, ({} : Color).ycbcrToRgb (1125899906842624.0 : Float32) = .error (.singular cause) := by
  have hk : (1125899906842624.0 : Float32).isFinite = true ∧ (0 : Float32) < 1125899906842624.0 := by
    decide +kernel
  have hlimit : ¬(1125899906842624.0 : Float32) < ({} : Color).multiplierLimit := by
    decide +kernel
  refine ⟨hk, _, ycbcrToRgb_of_no_inverse {} hk ?_⟩
  rw [← Option.not_isSome_iff_eq_none, isSome_inverse?_iff_between {} hk]
  exact fun h => hlimit h.2

/-! ### Multipliers of moderate size -/

theorem leastMultiplierBits_le (e : Wire.Encoding) (fullRange : Bool) :
    Float32.ofBits (leastMultiplierBits e fullRange) ≤ 1e-13 := by
  cases e <;> cases fullRange <;> decide +kernel

theorem le_multiplierLimitBits (e : Wire.Encoding) (fullRange : Bool) :
    1e12 ≤ Float32.ofBits (multiplierLimitBits e fullRange) := by
  cases e <;> cases fullRange <;> decide +kernel

/-- Every state decodes with every multiplier of moderate size. -/
theorem exists_ycbcrToRgb_eq_ok (s : Color) {k : Float32} (hlow : 1e-13 ≤ k) (hhigh : k < 1e12) :
    ∃ m, s.ycbcrToRgb k = .ok m ∧ m.isFinite = true := by
  have hleast := units_leastMultiplierBits s.encoding s.isFullRange
  have hlimit := units_multiplierLimitBits s.encoding s.isFullRange
  obtain ⟨a, ha⟩ : ∃ a : ℤ, units (1e-13 : Float32) = some a :=
    Option.isSome_iff_exists.mp (by decide +kernel)
  obtain ⟨c, hc⟩ : ∃ c : ℤ, units (1e12 : Float32) = some c :=
    Option.isSome_iff_exists.mp (by decide +kernel)
  obtain ⟨b, hb⟩ := exists_units_of_le_of_lt ha hc hlow hhigh
  have hbetween : s.leastMultiplier ≤ k ∧ k < s.multiplierLimit := by
    have hfirst := (le_iff hleast ha).mp (leastMultiplierBits_le s.encoding s.isFullRange)
    have hlast := (le_iff hc hlimit).mp (le_multiplierLimitBits s.encoding s.isFullRange)
    exact ⟨(le_iff hleast hb).mpr (hfirst.trans ((le_iff ha hb).mp hlow)),
      (lt_iff hb hlimit).mpr (((lt_iff hb hc).mp hhigh).trans_le hlast)⟩
  have hk := s.accepted_of_between hbetween
  obtain ⟨m, hm⟩ := Option.isSome_iff_exists.mp ((s.isSome_inverse?_iff_between hk).mpr hbetween)
  exact ⟨m, s.ycbcrToRgb_of_inverse hk hm, isFinite_of_inverse?_eq_some hm⟩

end Colorimetry.Surface.Color
