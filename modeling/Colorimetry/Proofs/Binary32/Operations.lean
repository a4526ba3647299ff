import Mathlib
import Colorimetry.Proofs.Binary32.Packing

/-!
# The operations of the model

Each operation of the model works on mantissas and exponents, in whatever way keeps them small. In
units there is nothing to them: the sum of two finite floats is the rounded sum of two integers
(`add_spec`), their product the rounded product divided by one (`mul_spec`), the quotient the rounded
quotient times one (`div_spec`). A zero or a result that is exact needs no rounding in the model, and
none in units either, since what is canonical is representable (`nearestInt_unitsOf`).

An operand that is not finite leaves a result that is not finite; only division by an infinite value
gives zero. So `unitsOf` carries addition, subtraction and multiplication over to `Option ℤ` without
any condition, signs of zeros and kinds of non-finite values forgotten.
-/

namespace Colorimetry.Binary32

open Float.Model (Format UnpackedFloat totalExponent)
open Float.Model.UnpackedFloat

/-! ### Signed rounding -/

/-- The rounding of a signed fraction. -/
def nearestInt (n : ℤ) (b : ℕ) : ℤ := n.sign * nearest n.natAbs b

theorem nearest_zero_left {b : ℕ} (hb : 0 < b) : nearest 0 b = 0 := by
  have h := nearest_of_representable (n := 0) ⟨0, 0, by norm_num, by norm_num⟩ hb
  rwa [zero_mul] at h

/-- Two fractions of the same ratio are rounded alike. -/
theorem nearest_congr {a b a' b' : ℕ} (hb : 0 < b) (hb' : 0 < b') (h : a * b' = a' * b) :
    nearest a b = nearest a' b' :=
  le_antisymm (nearest_mono hb hb' h.le) (nearest_mono hb' hb h.ge)

theorem nearestInt_apply (s : Sign) (n : ℕ) {b : ℕ} (hb : 0 < b) :
    nearestInt (s.apply n) b = s.apply (nearest n b) := by
  rcases Nat.eq_zero_or_pos n with rfl | hn
  · cases s <;> simp [nearestInt, Sign.apply, nearest_zero_left hb]
  · cases s <;> simp [nearestInt, Sign.apply, Int.sign_eq_one_of_pos, hn]

theorem nearestInt_zero (b : ℕ) : nearestInt 0 b = 0 := by
  simp [nearestInt]

/-- A canonical float is representable. -/
theorem nearestInt_unitsOf {u : UnpackedFloat} (hu : Canonical u) {x : ℤ}
    (hx : unitsOf u = some x) : nearestInt x 1 = x := by
  cases u with
  | infinity s => cases hx
  | notANumber => cases hx
  | zero s =>
    obtain rfl : 0 = x := Option.some.inj hx
    exact nearestInt_zero 1
  | finite s m e hm =>
    obtain rfl : s.apply (m * 2 ^ (e + 149).toNat : ℕ) = x := Option.some.inj hx
    have hrep := nearest_of_representable (b := 1) ⟨m, (e + 149).toNat, hu.1, rfl⟩ one_pos
    rw [mul_one] at hrep
    rw [nearestInt_apply s _ one_pos, hrep]

theorem apply_mul (s : Sign) (m : ℕ) (k : ℤ) : s.apply m * k = s.apply (m * k) := by
  cases s <;> simp [Sign.apply]

theorem apply_neg (s : Sign) (k : ℤ) : (-s).apply k = -s.apply k := by
  cases s
  · exact (neg_neg k).symm
  · rfl

/-! ### Addition -/

/-- The exponent is lowered first where the mantissa is short. -/
theorem round_spec (s : Sign) {m : ℕ} {e : ℤ} (hm : 0 < m) (he : -149 ≤ e) :
    unitsOf (UnpackedFloat.round .binary32 s m e) =
        some (s.apply (nearest (m * 2 ^ (e + 149).toNat) 1)) ∧
      Canonical (UnpackedFloat.round .binary32 s m e) := by
  have hdef : UnpackedFloat.round .binary32 s m e =
      roundWithAccuracy .binary32 s (m <<< (e - max (m.log2 + 1 + e - 24) (-149)).toNat)
        (e - (e - max (m.log2 + 1 + e - 24) (-149)).toNat) .exact := rfl
  rw [hdef]
  generalize hk : (e - max (m.log2 + 1 + e - 24) (-149)).toNat = k
  have hlog : (m <<< k).log2 = m.log2 + k := by
    have hdiv := log2_mul_pow_div (a := m) (b := 1) (by simpa using hm.ne') k 0
    simpa [Nat.shiftLeft_eq] using hdiv
  have hpos : m <<< k ≠ 0 := by
    rw [Nat.shiftLeft_eq]
    exact (Nat.mul_pos hm (Nat.two_pow_pos k)).ne'
  have hspec := roundWithAccuracy_spec s (represents_exact (m <<< k)) (Nat.div_one _).symm one_pos
    (i := (e - k + 149).toNat) (j := 0) (e := e - k) (fun h => absurd h hpos) (by omega)
    (by rw [hlog]; omega)
  -- the shift and the lower exponent count the same units
  have hvalue : m <<< k * 2 ^ (e - k + 149).toNat = m * 2 ^ (e + 149).toNat := by
    have hexp : (e + 149).toNat = k + (e - k + 149).toNat := by omega
    rw [Nat.shiftLeft_eq, hexp, pow_add, mul_assoc]
  rw [hvalue, pow_zero, mul_one] at hspec
  exact hspec

theorem normalize_spec (n : ℤ) {e : ℤ} (he : -149 ≤ e) (zs : Sign) :
    unitsOf (UnpackedFloat.normalize .binary32 n e zs) = some (nearestInt (n * 2 ^ (e + 149).toNat) 1) ∧
      Canonical (UnpackedFloat.normalize .binary32 n e zs) := by
  unfold UnpackedFloat.normalize
  rcases lt_trichotomy n 0 with h | h | h
  · rw [compare_lt_iff_lt.mpr h]
    obtain ⟨m, rfl⟩ : ∃ m : ℕ, n = -m := ⟨(-n).toNat, by omega⟩
    have hspec := round_spec .negative (m := m) (by omega) he
    have hround := nearestInt_apply .negative (m * 2 ^ (e + 149).toNat) one_pos
    rw [← hround] at hspec
    simpa [Sign.apply] using hspec
  · rw [compare_eq_iff_eq.mpr h, h, zero_mul, nearestInt_zero]
    exact ⟨rfl, trivial⟩
  · rw [compare_gt_iff_gt.mpr h]
    obtain ⟨m, rfl⟩ : ∃ m : ℕ, n = m := ⟨n.toNat, by omega⟩
    have hspec := round_spec .positive (m := m) (by omega) he
    have hround := nearestInt_apply .positive (m * 2 ^ (e + 149).toNat) one_pos
    rw [← hround] at hspec
    simpa [Sign.apply] using hspec

/-- Two optional integers combined. -/
def lift (f : ℤ → ℤ → ℤ) (x y : Option ℤ) : Option ℤ := x.bind fun a => y.map fun b => f a b

/-- A mantissa moved to a lower exponent counts the same units. -/
theorem apply_shiftLeft_mul (s : Sign) (m : ℕ) {e t : ℤ} (ht : -149 ≤ t) (hte : t ≤ e) :
    s.apply (m <<< (e - t).toNat : ℕ) * 2 ^ (t + 149).toNat =
      s.apply (m * 2 ^ (e + 149).toNat : ℕ) := by
  have hexp : (e + 149).toNat = (e - t).toNat + (t + 149).toNat := by omega
  rw [apply_mul, Nat.shiftLeft_eq, hexp, pow_add, ← mul_assoc]
  push_cast
  rfl

/-- **Addition in units.** -/
theorem add_spec {u v : UnpackedFloat} (hu : Canonical u) (hv : Canonical v) :
    unitsOf (add .binary32 u v) = lift (fun x y => nearestInt (x + y) 1) (unitsOf u) (unitsOf v) ∧
      Canonical (add .binary32 u v) := by
  cases u with
  | notANumber => exact ⟨rfl, trivial⟩
  | infinity s =>
    cases v with
    | infinity s' => cases s <;> cases s' <;> exact ⟨rfl, trivial⟩
    | notANumber | zero | finite => exact ⟨rfl, trivial⟩
  | zero s =>
    cases v with
    | notANumber | infinity => exact ⟨rfl, trivial⟩
    | zero s' =>
      refine ⟨?_, ?_⟩
      · simp only [lift, unitsOf, Option.bind_some, Option.map_some, add_zero, nearestInt_zero]
        cases s <;> cases s' <;> rfl
      · cases s <;> cases s' <;> trivial
    | finite s' m' e' hm' =>
      -- the other operand is the result, and it is not rounded again
      refine ⟨?_, hv⟩
      have hexact := nearestInt_unitsOf hv rfl
      simp only [lift, unitsOf, Option.bind_some, Option.map_some, zero_add, hexact]
      rfl
  | finite s m e hm =>
    cases v with
    | notANumber | infinity => exact ⟨rfl, trivial⟩
    | zero s' =>
      refine ⟨?_, hu⟩
      have hexact := nearestInt_unitsOf hu rfl
      simp only [lift, unitsOf, Option.bind_some, Option.map_some, add_zero, hexact]
      rfl
    | finite s' m' e' hm' =>
      have he : -149 ≤ e := hu.2.1
      have he' : -149 ≤ e' := hv.2.1
      have hspec := normalize_spec
        (s.apply (m <<< (e - min e e').toNat : ℕ) + s'.apply (m' <<< (e' - min e e').toNat : ℕ))
        (le_min he he') .positive
      rw [add_mul, apply_shiftLeft_mul s m (le_min he he') (min_le_left e e'),
        apply_shiftLeft_mul s' m' (le_min he he') (min_le_right e e')] at hspec
      exact hspec

theorem neg_spec {u : UnpackedFloat} (hu : Canonical u) :
    unitsOf (neg u) = (unitsOf u).map (-·) ∧ Canonical (neg u) := by
  cases u with
  | notANumber | infinity => exact ⟨rfl, trivial⟩
  | zero s => exact ⟨rfl, trivial⟩
  | finite s m e hm =>
    refine ⟨?_, hu⟩
    simp only [neg, unitsOf, Option.map_some, apply_neg]

/-- Subtraction adds the opposite. -/
theorem sub_eq_add_neg (u v : UnpackedFloat) :
    sub .binary32 u v = add .binary32 u (neg v) := by
  cases u with
  | notANumber => cases v <;> rfl
  | infinity s => cases v <;> rfl
  | zero s => cases v <;> rfl
  | finite s m e hm =>
    cases v with
    | notANumber | infinity | zero => rfl
    | finite s' m' e' hm' =>
      simp only [sub, add, neg, apply_neg]
      rfl

/-- **Subtraction in units.** -/
theorem sub_spec {u v : UnpackedFloat} (hu : Canonical u) (hv : Canonical v) :
    unitsOf (sub .binary32 u v) = lift (fun x y => nearestInt (x - y) 1) (unitsOf u) (unitsOf v) ∧
      Canonical (sub .binary32 u v) := by
  obtain ⟨hunits, hcan⟩ := neg_spec hv
  have hspec := add_spec hu hcan
  rw [← sub_eq_add_neg, hunits] at hspec
  refine ⟨hspec.1.trans ?_, hspec.2⟩
  cases unitsOf u <;> cases unitsOf v <;> rfl

/-! ### Multiplication -/

theorem apply_mul_apply (s t : Sign) (m n : ℕ) :
    s.apply m * t.apply n = (s * t).apply (m * n : ℕ) := by
  have hcast : ((m * n : ℕ) : ℤ) = m * n := Nat.cast_mul m n
  rw [hcast]
  cases s <;> cases t
  · exact neg_mul_neg (m : ℤ) n
  · exact neg_mul (m : ℤ) n
  · exact mul_neg (m : ℤ) n
  · rfl

/-- **Multiplication in units.** -/
theorem mul_spec {u v : UnpackedFloat} (hu : Canonical u) (hv : Canonical v) :
    unitsOf (mul .binary32 u v) =
        lift (fun x y => nearestInt (x * y) (2 ^ 149)) (unitsOf u) (unitsOf v) ∧
      Canonical (mul .binary32 u v) := by
  cases u with
  | notANumber => exact ⟨rfl, trivial⟩
  | infinity s => cases v <;> exact ⟨rfl, trivial⟩
  | zero s =>
    cases v with
    | notANumber | infinity => exact ⟨rfl, trivial⟩
    | zero | finite =>
      refine ⟨?_, trivial⟩
      simp only [lift, unitsOf, Option.bind_some, Option.map_some, zero_mul, nearestInt_zero]
      rfl
  | finite s m e hm =>
    cases v with
    | notANumber | infinity => exact ⟨rfl, trivial⟩
    | zero =>
      refine ⟨?_, trivial⟩
      simp only [lift, unitsOf, Option.bind_some, Option.map_some, mul_zero, nearestInt_zero]
      rfl
    | finite s' m' e' hm' =>
      obtain ⟨hlt, he, hnormal⟩ := hu
      obtain ⟨hlt', he', hnormal'⟩ := hv
      have hpos : m * m' ≠ 0 := (Nat.mul_pos hm hm').ne'
      have htarget : e + e' ≤ max ((m * m').log2 + 1 + (e + e') - 24) (-149) := by
        by_cases hlarge : 2 ^ 23 ≤ m * m'
        · have := (Nat.le_log2 hpos).mpr hlarge
          omega
        · -- short factors have the least exponent
          have hm23 : ¬ 2 ^ 23 ≤ m := fun h => hlarge (h.trans (Nat.le_mul_of_pos_right m hm'))
          have hm23' : ¬ 2 ^ 23 ≤ m' := fun h => hlarge (h.trans (Nat.le_mul_of_pos_left m' hm))
          omega
      have hspec := roundWithAccuracy_spec (s * s') (represents_exact (m * m'))
        (Nat.div_one _).symm one_pos (i := (e + 149).toNat + (e' + 149).toNat) (j := 149)
        (fun h => absurd h hpos) (by omega) htarget
      have hvalue : m * m' * 2 ^ ((e + 149).toNat + (e' + 149).toNat) =
          m * 2 ^ (e + 149).toNat * (m' * 2 ^ (e' + 149).toNat) := by
        rw [pow_add]
        ring
      rw [hvalue, one_mul] at hspec
      refine ⟨?_, hspec.2⟩
      simp only [lift, unitsOf, Option.bind_some, Option.map_some]
      rw [apply_mul_apply, nearestInt_apply _ _ (Nat.two_pow_pos 149)]
      exact hspec.1

/-! ### Division -/

theorem div_eq_mul (s t : Sign) : s / t = s * t := by
  cases s <;> cases t <;> rfl

/-- A quotient that is not the least possible has twenty-four digits. -/
theorem pow_le_quotient {m m' k : ℕ} (hm : 0 < m) (hm' : 0 < m')
    (hk : 24 + m'.log2 ≤ m.log2 + k) : 2 ^ 23 ≤ m <<< k / m' := by
  rw [Nat.le_div_iff_mul_le hm', Nat.shiftLeft_eq]
  calc 2 ^ 23 * m' ≤ 2 ^ 23 * 2 ^ (m'.log2 + 1) :=
        Nat.mul_le_mul_left _ Nat.lt_log2_self.le
    _ = 2 ^ (24 + m'.log2) := by ring
    _ ≤ 2 ^ (m.log2 + k) := Nat.pow_le_pow_right two_pos hk
    _ = 2 ^ m.log2 * 2 ^ k := pow_add 2 _ _
    _ ≤ m * 2 ^ k := Nat.mul_le_mul_right _ (Nat.log2_self_le hm.ne')

/-- **The quotient of two finite floats in units.** -/
theorem div_finite_spec (s s' : Sign) {m m' : ℕ} {e e' : ℤ} (hm : 0 < m) (hm' : 0 < m')
    (he : -149 ≤ e) (he' : -149 ≤ e') :
    unitsOf (div .binary32 (.finite s m e hm) (.finite s' m' e' hm')) =
        some ((s * s').apply (nearest (m * 2 ^ (e + 149).toNat * 2 ^ 149)
          (m' * 2 ^ (e' + 149).toNat))) ∧
      Canonical (div .binary32 (.finite s m e hm) (.finite s' m' e' hm')) := by
  have hdef : div .binary32 (.finite s m e hm) (.finite s' m' e' hm') =
      (fun t : ℤ => roundWithAccuracy .binary32 (s / s') (m <<< (e - e' - t).toNat / m') t
        (accuracyOfFraction (m <<< (e - e' - t).toNat % m') m'))
      (min (e - e') (max (m.log2 + 1 + e - (m'.log2 + 1 + e') - 24) (-149))) := rfl
  rw [hdef, div_eq_mul]
  generalize ht : min (e - e') (max (m.log2 + 1 + e - (m'.log2 + 1 + e') - 24) (-149)) = t
  dsimp only
  generalize hk : (e - e' - t).toNat = k
  -- the divided mantissa has enough digits, or the exponent is the least one
  have hdigits : t ≤ -149 ∨ 23 ≤ (m <<< k / m').log2 ∧ m <<< k / m' ≠ 0 := by
    by_cases hle : t ≤ -149
    · exact Or.inl hle
    · have hlarge := pow_le_quotient (k := k) hm hm' (by omega)
      have hne : m <<< k / m' ≠ 0 := by
        have := Nat.two_pow_pos 23
        omega
      exact Or.inr ⟨(Nat.le_log2 hne).mpr hlarge, hne⟩
  have hspec := roundWithAccuracy_spec (s * s') (represents_quotient (a := m <<< k) hm') rfl hm'
    (i := (t + 149).toNat) (j := (-(t + 149)).toNat) (e := t) (by omega) (by omega) (by omega)
  have hratio : nearest (m <<< k * 2 ^ (t + 149).toNat) (m' * 2 ^ (-(t + 149)).toNat) =
      nearest (m * 2 ^ (e + 149).toNat * 2 ^ 149) (m' * 2 ^ (e' + 149).toNat) := by
    refine nearest_congr (by positivity) (by positivity) ?_
    have hexp : k + (t + 149).toNat + (e' + 149).toNat =
        (e + 149).toNat + 149 + (-(t + 149)).toNat := by omega
    calc m <<< k * 2 ^ (t + 149).toNat * (m' * 2 ^ (e' + 149).toNat)
        = m * m' * 2 ^ (k + (t + 149).toNat + (e' + 149).toNat) := by
          rw [Nat.shiftLeft_eq]
          ring
      _ = m * m' * 2 ^ ((e + 149).toNat + 149 + (-(t + 149)).toNat) := by rw [hexp]
      _ = m * 2 ^ (e + 149).toNat * 2 ^ 149 * (m' * 2 ^ (-(t + 149)).toNat) := by ring
  rw [hratio] at hspec
  exact hspec

/-- The rounded quotient of two integers; there is none for a divisor that is zero. -/
def quotient (x y : ℤ) : Option ℤ :=
  if y = 0 then none else some (nearestInt (x * y.sign * 2 ^ 149) y.natAbs)

theorem sign_apply (s : Sign) {n : ℕ} (hn : 0 < n) (m : ℕ) (t : Sign) :
    t.apply m * (s.apply n).sign = (t * s).apply m := by
  have hone : (s.apply n).sign = s.apply 1 := by
    cases s <;> simp [Sign.apply, Int.sign_eq_one_of_pos, hn]
  have hmul := apply_mul_apply t s m 1
  rwa [mul_one, Nat.cast_one, ← hone] at hmul

/-- **Division in units**, for a finite divisor. -/
theorem div_spec {u v : UnpackedFloat} (hu : Canonical u) (hv : Canonical v) {y : ℤ}
    (hy : unitsOf v = some y) :
    unitsOf (div .binary32 u v) = (unitsOf u).bind (quotient · y) ∧
      Canonical (div .binary32 u v) := by
  cases v with
  | notANumber => cases hy
  | infinity => cases hy
  | zero s' =>
    obtain rfl : 0 = y := Option.some.inj hy
    cases u <;> exact ⟨rfl, trivial⟩
  | finite s' m' e' hm' =>
    obtain rfl : s'.apply (m' * 2 ^ (e' + 149).toNat : ℕ) = y := Option.some.inj hy
    have hpos : 0 < m' * 2 ^ (e' + 149).toNat := Nat.mul_pos hm' (Nat.two_pow_pos _)
    have hne : s'.apply (m' * 2 ^ (e' + 149).toNat : ℕ) ≠ 0 := by
      rw [← Int.natAbs_ne_zero, natAbs_apply]
      exact hpos.ne'
    cases u with
    | notANumber | infinity => exact ⟨rfl, trivial⟩
    | zero s =>
      refine ⟨?_, trivial⟩
      simp only [unitsOf, Option.bind_some, quotient, if_neg hne, zero_mul, nearestInt_zero]
      rfl
    | finite s m e hm =>
      have hspec := div_finite_spec s s' hm hm' hu.2.1 hv.2.1
      refine ⟨hspec.1.trans ?_, hspec.2⟩
      simp only [unitsOf, Option.bind_some, quotient, if_neg hne]
      have hscale : (s * s').apply (m * 2 ^ (e + 149).toNat : ℕ) * 2 ^ 149 =
          (s * s').apply (m * 2 ^ (e + 149).toNat * 2 ^ 149 : ℕ) := by
        rw [apply_mul]
        push_cast
        rfl
      rw [sign_apply s' hpos, hscale, natAbs_apply, nearestInt_apply _ _ hpos]

/-! ### Comparison -/

/-- Canonical mantissas compare by their exponents first. -/
theorem compare_units {m m' : ℕ} {e e' : ℤ} (hm : m < 2 ^ 24) (hm' : m' < 2 ^ 24)
    (he : -149 ≤ e) (he' : -149 ≤ e') (h : 2 ^ 23 ≤ m ∨ e = -149)
    (h' : 2 ^ 23 ≤ m' ∨ e' = -149) :
    (compare e e').then (compare m m') =
      compare (m * 2 ^ (e + 149).toNat) (m' * 2 ^ (e' + 149).toNat) := by
  have hlt {n n' : ℕ} {f f' : ℤ} (hn : n < 2 ^ 24) (hf : -149 ≤ f) (hf' : f < f')
      (hn' : 2 ^ 23 ≤ n' ∨ f' = -149) :
      n * 2 ^ (f + 149).toNat < n' * 2 ^ (f' + 149).toNat := by
    have hlarge : 2 ^ 23 ≤ n' := hn'.resolve_right (by omega)
    calc n * 2 ^ (f + 149).toNat < 2 ^ 24 * 2 ^ (f + 149).toNat :=
          Nat.mul_lt_mul_of_pos_right hn (Nat.two_pow_pos _)
      _ = 2 ^ 23 * 2 ^ ((f + 149).toNat + 1) := by ring
      _ ≤ n' * 2 ^ (f' + 149).toNat :=
          Nat.mul_le_mul hlarge (Nat.pow_le_pow_right two_pos (by omega))
  rcases lt_trichotomy e e' with hee | rfl | hee
  · rw [compare_lt_iff_lt.mpr hee, compare_lt_iff_lt.mpr (hlt hm he hee h')]
    rfl
  · rw [compare_eq_iff_eq.mpr rfl, Ordering.then]
    rcases lt_trichotomy m m' with hmm | rfl | hmm
    · rw [compare_lt_iff_lt.mpr hmm,
        compare_lt_iff_lt.mpr (Nat.mul_lt_mul_of_pos_right hmm (Nat.two_pow_pos _))]
    · rw [compare_eq_iff_eq.mpr rfl, compare_eq_iff_eq.mpr rfl]
    · rw [compare_gt_iff_gt.mpr hmm,
        compare_gt_iff_gt.mpr (Nat.mul_lt_mul_of_pos_right hmm (Nat.two_pow_pos _))]
  · rw [compare_gt_iff_gt.mpr hee, compare_gt_iff_gt.mpr (hlt hm' he' hee h)]
    rfl

/-- Positive integers on both sides of zero. -/
theorem compare_apply (s t : Sign) {m n : ℕ} (hm : 0 < m) (hn : 0 < n) :
    compare (s.apply m) (t.apply n) =
      match s, t with
      | .positive, .positive => compare m n
      | .positive, .negative => .gt
      | .negative, .positive => .lt
      | .negative, .negative => (compare m n).swap := by
  cases s <;> cases t <;> simp only [Sign.apply]
  · rcases lt_trichotomy m n with h | rfl | h
    · rw [compare_lt_iff_lt.mpr h, compare_gt_iff_gt.mpr (by omega)]
      rfl
    · rw [compare_eq_iff_eq.mpr rfl, compare_eq_iff_eq.mpr rfl]
      rfl
    · rw [compare_gt_iff_gt.mpr h, compare_lt_iff_lt.mpr (by omega)]
      rfl
  · exact compare_lt_iff_lt.mpr (by omega)
  · exact compare_gt_iff_gt.mpr (by omega)
  · rcases lt_trichotomy m n with h | rfl | h
    · rw [compare_lt_iff_lt.mpr h, compare_lt_iff_lt.mpr (by omega)]
    · rw [compare_eq_iff_eq.mpr rfl, compare_eq_iff_eq.mpr rfl]
    · rw [compare_gt_iff_gt.mpr h, compare_gt_iff_gt.mpr (by omega)]

/-- **Finite floats compare as their units.** -/
theorem compare_spec {u v : UnpackedFloat} (hu : Canonical u) (hv : Canonical v) {x y : ℤ}
    (hx : unitsOf u = some x) (hy : unitsOf v = some y) :
    UnpackedFloat.compare u v = some (compare x y) := by
  cases u with
  | notANumber => cases hx
  | infinity => cases hx
  | zero s =>
    obtain rfl : 0 = x := Option.some.inj hx
    cases v with
    | notANumber => cases hy
    | infinity => cases hy
    | zero s' =>
      obtain rfl : 0 = y := Option.some.inj hy
      rfl
    | finite s' m' e' hm' =>
      obtain rfl : s'.apply (m' * 2 ^ (e' + 149).toNat : ℕ) = y := Option.some.inj hy
      have hpos : 0 < m' * 2 ^ (e' + 149).toNat := Nat.mul_pos hm' (Nat.two_pow_pos _)
      generalize m' * 2 ^ (e' + 149).toNat = n at hpos ⊢
      cases s'
      · exact congrArg some (compare_gt_iff_gt.mpr (by simp only [Sign.apply]; omega)).symm
      · exact congrArg some (compare_lt_iff_lt.mpr (by simp only [Sign.apply]; omega)).symm
  | finite s m e hm =>
    obtain rfl : s.apply (m * 2 ^ (e + 149).toNat : ℕ) = x := Option.some.inj hx
    have hpos : 0 < m * 2 ^ (e + 149).toNat := Nat.mul_pos hm (Nat.two_pow_pos _)
    cases v with
    | notANumber => cases hy
    | infinity => cases hy
    | zero s' =>
      obtain rfl : 0 = y := Option.some.inj hy
      generalize m * 2 ^ (e + 149).toNat = n at hpos ⊢
      cases s
      · exact congrArg some (compare_lt_iff_lt.mpr (by simp only [Sign.apply]; omega)).symm
      · exact congrArg some (compare_gt_iff_gt.mpr (by simp only [Sign.apply]; omega)).symm
    | finite s' m' e' hm' =>
      obtain rfl : s'.apply (m' * 2 ^ (e' + 149).toNat : ℕ) = y := Option.some.inj hy
      have hpos' : 0 < m' * 2 ^ (e' + 149).toNat := Nat.mul_pos hm' (Nat.two_pow_pos _)
      rw [compare_apply s s' hpos hpos',
        ← compare_units hu.1 hv.1 hu.2.1 hv.2.1 hu.2.2 hv.2.2]
      cases s <;> cases s' <;> rfl

end Colorimetry.Binary32
