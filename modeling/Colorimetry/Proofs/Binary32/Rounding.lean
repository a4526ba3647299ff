import Mathlib

/-!
# Rounding to binary32

Every finite binary32 value is an integer multiple of the least positive one, `2 ^ -149`, so the
arithmetic of binary32 is arithmetic of integers: a sum is a sum of integers, a product a product
divided by `2 ^ 149`, and all that is left to say is how a fraction of integers is rounded.

`halfEven a b` is the integer nearest to `a / b`, the even one of two. `nearest a b` rounds the
fraction to twenty-four significant digits, or to an integer where that is coarser: it is the nearest
multiple of `2 ^ grain a b`, and the truncated subtraction in `grain` is the whole of gradual
underflow. Both depend on nothing but the ratio of their arguments (`nearest_mul_left`), are monotone
in it (`nearest_mono`), and move it by at most half a grain (`nearest_mul_le`, `le_nearest_mul`).

An integer with twenty-four significant digits is `Representable`; these are the integers that
rounding leaves alone (`nearest_of_representable`), and the results of rounding
(`representable_nearest`).
-/

namespace Colorimetry.Binary32

/-! ### The nearest integer -/

/-- The integer nearest to a fraction, the even one of two. -/
def halfEven (a b : ℕ) : ℕ :=
  match compare (2 * (a % b)) b with
  | .lt => a / b
  | .eq => a / b + a / b % 2
  | .gt => a / b + 1

section HalfEven

variable {a b c : ℕ}

theorem halfEven_of_lt (h : 2 * (a % b) < b) : halfEven a b = a / b := by
  rw [halfEven, compare_lt_iff_lt.mpr h]

theorem halfEven_of_eq (h : 2 * (a % b) = b) : halfEven a b = a / b + a / b % 2 := by
  rw [halfEven, compare_eq_iff_eq.mpr h]

theorem halfEven_of_gt (h : b < 2 * (a % b)) : halfEven a b = a / b + 1 := by
  rw [halfEven, compare_gt_iff_gt.mpr h]

/-- Rounding goes up by one at most. -/
theorem halfEven_eq_or : halfEven a b = a / b ∨ halfEven a b = a / b + 1 := by
  rcases lt_trichotomy (2 * (a % b)) b with h | h | h
  · exact Or.inl (halfEven_of_lt h)
  · rw [halfEven_of_eq h]
    omega
  · exact Or.inr (halfEven_of_gt h)

/-- Only the ratio counts. -/
theorem halfEven_mul_left (hc : 0 < c) : halfEven (c * a) (c * b) = halfEven a b := by
  have hmod : c * a % (c * b) = c * (a % b) := Nat.mul_mod_mul_left c a b
  have hdiv : c * a / (c * b) = a / b := Nat.mul_div_mul_left a b hc
  rcases lt_trichotomy (2 * (a % b)) b with h | h | h
  · rw [halfEven_of_lt h, halfEven_of_lt, hdiv]
    rw [hmod, Nat.mul_left_comm]
    exact Nat.mul_lt_mul_of_pos_left h hc
  · rw [halfEven_of_eq h, halfEven_of_eq, hdiv]
    rw [hmod, Nat.mul_left_comm, h]
  · rw [halfEven_of_gt h, halfEven_of_gt, hdiv]
    rw [hmod, Nat.mul_left_comm]
    exact Nat.mul_lt_mul_of_pos_left h hc

/-- A whole fraction is not rounded. -/
theorem halfEven_mul_right (hb : 0 < b) : halfEven (a * b) b = a := by
  rw [halfEven_of_lt (by rwa [Nat.mul_mod_left]), Nat.mul_div_cancel a hb]

/-- The result exceeds the fraction by a half at most. -/
theorem halfEven_mul_le (a b : ℕ) : 2 * (halfEven a b * b) ≤ 2 * a + b := by
  have hdm : a / b * b + a % b = a := Nat.div_add_mod' a b
  rcases lt_trichotomy (2 * (a % b)) b with h | h | h
  · rw [halfEven_of_lt h]
    omega
  · have heven : a / b % 2 * b ≤ 1 * b := Nat.mul_le_mul_right b (by omega)
    rw [halfEven_of_eq h, Nat.add_mul]
    omega
  · rw [halfEven_of_gt h, Nat.add_mul]
    omega

/-- The result falls short of the fraction by a half at most. -/
theorem le_halfEven_mul (hb : 0 < b) : 2 * a ≤ 2 * (halfEven a b * b) + b := by
  have hdm : a / b * b + a % b = a := Nat.div_add_mod' a b
  have hmod : a % b < b := Nat.mod_lt a hb
  rcases lt_trichotomy (2 * (a % b)) b with h | h | h
  · rw [halfEven_of_lt h]
    omega
  · rw [halfEven_of_eq h, Nat.add_mul]
    omega
  · rw [halfEven_of_gt h, Nat.add_mul]
    omega

theorem halfEven_mono_left {a' : ℕ} (h : a ≤ a') : halfEven a b ≤ halfEven a' b := by
  have hdiv : a / b ≤ a' / b := Nat.div_le_div_right h
  rcases hdiv.lt_or_eq with hlt | heq
  · have hup : halfEven a b ≤ a / b + 1 := by
      rcases halfEven_eq_or (a := a) (b := b) with h' | h' <;> omega
    have hdown : a' / b ≤ halfEven a' b := by
      rcases halfEven_eq_or (a := a') (b := b) with h' | h' <;> omega
    omega
  · -- the same floor: the remainders compare
    have hmod : a % b ≤ a' % b := by
      have hdm := Nat.div_add_mod a b
      have hdm' := Nat.div_add_mod a' b
      rw [heq] at hdm
      omega
    rcases lt_trichotomy (2 * (a % b)) b with h1 | h1 | h1
    · rw [halfEven_of_lt h1, heq]
      rcases halfEven_eq_or (a := a') (b := b) with h' | h' <;> omega
    · rcases lt_trichotomy (2 * (a' % b)) b with h2 | h2 | h2
      · omega
      · rw [halfEven_of_eq h1, halfEven_of_eq h2, heq]
      · rw [halfEven_of_eq h1, halfEven_of_gt h2, heq]
        omega
    · rw [halfEven_of_gt h1, halfEven_of_gt (by omega), heq]

/-- **Rounding is monotone** in the ratio. -/
theorem halfEven_mono {a' b' : ℕ} (hb : 0 < b) (hb' : 0 < b') (h : a * b' ≤ a' * b) :
    halfEven a b ≤ halfEven a' b' := by
  calc halfEven a b = halfEven (b' * a) (b' * b) := (halfEven_mul_left hb').symm
    _ ≤ halfEven (b * a') (b' * b) :=
        halfEven_mono_left (by rwa [mul_comm b' a, mul_comm b a'])
    _ = halfEven a' b' := by rw [mul_comm b' b, halfEven_mul_left hb]

/-- A fraction that is an integer at least is rounded to that at least. -/
theorem le_halfEven {n : ℕ} (hb : 0 < b) (h : n * b ≤ a) : n ≤ halfEven a b := by
  rw [← halfEven_mul_right (a := n) hb]
  exact halfEven_mono_left h

/-- A fraction that is an integer at most is rounded to that at most. -/
theorem halfEven_le {n : ℕ} (hb : 0 < b) (h : a ≤ n * b) : halfEven a b ≤ n := by
  rw [← halfEven_mul_right (a := n) hb]
  exact halfEven_mono_left h

end HalfEven

/-! ### The binary logarithm -/

/-- The logarithm of a number of at most `2 ^ k` digits, by halving the digits. -/
def log2Below : ℕ → ℕ → ℕ
  | 0, _ => 0
  | k + 1, n =>
    bif Nat.ble (2 ^ 2 ^ k) n then 2 ^ k + log2Below k (n / 2 ^ 2 ^ k) else log2Below k n

theorem log2_div_two_pow {n j : ℕ} (h : 2 ^ j ≤ n) : j + (n / 2 ^ j).log2 = n.log2 := by
  have hpos : 0 < 2 ^ j := Nat.two_pow_pos j
  have hne : n / 2 ^ j ≠ 0 := (Nat.div_pos h hpos).ne'
  have hlow := Nat.log2_self_le hne
  have hhigh := Nat.lt_log2_self (n := n / 2 ^ j)
  rw [Nat.le_div_iff_mul_le hpos, ← pow_add] at hlow
  rw [Nat.div_lt_iff_lt_mul hpos, ← pow_add] at hhigh
  symm
  rw [Nat.log2_eq_iff (by omega), add_comm j]
  refine ⟨hlow, ?_⟩
  convert hhigh using 2
  omega

theorem log2Below_eq (k : ℕ) : ∀ n, n < 2 ^ 2 ^ k → log2Below k n = n.log2 := by
  induction k with
  | zero =>
    intro n hn
    have hcases : n = 0 ∨ n = 1 := by
      rw [pow_zero, pow_one] at hn
      omega
    rcases hcases with rfl | rfl <;> rfl
  | succ k ih =>
    intro n hn
    rw [log2Below]
    rcases lt_or_ge n (2 ^ 2 ^ k) with hlt | hge
    · rw [Mathlib.Meta.NormNum.ble_eq_false.mpr hlt, cond_false, ih n hlt]
    · have hupper : n / 2 ^ 2 ^ k < 2 ^ 2 ^ k := by
        rw [Nat.div_lt_iff_lt_mul (Nat.two_pow_pos _), ← pow_add, ← two_mul, ← pow_succ']
        exact hn
      rw [Nat.ble_eq_true_of_le hge, cond_true, ih _ hupper, log2_div_two_pow hge]

/-- The binary logarithm. It is found by halving for the numbers of up to 512 digits that occur in
binary32 arithmetic, which is much faster than counting the digits one by one. -/
@[irreducible] def log2 (n : ℕ) : ℕ := bif Nat.ble (2 ^ 2 ^ 9) n then n.log2 else log2Below 9 n

theorem cond_log2Below (k n : ℕ) :
    (bif Nat.ble (2 ^ 2 ^ k) n then n.log2 else log2Below k n) = n.log2 := by
  cases h : Nat.ble (2 ^ 2 ^ k) n with
  | true => rfl
  | false => exact log2Below_eq k n (Mathlib.Meta.NormNum.ble_eq_false.mp h)

theorem log2_eq (n : ℕ) : log2 n = n.log2 := by
  unfold log2
  exact cond_log2Below 9 n

/-! ### Twenty-four significant digits -/

/-- The exponent of the grain: the digits of a fraction beyond the twenty-fourth, and none below
the units. -/
def grain (a b : ℕ) : ℕ := log2 (a / b) - 23

theorem grain_eq (a b : ℕ) : grain a b = (a / b).log2 - 23 := by
  rw [grain, log2_eq]

/-- **The multiple of the grain nearest to a fraction.** -/
def nearest (a b : ℕ) : ℕ := halfEven a (b * 2 ^ grain a b) * 2 ^ grain a b

/-- An integer of twenty-four significant digits. -/
def Representable (n : ℕ) : Prop := ∃ m s, m < 2 ^ 24 ∧ n = m * 2 ^ s

section Nearest

variable {a b c : ℕ}

/-- A fraction has twenty-four digits above its grain at most. -/
theorem lt_pow_grain (hb : 0 < b) : a < 2 ^ 24 * (b * 2 ^ grain a b) := by
  have hlog : a / b < 2 ^ ((a / b).log2 + 1) := Nat.lt_log2_self
  have hexp : (a / b).log2 + 1 ≤ 24 + grain a b := by
    rw [grain_eq]
    omega
  have hlt : a / b < 2 ^ 24 * 2 ^ grain a b := by
    rw [← pow_add]
    exact hlog.trans_le (Nat.pow_le_pow_right two_pos hexp)
  rw [Nat.div_lt_iff_lt_mul hb] at hlt
  calc a < 2 ^ 24 * 2 ^ grain a b * b := hlt
    _ = 2 ^ 24 * (b * 2 ^ grain a b) := by ring

/-- A fraction with a grain above the units has twenty-four digits. -/
theorem pow_grain_le (hb : 0 < b) (hg : grain a b ≠ 0) : 2 ^ 23 * (b * 2 ^ grain a b) ≤ a := by
  have hne : a / b ≠ 0 := by
    rintro h
    simp [grain_eq, h] at hg
  have hlog : 2 ^ (a / b).log2 ≤ a / b := Nat.log2_self_le hne
  have hexp : 23 + grain a b = (a / b).log2 := by
    rw [grain_eq] at hg ⊢
    omega
  rw [← hexp, pow_add, Nat.le_div_iff_mul_le hb] at hlog
  calc 2 ^ 23 * (b * 2 ^ grain a b) = 2 ^ 23 * 2 ^ grain a b * b := by ring
    _ ≤ a := hlog

theorem grain_mul_left (hc : 0 < c) : grain (c * a) (c * b) = grain a b := by
  rw [grain, grain, Nat.mul_div_mul_left a b hc]

/-- Only the ratio counts. -/
theorem nearest_mul_left (hc : 0 < c) : nearest (c * a) (c * b) = nearest a b := by
  rw [nearest, nearest, grain_mul_left hc, mul_assoc, halfEven_mul_left hc]

theorem grain_mono {a' b' : ℕ} (hb : 0 < b) (hb' : 0 < b') (h : a * b' ≤ a' * b) :
    grain a b ≤ grain a' b' := by
  have hdiv : a / b ≤ a' / b' := by
    rw [Nat.le_div_iff_mul_le hb']
    refine Nat.le_of_mul_le_mul_right ?_ hb
    calc a / b * b' * b = a / b * b * b' := by ring
      _ ≤ a * b' := Nat.mul_le_mul_right b' (Nat.div_mul_le_self a b)
      _ ≤ a' * b := h
  have hlog : (a / b).log2 ≤ (a' / b').log2 := by
    rw [Nat.log2_eq_log_two, Nat.log2_eq_log_two]
    exact Nat.log_mono_right hdiv
  rw [grain_eq, grain_eq]
  omega

/-- The significant digits of the result. -/
theorem halfEven_grain_le (hb : 0 < b) : halfEven a (b * 2 ^ grain a b) ≤ 2 ^ 24 :=
  halfEven_le (Nat.mul_pos hb (Nat.two_pow_pos _)) (lt_pow_grain hb).le

/-- **Rounding is monotone** in the ratio. -/
theorem nearest_mono {a' b' : ℕ} (hb : 0 < b) (hb' : 0 < b') (h : a * b' ≤ a' * b) :
    nearest a b ≤ nearest a' b' := by
  have hpos (g : ℕ) : 0 < 2 ^ g := Nat.two_pow_pos g
  rcases (grain_mono hb hb' h).lt_or_eq with hlt | heq
  · -- a coarser grain begins where the finer one ends
    have hlow : 2 ^ 23 ≤ halfEven a' (b' * 2 ^ grain a' b') :=
      le_halfEven (Nat.mul_pos hb' (hpos _)) (pow_grain_le hb' (by omega))
    calc nearest a b ≤ 2 ^ 24 * 2 ^ grain a b :=
          Nat.mul_le_mul_right _ (halfEven_grain_le hb)
      _ = 2 ^ 23 * 2 ^ (grain a b + 1) := by ring
      _ ≤ 2 ^ 23 * 2 ^ grain a' b' :=
          Nat.mul_le_mul_left _ (Nat.pow_le_pow_right two_pos hlt)
      _ ≤ nearest a' b' := Nat.mul_le_mul_right _ hlow
  · unfold nearest
    rw [heq]
    refine Nat.mul_le_mul_right _ (halfEven_mono ?_ ?_ ?_)
    · exact Nat.mul_pos hb (hpos _)
    · exact Nat.mul_pos hb' (hpos _)
    · calc a * (b' * 2 ^ grain a' b') = a * b' * 2 ^ grain a' b' := by ring
        _ ≤ a' * b * 2 ^ grain a' b' := Nat.mul_le_mul_right _ h
        _ = a' * (b * 2 ^ grain a' b') := by ring

/-- A half of the grain is a half, or a twenty-fourth digit. -/
theorem grain_le_max (hb : 0 < b) : 2 ^ 24 * (b * 2 ^ grain a b) ≤ 2 * max (2 ^ 23 * b) a := by
  by_cases hg : grain a b = 0
  · rw [hg]
    have := le_max_left (2 ^ 23 * b) a
    omega
  · have := pow_grain_le hb hg
    have := le_max_right (2 ^ 23 * b) a
    omega

/-- The result exceeds the fraction by a half, or a twenty-fourth digit, at most. -/
theorem nearest_mul_le (hb : 0 < b) :
    2 ^ 24 * (nearest a b * b) ≤ 2 ^ 24 * a + max (2 ^ 23 * b) a := by
  have herr := halfEven_mul_le a (b * 2 ^ grain a b)
  have hgrain := grain_le_max (a := a) hb
  have hassoc : halfEven a (b * 2 ^ grain a b) * (b * 2 ^ grain a b) = nearest a b * b := by
    rw [nearest]
    ring
  rw [hassoc] at herr
  omega

/-- The result falls short of the fraction by a half, or a twenty-fourth digit, at most. -/
theorem le_nearest_mul (hb : 0 < b) :
    2 ^ 24 * a ≤ 2 ^ 24 * (nearest a b * b) + max (2 ^ 23 * b) a := by
  have herr := le_halfEven_mul (a := a) (b := b * 2 ^ grain a b)
    (Nat.mul_pos hb (Nat.two_pow_pos _))
  have hgrain := grain_le_max (a := a) hb
  have hassoc : halfEven a (b * 2 ^ grain a b) * (b * 2 ^ grain a b) = nearest a b * b := by
    rw [nearest]
    ring
  rw [hassoc] at herr
  omega

/-- **What is representable is not rounded.** -/
theorem nearest_of_representable {n : ℕ} (hn : Representable n) (hb : 0 < b) :
    nearest (n * b) b = n := by
  obtain ⟨m, s, hm, rfl⟩ := hn
  have hgrain : grain (m * 2 ^ s * b) b ≤ s := by
    rw [grain_eq, Nat.mul_div_cancel _ hb]
    by_cases hzero : m = 0
    · simp [hzero]
    · have hlog : (m * 2 ^ s).log2 < 24 + s := by
        rw [Nat.log2_lt (by positivity), pow_add]
        exact Nat.mul_lt_mul_of_pos_right hm (Nat.two_pow_pos s)
      omega
  obtain ⟨k, hk⟩ := Nat.exists_eq_add_of_le hgrain
  rw [nearest]
  generalize hg : grain (m * 2 ^ s * b) b = g at hk
  have hwhole : m * 2 ^ s * b = m * 2 ^ k * (b * 2 ^ g) := by
    rw [hk, pow_add]
    ring
  rw [hwhole, halfEven_mul_right (Nat.mul_pos hb (Nat.two_pow_pos g)), hk, pow_add]
  ring

/-- Results of rounding are representable. -/
theorem representable_nearest (hb : 0 < b) : Representable (nearest a b) := by
  rcases (halfEven_grain_le (a := a) hb).lt_or_eq with hlt | heq
  · exact ⟨_, _, hlt, rfl⟩
  · refine ⟨2 ^ 23, grain a b + 1, by norm_num, ?_⟩
    rw [nearest, heq]
    ring

end Nearest

end Colorimetry.Binary32
