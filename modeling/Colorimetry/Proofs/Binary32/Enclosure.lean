import Mathlib
import Colorimetry.Proofs.Binary32.Error
import Colorimetry.Proofs.Linear.Related

/-!
# Enclosures

What a formula computes in binary32 from a parameter `t` is, up to rounding, a polynomial in `t`,
and where the formula is homogeneous it is a single power. A `Ball` encloses a computed value by a
multiple of a power of the parameter and a radius in multiples of the same power, so that one ball
holds for a whole `Window` of parameters at once. It says nothing of a value that is not finite;
whether the value is finite for every parameter of the window is a flag of its own.

`Enclosure w` is a scalar type, with operations that follow the exact ones and widen the radius by
the rounding error (`Window.widen`), so a formula over an arbitrary scalar type can be evaluated over
it, and the evaluation encloses what the same formula computes in binary32 (`respects_holds`): this
is interval arithmetic by evaluation of one definition over another scalar type. Factors of one and
minus one, factors of zero and terms of zero are exact and are treated as such, because matrices are
full of them.
-/

namespace Colorimetry.Binary32

/-! ### Windows -/

/-- A range of positive parameters. -/
structure Window where
  /-- The least parameter. -/
  low : ℚ
  /-- The greatest parameter. -/
  high : ℚ
  pos : 0 < low

namespace Window

variable (w : Window) {t : ℚ}

/-- The parameters of a window. -/
instance : Membership ℚ Window := ⟨fun w t => w.low ≤ t ∧ t ≤ w.high⟩

/-- A power of the parameter is this at least. -/
def powerLow (n : ℤ) : ℚ := min (w.low ^ n) (w.high ^ n)

/-- A power of the parameter is this at most. -/
def powerHigh (n : ℤ) : ℚ := max (w.low ^ n) (w.high ^ n)

variable {w}

theorem pos_of_mem (ht : t ∈ w) : 0 < t := w.pos.trans_le ht.1

theorem powerLow_pos (ht : t ∈ w) (n : ℤ) : 0 < w.powerLow n :=
  lt_min (zpow_pos w.pos n) (zpow_pos ((pos_of_mem ht).trans_le ht.2) n)

omit w t in
theorem zpow_le_zpow_of_nonpos {a b : ℚ} {n : ℤ} (hn : n ≤ 0) (ha : 0 < a) (hab : a ≤ b) :
    b ^ n ≤ a ^ n := by
  have hpow : a ^ (-n) ≤ b ^ (-n) := zpow_le_zpow_left₀ (by omega) ha.le hab
  rw [zpow_neg, zpow_neg] at hpow
  exact (inv_le_inv₀ (zpow_pos ha n) (zpow_pos (ha.trans_le hab) n)).mp hpow

/-- Powers of the parameter are monotone or antitone. -/
theorem zpow_mem (ht : t ∈ w) (n : ℤ) : w.powerLow n ≤ t ^ n ∧ t ^ n ≤ w.powerHigh n := by
  have hpos := pos_of_mem ht
  rcases le_total 0 n with hn | hn
  · have hlow : w.low ^ n ≤ t ^ n := zpow_le_zpow_left₀ hn w.pos.le ht.1
    have hhigh : t ^ n ≤ w.high ^ n := zpow_le_zpow_left₀ hn hpos.le ht.2
    exact ⟨(min_le_left _ _).trans hlow, hhigh.trans (le_max_right _ _)⟩
  · have hlow : t ^ n ≤ w.low ^ n := zpow_le_zpow_of_nonpos hn w.pos ht.1
    have hhigh : w.high ^ n ≤ t ^ n := zpow_le_zpow_of_nonpos hn hpos ht.2
    exact ⟨(min_le_right _ _).trans hhigh, hlow.trans (le_max_left _ _)⟩

end Window

/-! ### Balls -/

/-- A multiple of a power of the parameter, and how far a value is from it at most. -/
structure Ball where
  /-- The exponent of the parameter. -/
  degree : ℤ
  /-- The coefficient of the power. -/
  center : ℚ
  /-- The greatest distance, as another coefficient. -/
  radius : ℚ
  /-- Whether the value is certainly finite. -/
  finite : Bool

namespace Ball

/-- The value of a float is in the ball, if it has one. -/
structure Holds (t : ℚ) (x : Float32) (b : Ball) : Prop where
  near {v : ℚ} : value x = some v → |v - b.center * t ^ b.degree| ≤ b.radius * t ^ b.degree
  finite : b.finite = true → ∃ v, value x = some v

/-- The greatest coefficient in the ball. -/
def magnitude (b : Ball) : ℚ := |b.center| + b.radius

/-- Only zero is in the ball. -/
def isZero (b : Ball) : Bool := decide (b.center = 0 ∧ b.radius = 0)

/-- Only one, or only minus one, is in the ball. -/
def isSign (b : Ball) : Bool := decide ((b.degree = 0 ∧ b.radius = 0) ∧ |b.center| = 1)

def constant (q : ℚ) : Ball := ⟨0, q, 0, true⟩

def neg (b : Ball) : Ball := { b with center := -b.center }

/-- The ball after a rounding that moves a value by one part in `2 ^ 24` and by a little more. -/
def widen (w : Window) (more : ℚ) (b : Ball) : Ball where
  degree := b.degree
  center := b.center
  radius := b.radius + b.magnitude / 2 ^ 24 + more / w.powerLow b.degree
  finite := b.finite && b.magnitude * w.powerHigh b.degree ≤ greatest

/-- The exact sums of values in two balls of one degree. -/
def sum (b c : Ball) : Ball :=
  ⟨b.degree, b.center + c.center, b.radius + c.radius, b.finite && c.finite⟩

/-- The exact products of values in two balls. -/
def product (b c : Ball) : Ball where
  degree := b.degree + c.degree
  center := b.center * c.center
  radius := |b.center| * c.radius + |c.center| * b.radius + b.radius * c.radius
  finite := b.finite && c.finite

/-- The exact reciprocals of values in a ball that does not reach zero. -/
def inverse (b : Ball) : Ball where
  degree := -b.degree
  center := 1 / b.center
  radius := b.radius / (|b.center| * (|b.center| - b.radius))
  finite := false

/-- The ball of a rounded sum; none for terms of different degrees. -/
def add (w : Window) (b c : Ball) : Option Ball :=
  if c.isZero then some { b with finite := b.finite && c.finite }
  else if b.isZero then some { c with finite := b.finite && c.finite }
  else if b.degree = c.degree then some (widen w 0 (b.sum c))
  else none

/-- The ball of a rounded product. -/
def mul (w : Window) (b c : Ball) : Ball :=
  if b.isZero || c.isZero then ⟨0, 0, 0, b.finite && c.finite⟩
  else if b.isSign then
    { c with center := b.center * c.center, finite := b.finite && c.finite }
  else if c.isSign then
    { b with center := c.center * b.center, finite := b.finite && c.finite }
  else widen w (1 / 2 ^ 150) (b.product c)

/-! ### Soundness of the operations on balls -/

section Soundness

variable {w : Window} {t : ℚ} {x y : Float32} {b c : Ball} {more : ℚ}

/-- A value in a ball is not greater than the magnitude of the ball allows. -/
theorem abs_le_magnitude (ht : t ∈ w) {e : ℚ} {n : ℤ} {p r : ℚ}
    (he : |e - p * t ^ n| ≤ r * t ^ n) : |e| ≤ (|p| + r) * t ^ n := by
  have hpow : 0 < t ^ n := zpow_pos (Window.pos_of_mem ht) n
  calc |e| = |(e - p * t ^ n) + p * t ^ n| := by rw [sub_add_cancel]
    _ ≤ |e - p * t ^ n| + |p * t ^ n| := abs_add_le _ _
    _ ≤ r * t ^ n + |p| * t ^ n := by
        rw [abs_mul, abs_of_pos hpow]
        exact add_le_add_left he _
    _ = (|p| + r) * t ^ n := by ring

/-- **Rounding an exact value that is in a ball** gives a value in the widened ball. -/
theorem near_widen (ht : t ∈ w) (hmore : 0 ≤ more) {e r : ℚ}
    (he : |e - b.center * t ^ b.degree| ≤ b.radius * t ^ b.degree)
    (hr : |r - e| ≤ |e| / 2 ^ 24 + more) :
    |r - (widen w more b).center * t ^ (widen w more b).degree| ≤
      (widen w more b).radius * t ^ (widen w more b).degree := by
  change |r - b.center * t ^ b.degree| ≤
    (b.radius + b.magnitude / 2 ^ 24 + more / w.powerLow b.degree) * t ^ b.degree
  have habs : |e| ≤ b.magnitude * t ^ b.degree := abs_le_magnitude ht he
  have htiny : more ≤ more / w.powerLow b.degree * t ^ b.degree := by
    have hlow := w.powerLow_pos ht b.degree
    rw [div_mul_eq_mul_div, le_div_iff₀ hlow]
    exact mul_le_mul_of_nonneg_left (w.zpow_mem ht b.degree).1 hmore
  calc |r - b.center * t ^ b.degree|
      ≤ |r - e| + |e - b.center * t ^ b.degree| := abs_sub_le _ _ _
    _ ≤ (b.magnitude * t ^ b.degree / 2 ^ 24 + more / w.powerLow b.degree * t ^ b.degree) +
          b.radius * t ^ b.degree := by
        refine add_le_add (hr.trans ?_) he
        gcongr
    _ = _ := by ring

/-- The same bound for the whole window. -/
theorem abs_le_powerHigh (ht : t ∈ w) {e : ℚ}
    (he : |e - b.center * t ^ b.degree| ≤ b.radius * t ^ b.degree) :
    |e| ≤ b.magnitude * w.powerHigh b.degree := by
  have habs : |e| ≤ b.magnitude * t ^ b.degree := abs_le_magnitude ht he
  have hmag : 0 ≤ b.magnitude := by
    have hpow : 0 < t ^ b.degree := zpow_pos (Window.pos_of_mem ht) _
    exact nonneg_of_mul_nonneg_left ((abs_nonneg e).trans habs) hpow
  exact habs.trans (mul_le_mul_of_nonneg_left (w.zpow_mem ht b.degree).2 hmag)

/-- What the flag of a widened ball says of the exact value. -/
theorem le_greatest_of_widen (ht : t ∈ w) {e : ℚ}
    (he : |e - b.center * t ^ b.degree| ≤ b.radius * t ^ b.degree)
    (hfin : (widen w more b).finite = true) : |e| ≤ greatest :=
  (abs_le_powerHigh ht he).trans (of_decide_eq_true (Bool.and_eq_true_iff.mp hfin).2)

theorem isZero_iff : b.isZero = true ↔ b.center = 0 ∧ b.radius = 0 := by
  simp [isZero]

theorem isSign_iff : b.isSign = true ↔ (b.degree = 0 ∧ b.radius = 0) ∧ |b.center| = 1 := by
  simp [isSign]

theorem Holds.eq_zero (h : b.Holds t x) (hb : b.isZero = true) {v : ℚ} (hv : value x = some v) :
    v = 0 := by
  obtain ⟨hc, hr⟩ := isZero_iff.mp hb
  have hnear := h.near hv
  rw [hc, hr, zero_mul, sub_zero] at hnear
  exact abs_nonpos_iff.mp hnear

theorem Holds.eq_sign (h : b.Holds t x) (hb : b.isSign = true) {v : ℚ} (hv : value x = some v) :
    v = b.center ∧ |v| = 1 := by
  obtain ⟨⟨hn, hr⟩, hc⟩ := isSign_iff.mp hb
  have hnear := h.near hv
  rw [hn, hr, zero_mul, zpow_zero, mul_one] at hnear
  have heq : v = b.center := sub_eq_zero.mp (abs_nonpos_iff.mp hnear)
  exact ⟨heq, heq ▸ hc⟩

theorem holds_constant {q : ℚ} (hq : value x = some q) : (constant q).Holds t x where
  near {v} hv := by
    obtain rfl : q = v := Option.some.inj (hq.symm.trans hv)
    simp [constant]
  finite _ := ⟨q, hq⟩

theorem Holds.neg (h : b.Holds t x) : b.neg.Holds t (-x) where
  near {v} hv := by
    rw [value_neg, Option.map_eq_some_iff] at hv
    obtain ⟨u, hu, rfl⟩ := hv
    have hnear := h.near hu
    change |-u - -b.center * t ^ b.degree| ≤ b.radius * t ^ b.degree
    rw [← abs_neg]
    convert hnear using 2
    ring
  finite hb := by
    obtain ⟨v, hv⟩ := h.finite hb
    exact ⟨-v, by rw [value_neg, hv]; rfl⟩

theorem near_sum (hx : b.Holds t x) (hy : c.Holds t y) (hdeg : b.degree = c.degree) {p q : ℚ}
    (hp : value x = some p) (hq : value y = some q) :
    |p + q - (b.sum c).center * t ^ (b.sum c).degree| ≤ (b.sum c).radius * t ^ (b.sum c).degree := by
  change |p + q - (b.center + c.center) * t ^ b.degree| ≤ (b.radius + c.radius) * t ^ b.degree
  have hqn := hy.near hq
  rw [← hdeg] at hqn
  calc |p + q - (b.center + c.center) * t ^ b.degree|
      = |(p - b.center * t ^ b.degree) + (q - c.center * t ^ b.degree)| := by ring_nf
    _ ≤ |p - b.center * t ^ b.degree| + |q - c.center * t ^ b.degree| := abs_add_le _ _
    _ ≤ b.radius * t ^ b.degree + c.radius * t ^ b.degree := add_le_add (hx.near hp) hqn
    _ = (b.radius + c.radius) * t ^ b.degree := by ring

/-- Both operands have values if the flag of the result says so. -/
theorem Holds.exists_values (hx : b.Holds t x) (hy : c.Holds t y)
    (h : (b.finite && c.finite) = true) : ∃ p q, value x = some p ∧ value y = some q := by
  obtain ⟨hb, hc⟩ := Bool.and_eq_true_iff.mp h
  obtain ⟨p, hp⟩ := hx.finite hb
  obtain ⟨q, hq⟩ := hy.finite hc
  exact ⟨p, q, hp, hq⟩

/-- Adding zero on the right. -/
theorem Holds.add_of_isZero (hx : b.Holds t x) (hy : c.Holds t y) (hc : c.isZero = true) :
    Holds t (x + y) { b with finite := b.finite && c.finite } := by
  have hzero {q : ℚ} (hq : value y = some q) : value (x + y) = value x :=
    value_add_zero (hq.trans (congrArg some (hy.eq_zero hc hq)))
  refine ⟨fun {v} hv => ?_, fun hfin => ?_⟩
  · obtain ⟨-, q, -, hq, -⟩ := value_add hv
    exact hx.near (hzero hq ▸ hv)
  · obtain ⟨p, q, hp, hq⟩ := hx.exists_values hy hfin
    exact ⟨p, (hzero hq).trans hp⟩

/-- What holds of a float holds of any float of the same value. -/
theorem Holds.congr (hx : b.Holds t x) (h : value y = value x) : b.Holds t y where
  near hv := hx.near (h ▸ hv)
  finite hb := h ▸ hx.finite hb

theorem Holds.add (ht : t ∈ w) (hx : b.Holds t x) (hy : c.Holds t y) {d : Ball}
    (hd : Ball.add w b c = some d) : d.Holds t (x + y) := by
  unfold Ball.add at hd
  split_ifs at hd with hc hb hdeg
  · cases hd
    exact hx.add_of_isZero hy hc
  · cases hd
    rw [Bool.and_comm]
    exact (hy.add_of_isZero hx hb).congr (value_add_comm x y)
  · cases hd
    refine ⟨fun {v} hv => ?_, fun hfin => ?_⟩
    · obtain ⟨p, q, hp, hq, herr⟩ := value_add hv
      exact near_widen ht le_rfl (near_sum hx hy hdeg hp hq) (by rwa [add_zero])
    · obtain ⟨p, q, hp, hq⟩ := hx.exists_values hy (Bool.and_eq_true_iff.mp hfin).1
      exact exists_value_add hp hq (le_greatest_of_widen ht (near_sum hx hy hdeg hp hq) hfin)

theorem near_product (ht : t ∈ w) (hx : b.Holds t x) (hy : c.Holds t y) {p q : ℚ}
    (hp : value x = some p) (hq : value y = some q) :
    |p * q - (b.product c).center * t ^ (b.product c).degree| ≤
      (b.product c).radius * t ^ (b.product c).degree := by
  have hpos := Window.pos_of_mem ht
  have hpn := hx.near hp
  have hqn := hy.near hq
  have hu : 0 < t ^ b.degree := zpow_pos hpos _
  have hv : 0 < t ^ c.degree := zpow_pos hpos _
  change |p * q - b.center * c.center * t ^ (b.degree + c.degree)| ≤
    (|b.center| * c.radius + |c.center| * b.radius + b.radius * c.radius) *
      t ^ (b.degree + c.degree)
  rw [zpow_add₀ hpos.ne']
  -- of the two powers only the sign matters from here
  generalize t ^ b.degree = u at hpn hu ⊢
  generalize t ^ c.degree = v at hqn hv ⊢
  calc |p * q - b.center * c.center * (u * v)|
      = |b.center * u * (q - c.center * v) + c.center * v * (p - b.center * u) +
          (p - b.center * u) * (q - c.center * v)| := by ring_nf
    _ ≤ |b.center * u * (q - c.center * v)| + |c.center * v * (p - b.center * u)| +
          |(p - b.center * u) * (q - c.center * v)| := abs_add_three _ _ _
    _ = |b.center| * u * |q - c.center * v| + |c.center| * v * |p - b.center * u| +
          |p - b.center * u| * |q - c.center * v| := by
        simp only [abs_mul, abs_of_pos hu, abs_of_pos hv]
    _ ≤ |b.center| * u * (c.radius * v) + |c.center| * v * (b.radius * u) +
          b.radius * u * (c.radius * v) := by
        gcongr
        exact (abs_nonneg _).trans hpn
    _ = _ := by ring

/-- Multiplying by zero on the left. -/
theorem Holds.mul_of_isZero (hx : b.Holds t x) (hy : c.Holds t y) (hb : b.isZero = true) :
    Holds t (x * y) ⟨0, 0, 0, b.finite && c.finite⟩ := by
  have hzero {p : ℚ} (hp : value x = some p) : value (x * y) = (value y).map fun _ => 0 :=
    value_zero_mul (hp.trans (congrArg some (hx.eq_zero hb hp)))
  refine ⟨fun {v} hv => ?_, fun hfin => ?_⟩
  · obtain ⟨p, q, hp, hq, -⟩ := value_mul hv
    rw [hzero hp, hq] at hv
    cases hv
    simp
  · obtain ⟨p, q, hp, hq⟩ := hx.exists_values hy hfin
    exact ⟨0, by rw [hzero hp, hq]; rfl⟩

/-- Multiplying by one or minus one on the left. -/
theorem Holds.mul_of_isSign (hx : b.Holds t x) (hy : c.Holds t y) (hb : b.isSign = true) :
    Holds t (x * y) { c with center := b.center * c.center, finite := b.finite && c.finite } := by
  refine ⟨fun {v} hv => ?_, fun hfin => ?_⟩
  · obtain ⟨p, q, hp, hq, -⟩ := value_mul hv
    obtain ⟨rfl, hone⟩ := hx.eq_sign hb hp
    rw [value_sign_mul hp hone, hq] at hv
    cases hv
    change |b.center * q - b.center * c.center * t ^ c.degree| ≤ c.radius * t ^ c.degree
    rw [mul_assoc, ← mul_sub, abs_mul, hone, one_mul]
    exact hy.near hq
  · obtain ⟨p, q, hp, hq⟩ := hx.exists_values hy hfin
    exact ⟨p * q, by rw [value_sign_mul hp (hx.eq_sign hb hp).2, hq]; rfl⟩

theorem Holds.mul (ht : t ∈ w) (hx : b.Holds t x) (hy : c.Holds t y) :
    (Ball.mul w b c).Holds t (x * y) := by
  unfold Ball.mul
  split_ifs with hzero hb hc
  · -- exact cases first, and the operands may be in either order
    rcases Bool.or_eq_true_iff.mp hzero with hb | hc
    · exact hx.mul_of_isZero hy hb
    · rw [Bool.and_comm]
      exact (hy.mul_of_isZero hx hc).congr (value_mul_comm x y)
  · exact hx.mul_of_isSign hy hb
  · rw [Bool.and_comm]
    exact (hy.mul_of_isSign hx hc).congr (value_mul_comm x y)
  · refine ⟨fun {v} hv => ?_, fun hfin => ?_⟩
    · obtain ⟨p, q, hp, hq, herr⟩ := value_mul hv
      exact near_widen ht (by positivity) (near_product ht hx hy hp hq) herr
    · obtain ⟨p, q, hp, hq⟩ := hx.exists_values hy (Bool.and_eq_true_iff.mp hfin).1
      exact exists_value_mul hp hq (le_greatest_of_widen ht (near_product ht hx hy hp hq) hfin)

/-- A value in a ball is not nearer to zero than the ball is. -/
theorem Holds.le_abs (ht : t ∈ w) (hx : b.Holds t x) {v : ℚ} (hv : value x = some v) :
    (|b.center| - b.radius) * t ^ b.degree ≤ |v| := by
  have hpow : 0 < t ^ b.degree := zpow_pos (Window.pos_of_mem ht) _
  have hnear := hx.near hv
  have habs : |b.center * t ^ b.degree| ≤ |v| + |v - b.center * t ^ b.degree| := by
    rw [abs_sub_comm]
    exact (sub_le_iff_le_add').mp (abs_sub_abs_le_abs_sub _ _)
  rw [abs_mul, abs_of_pos hpow] at habs
  linarith

/-- The same bound for the whole window. -/
theorem Holds.powerLow_le_abs (ht : t ∈ w) (hx : b.Holds t x) {v : ℚ} (hv : value x = some v) :
    (|b.center| - b.radius) * w.powerLow b.degree ≤ |v| := by
  rcases le_total (|b.center| - b.radius) 0 with hneg | hpos
  · exact (mul_nonpos_of_nonpos_of_nonneg hneg (w.powerLow_pos ht _).le).trans (abs_nonneg v)
  · exact (mul_le_mul_of_nonneg_left (w.zpow_mem ht _).1 hpos).trans (hx.le_abs ht hv)

theorem near_inverse (ht : t ∈ w) (hx : b.Holds t x) (hb : b.radius < |b.center|) {q : ℚ}
    (hq : value x = some q) :
    |1 / q - b.inverse.center * t ^ b.inverse.degree| ≤ b.inverse.radius * t ^ b.inverse.degree := by
  have hu : 0 < t ^ b.degree := zpow_pos (Window.pos_of_mem ht) _
  have hgap : 0 < |b.center| - b.radius := sub_pos.mpr hb
  have hle := hx.le_abs ht hq
  have hnear := hx.near hq
  change |1 / q - 1 / b.center * t ^ (-b.degree)| ≤
    b.radius / (|b.center| * (|b.center| - b.radius)) * t ^ (-b.degree)
  rw [zpow_neg]
  generalize t ^ b.degree = u at hu hle hnear ⊢
  have hqpos : 0 < |q| := (mul_pos hgap hu).trans_le hle
  have hradius : 0 ≤ b.radius := nonneg_of_mul_nonneg_left ((abs_nonneg _).trans hnear) hu
  have hcpos : 0 < |b.center| := hradius.trans_lt hb
  have hq0 : q ≠ 0 := abs_pos.mp hqpos
  have hc0 : b.center ≠ 0 := abs_pos.mp hcpos
  calc |1 / q - 1 / b.center * u⁻¹|
      = |(b.center * u - q) / (q * (b.center * u))| := by
        congr 1
        field_simp
    _ = |q - b.center * u| / (|q| * (|b.center| * u)) := by
        rw [abs_div, abs_mul, abs_mul, abs_of_pos hu, abs_sub_comm]
    _ ≤ b.radius * u / ((|b.center| - b.radius) * u * (|b.center| * u)) := by
        gcongr
    _ = b.radius / (|b.center| * (|b.center| - b.radius)) * u⁻¹ := by
        field_simp

end Soundness

/-- The ball of a rounded reciprocal that is finite; none if zero may be in the ball. -/
def reciprocal (w : Window) (b : Ball) : Option Ball :=
  if b.radius < |b.center| then
    some { widen w (1 / 2 ^ 150) b.inverse with finite := true }
  else none

theorem Holds.reciprocal {w : Window} {t : ℚ} {x : Float32} {b c : Ball} (ht : t ∈ w)
    (hx : b.Holds t x) {q r : ℚ} (hq : value x = some q) (hr : value (1 / x) = some r)
    (hc : Ball.reciprocal w b = some c) : c.Holds t (1 / x) := by
  unfold Ball.reciprocal at hc
  split_ifs at hc with hb
  cases hc
  refine ⟨fun {v} hv => ?_, fun _ => ⟨r, hr⟩⟩
  exact near_widen ht (by positivity) (near_inverse ht hx hb hq) (value_reciprocal hq hv).2

end Ball

/-! ### Enclosures as scalars -/

/-- What is known of a value for every parameter of a window: a ball that it is in, or nothing. -/
def Enclosure (_ : Window) : Type := Option Ball

namespace Enclosure

variable {w : Window}

/-- There are no quotients, no literals and no comparisons. -/
instance : Arithmetic (Enclosure w) where
  zero := some (.constant 0)
  one := some (.constant 1)
  add e f := e.bind fun b => f.bind fun c => b.add w c
  sub e f := e.bind fun b => f.bind fun c => b.add w c.neg
  mul e f := e.bind fun b => f.map fun c => b.mul w c
  div _ _ := none
  neg e := e.map Ball.neg
  ofScientific _ _ _ := none
  beq _ _ := false
  isFinite e := e.any (·.finite)

/-- What is known is true of a float. -/
def Holds (t : ℚ) (x : Float32) (e : Enclosure w) : Prop := ∀ b, e = some b → b.Holds t x

/-- A value in units that does not depend on the parameter. -/
def ofUnits (u : Units) : Enclosure w := Option.map (fun a : ℤ => .constant (a / 2 ^ 149)) u

variable {t : ℚ}

theorem holds_ofUnits (x : Float32) : Holds t x (ofUnits (units x) : Enclosure w) := by
  rintro b hb
  obtain ⟨a, ha, rfl⟩ := Option.map_eq_some_iff.mp hb
  exact Ball.holds_constant (value_eq_some_iff.mpr ⟨a, ha, rfl⟩)

/-- **Evaluation over enclosures encloses evaluation in binary32.** -/
theorem respects_holds (ht : t ∈ w) :
    Arithmetic.Respects (Holds t : Float32 → Enclosure w → Prop) where
  zero := by
    rintro b hb
    cases hb
    exact Ball.holds_constant value_zero
  one := by
    rintro b hb
    cases hb
    exact Ball.holds_constant value_one
  neg {x e} hx := by
    rintro b hb
    obtain ⟨c, hc, rfl⟩ := Option.map_eq_some_iff.mp hb
    exact (hx c hc).neg
  add {x y e f} hx hy := by
    rintro b hb
    obtain ⟨c, hc, hb⟩ := Option.bind_eq_some_iff.mp hb
    obtain ⟨d, hd, hb⟩ := Option.bind_eq_some_iff.mp hb
    exact (hx c hc).add ht (hy d hd) hb
  sub {x y e f} hx hy := by
    rintro b hb
    obtain ⟨c, hc, hb⟩ := Option.bind_eq_some_iff.mp hb
    obtain ⟨d, hd, hb⟩ := Option.bind_eq_some_iff.mp hb
    exact ((hx c hc).add ht (hy d hd).neg hb).congr (value_sub x y)
  mul {x y e f} hx hy := by
    rintro b hb
    obtain ⟨c, hc, hb⟩ := Option.bind_eq_some_iff.mp hb
    obtain ⟨d, hd, rfl⟩ := Option.map_eq_some_iff.mp hb
    exact (hx c hc).mul ht (hy d hd)

end Enclosure

end Colorimetry.Binary32
