import Mathlib
import Colorimetry.Proofs.Glsl.Lanes
import Colorimetry.Proofs.Glsl.Rules
import Colorimetry.Proofs.Transfer.HybridLogGamma
import Colorimetry.Proofs.Transfer.Joints
import Colorimetry.Proofs.Transfer.PerceptualQuantizer

/-!
# The shader functions compute the curves

A renderer that decodes on the graphics processor and one that decodes with `Transfer.Curve.apply`
must show the same picture. Over the real numbers they do: at every vector of the unit cube each
shader function has a value, so none of its intermediate values is undefined, and the value holds
on each component that of the curve (`Transfer.Curve.run?_shaderFunction`).

The functions differ from the curves in four ways, and each is one step of a proof.

| shader function | curve | why they agree |
|---|---|---|
| both segments, selected by `mix` and `step` | a conditional | `Evaluates.select` |
| constants as fractions | constants as decimals | `declare?_pqConstants` |
| `c1` as `c3 - c2 + 1` | `c1` as a decimal | `declare?_pqConstants` |
| a logarithm kept above 10⁻⁶ | a logarithm from the joint on | `Hlg.log_argument_pos` |

Since vectors work on each component (`run?_of_lanes`), all proofs are about one lane.
-/

namespace Colorimetry

/-! ### Where the formulas are defined -/

/-- Coefficients at which no formula of either direction leaves its domain. -/
structure Transfer.Record.Regular (c : Record ℝ) : Prop where
  p_pos : 0 < c.p
  a_nonneg : 0 ≤ c.a
  linear_ne : c.linear ≠ 0

namespace Glsl

open Transfer

/-! ### The functions on a lane -/

section Lanes

variable {m : Meaning ℝ} (hm : Knows m) {x : ℝ}

include hm

/-- Decoding with the coefficients of a record. -/
theorem call?_degamma {c : Record ℝ} (hc : c.Regular) (hx : 0 ≤ x) :
    degamma.call? lanes m [x, c.p, c.a, c.knee, c.linear] = some (c.decode x) := by
  have hone : 0 < 1 + c.a := add_pos_of_pos_of_nonneg one_pos hc.a_nonneg
  have hbase : 0 ≤ (x + c.a) / (1 + c.a) := div_nonneg (add_nonneg hx hc.a_nonneg) hone.le
  let ρ : Env ℝ := [("v", x), ("p", c.p), ("a", c.a), ("knee", c.knee), ("linear", c.linear)]
  -- both segments have a value, whichever of them is selected
  have hlin : Evaluates m ρ (ref "v" / ref "linear") (x / c.linear) :=
    .div (.var rfl) (.var rfl) hc.linear_ne
  have hpw : Evaluates m (("lin", x / c.linear) :: ρ)
      (app "pow3" [(ref "v" + ref "a") / (one + ref "a"), ref "p"])
      (((x + c.a) / (1 + c.a)) ^ c.p) :=
    .pow3 hm (.div (.add (.var rfl) (.var rfl)) (.add .one (.var rfl)) hone.ne') (.var rfl) hbase
      hc.p_pos
  exact call?_eq rfl ((declare?_cons _ hlin).trans (declare?_cons _ hpw))
    (.select hm (.var rfl) (.var rfl) (.var rfl) (.var rfl))

/-- Encoding with the coefficients of a record. -/
theorem call?_gamma {c : Record ℝ} (hc : c.Regular) (hx : 0 ≤ x) :
    gamma.call? lanes m [x, c.p, c.a, c.knee, c.linear] = some (c.encode x) := by
  let ρ : Env ℝ := [("l", x), ("p", c.p), ("a", c.a), ("knee", c.knee), ("linear", c.linear)]
  have hlin : Evaluates m ρ (ref "l" * ref "linear") (x * c.linear) :=
    .mul (.var rfl) (.var rfl)
  have hpw : Evaluates m (("lin", x * c.linear) :: ρ)
      ((one + ref "a") * app "pow3" [ref "l", ref "p"] - ref "a")
      ((1 + c.a) * x ^ c.p - c.a) :=
    .sub (.mul (.add .one (.var rfl)) (.pow3 hm (.var rfl) (.var rfl) hx hc.p_pos)) (.var rfl)
  exact call?_eq rfl ((declare?_cons _ hlin).trans (declare?_cons _ hpw))
    (.select hm (.var rfl) (.var rfl) (.var rfl) (.var rfl))

omit hm in
/-- **The constants of the perceptual quantizer**, fractions here and decimals there. -/
theorem declare?_pqConstants (ds : List Declaration) (ρ : Env ℝ) :
    lanes.declare? m (pqConstants ++ ds) ρ = lanes.declare? m ds (("c1", Pq.c1) ::
      ("c3", Pq.c3) :: ("c2", Pq.c2) :: ("m2", Pq.m2) :: ("m1", Pq.m1) :: ρ) := by
  have hden : ((40960 : ℕ) : ℝ) / 10 ^ 1 ≠ 0 := by norm_num
  have hm1 {ρ : Env ℝ} : Evaluates m ρ (num 25 2 * num 26100 1 / num 40960 1) Pq.m1 :=
    .of_eq (.div (.mul (.num _ _) (.num _ _)) (.num _ _) hden) (by norm_num [Pq.m1])
  have hm2 {ρ : Env ℝ} : Evaluates m ρ (num 1280 1 * num 25230 1 / num 40960 1) Pq.m2 :=
    .of_eq (.div (.mul (.num _ _) (.num _ _)) (.num _ _) hden) (by norm_num [Pq.m2])
  have hc2 {ρ : Env ℝ} : Evaluates m ρ (num 320 1 * num 24130 1 / num 40960 1) Pq.c2 :=
    .of_eq (.div (.mul (.num _ _) (.num _ _)) (.num _ _) hden) (by norm_num [Pq.c2])
  have hc3 {ρ : Env ℝ} : Evaluates m ρ (num 320 1 * num 23920 1 / num 40960 1) Pq.c3 :=
    .of_eq (.div (.mul (.num _ _) (.num _ _)) (.num _ _) hden) (by norm_num [Pq.c3])
  have hc1 {ρ : Env ℝ} : Evaluates m (("c3", Pq.c3) :: ("c2", Pq.c2) :: ρ)
      (ref "c3" - ref "c2" + one) Pq.c1 :=
    .of_eq (.add (.sub (.var rfl) (.var rfl)) .one) (by norm_num [Pq.c1, Pq.c2, Pq.c3])
  calc lanes.declare? m (pqConstants ++ ds) ρ
    _ = _ := declare?_cons _ hm1
    _ = _ := declare?_cons _ hm2
    _ = _ := declare?_cons _ hc2
    _ = _ := declare?_cons _ hc3
    _ = _ := declare?_cons _ hc1

/-- Decoding with the perceptual quantizer. -/
theorem call?_pqDecode (hx : 0 ≤ x) (hx' : x ≤ 1) :
    pqDecode.call? lanes m [x] = some (Pq.decode x) := by
  have hexponent : (0 : ℝ) < 1 / Pq.m2 := one_div_pos.mpr Pq.m2_pos
  have hpower : x ^ (1 / Pq.m2 : ℝ) ≤ 1 := Real.rpow_le_one hx hx' hexponent.le
  have hn {ρ : Env ℝ} : Evaluates m (("c1", Pq.c1) :: ("c3", Pq.c3) :: ("c2", Pq.c2) ::
      ("m2", Pq.m2) :: ("m1", Pq.m1) :: ("v", x) :: ρ)
      (app "pow3" [ref "v", one / ref "m2"]) (x ^ (1 / Pq.m2 : ℝ)) :=
    .pow3 hm (.var rfl) (.div .one (.var rfl) Pq.m2_pos.ne') hx hexponent
  refine call?_eq rfl ((declare?_pqConstants _ _).trans (declare?_cons _ hn)) ?_
  rw [Pq.decode_eq]
  exact .pow3 hm
    (.div (.max hm (.sub (.var rfl) (.var rfl)) .zero)
      (.sub (.var rfl) (.mul (.var rfl) (.var rfl))) (Pq.denominator_pos hpower).ne')
    (.div .one (.var rfl) Pq.m1_pos.ne') (Pq.expand_nonneg hpower) (one_div_pos.mpr Pq.m1_pos)

/-- Encoding with the perceptual quantizer. -/
theorem call?_pqEncode (hx : 0 ≤ x) : pqEncode.call? lanes m [x] = some (Pq.encode x) := by
  have hpower : 0 ≤ x ^ (Pq.m1 : ℝ) := Real.rpow_nonneg hx _
  have hdenominator : 0 < 1 + Pq.c3 * x ^ (Pq.m1 : ℝ) :=
    add_pos_of_pos_of_nonneg one_pos (mul_nonneg Pq.c3_pos.le hpower)
  have hn {ρ : Env ℝ} : Evaluates m (("c1", Pq.c1) :: ("c3", Pq.c3) :: ("c2", Pq.c2) ::
      ("m2", Pq.m2) :: ("m1", Pq.m1) :: ("l", x) :: ρ)
      (app "pow3" [ref "l", ref "m1"]) (x ^ (Pq.m1 : ℝ)) :=
    .pow3 hm (.var rfl) (.var rfl) hx Pq.m1_pos
  refine call?_eq rfl ((declare?_pqConstants _ _).trans (declare?_cons _ hn)) ?_
  exact .pow3 hm
    (.div (.add (.var rfl) (.mul (.var rfl) (.var rfl)))
      (.add .one (.mul (.var rfl) (.var rfl))) hdenominator.ne')
    (.var rfl) (Pq.compress_nonneg hpower) Pq.m2_pos

/-- The constants of hybrid log-gamma, of which one is a logarithm. -/
theorem declare?_hlgConstants (ds : List Declaration) (ρ : Env ℝ) :
    lanes.declare? m (hlgConstants ++ ds) ρ = lanes.declare? m ds
      (("c", Hlg.c) :: ("b", Hlg.b) :: ("a", Hlg.a) :: ρ) := by
  have hfour : (0 : ℝ) < ((40 : ℕ) : ℝ) / 10 ^ 1 * Hlg.a := mul_pos (by norm_num) Hlg.a_pos
  have ha {ρ : Env ℝ} : Evaluates m ρ (num 17883277 8) Hlg.a :=
    .of_eq (.num _ _) (by norm_num [Hlg.a])
  have hb {ρ : Env ℝ} : Evaluates m (("a", Hlg.a) :: ρ) (one - num 40 1 * ref "a") Hlg.b :=
    .of_eq (.sub .one (.mul (.num _ _) (.var rfl))) (by norm_num [Hlg.b])
  have hc {ρ : Env ℝ} : Evaluates m (("b", Hlg.b) :: ("a", Hlg.a) :: ρ)
      (num 5 1 - ref "a" * app "log" [num 40 1 * ref "a"]) Hlg.c :=
    .of_eq (.sub (.num _ _) (.mul (.var rfl) (.log hm (.mul (.num _ _) (.var rfl)) hfour)))
      (by norm_num [Hlg.c])
  calc lanes.declare? m (hlgConstants ++ ds) ρ
    _ = _ := declare?_cons _ ha
    _ = _ := declare?_cons _ hb
    _ = _ := declare?_cons _ hc

/-- Encoding with hybrid log-gamma. Where the logarithm applies, keeping its argument positive
changes nothing. -/
theorem call?_hlgEncode (hx : 0 ≤ x) : hlgEncode.call? lanes m [x] = some (Hlg.encode x) := by
  have hroot : 0 ≤ ((30 : ℕ) : ℝ) / 10 ^ 1 * x := mul_nonneg (by norm_num) hx
  let y : ℝ := max (((120 : ℕ) : ℝ) / 10 ^ 1 * x - Hlg.b) (((1 : ℕ) : ℝ) / 10 ^ 6)
  have hy : 0 < y := lt_max_of_lt_right (by norm_num)
  have hlo {ρ : Env ℝ} : Evaluates m (("c", Hlg.c) :: ("b", Hlg.b) :: ("a", Hlg.a) ::
      ("l", x) :: ρ) (app "sqrt" [num 30 1 * ref "l"]) √(3 * x) :=
    .of_eq (.sqrt hm (.mul (.num _ _) (.var rfl)) hroot) (by norm_num)
  have hhi {ρ : Env ℝ} {z : ℝ} : Evaluates m (("lo", z) :: ("c", Hlg.c) :: ("b", Hlg.b) ::
      ("a", Hlg.a) :: ("l", x) :: ρ)
      (ref "a" * app "log" [app "max" [num 120 1 * ref "l" - ref "b", .lit (.scientific 1 6)]] +
        ref "c") (Hlg.a * Real.log y + Hlg.c) :=
    .add (.mul (.var rfl) (.log hm (.max hm (.sub (.mul (.num _ _) (.var rfl)) (.var rfl)) rfl) hy))
      (.var rfl)
  refine (call?_eq rfl ((declare?_hlgConstants hm _ _).trans
    ((declare?_cons _ hlo).trans (declare?_cons _ hhi)))
    (.select hm (.var rfl) (.var rfl) (.div .one (.num _ _) (by norm_num)) (.var rfl))).trans ?_
  have hjoint : 1 / (((120 : ℕ) : ℝ) / 10 ^ 1) = 1 / 12 := by norm_num
  rw [Hlg.encode_eq, hjoint]
  by_cases h : x < 1 / 12
  · rw [if_pos h, if_pos h]
  · -- from the joint on the argument is at least four times the first constant, above the guard
    have hguard : y = 12 * x - Hlg.b := by
      have hargument : 4 * Hlg.a ≤ 12 * x - Hlg.b := by
        rw [← Hlg.one_sub_b]
        linarith
      have hsmall : ((1 : ℕ) : ℝ) / 10 ^ 6 ≤ 12 * x - Hlg.b := by
        refine le_trans ?_ hargument
        norm_num [Hlg.a]
      have htwelve : ((120 : ℕ) : ℝ) / 10 ^ 1 = 12 := by norm_num
      simp only [y, htwelve]
      exact max_eq_left hsmall
    rw [if_neg h, if_neg h, hguard]

/-- Decoding with hybrid log-gamma. -/
theorem call?_hlgDecode : hlgDecode.call? lanes m [x] = some (Hlg.decode x) := by
  have hthree : ((30 : ℕ) : ℝ) / 10 ^ 1 = 3 := by norm_num
  have htwelve : ((120 : ℕ) : ℝ) / 10 ^ 1 = 12 := by norm_num
  have hlo {ρ : Env ℝ} : Evaluates m (("c", Hlg.c) :: ("b", Hlg.b) :: ("a", Hlg.a) ::
      ("v", x) :: ρ) (ref "v" * ref "v" / num 30 1) (x * x / 3) :=
    .div (.mul (.var rfl) (.var rfl)) (.of_eq (.num _ _) hthree) (by norm_num)
  have hhi {ρ : Env ℝ} {z : ℝ} : Evaluates m (("lo", z) :: ("c", Hlg.c) :: ("b", Hlg.b) ::
      ("a", Hlg.a) :: ("v", x) :: ρ)
      ((app "exp" [(ref "v" - ref "c") / ref "a"] + ref "b") / num 120 1)
      ((Real.exp ((x - Hlg.c) / Hlg.a) + Hlg.b) / 12) :=
    .div (.add (.exp hm (.div (.sub (.var rfl) (.var rfl)) (.var rfl) Hlg.a_pos.ne')) (.var rfl))
      (.of_eq (.num _ _) htwelve) (by norm_num)
  rw [Hlg.decode_eq]
  exact call?_eq rfl ((declare?_hlgConstants hm _ _).trans
    ((declare?_cons _ hlo).trans (declare?_cons _ hhi)))
    (.select hm (.var rfl) (.var rfl) (.of_eq (.num _ _) (by norm_num)) (.var rfl))

end Lanes

/-! ### The functions on vectors -/

/-- A function of one variable on a component is the component of the function on a vector. -/
theorem lane_map (f : ℝ → ℝ) (v : Rgb ℝ) (i : Lane) :
    (Value.vector (v.map f)).lane i = f ((Value.vector v).lane i) := by
  cases i <;> rfl

/-- The components of a vector of the unit cube are between zero and one. -/
theorem lane_mem_Icc {v : Rgb ℝ} (hv : v ∈ unitCube ℝ) (i : Lane) :
    (Value.vector v).lane i ∈ Set.Icc 0 1 := by
  obtain ⟨hr, hg, hb⟩ := hv
  cases i
  exacts [hr, hg, hb]

section Vectors

variable {c : Record ℝ} {v : Rgb ℝ}

theorem run?_degamma (hc : c.Regular) (hv : v ∈ unitCube ℝ) :
    run? library "degamma" [.vector v, .scalar c.p, .scalar c.a, .scalar c.knee, .scalar c.linear] =
      some (.vector (v.map c.decode)) := by
  refine run?_of_lanes rfl fun i => ?_
  rw [lane_map]
  exact call?_degamma (knows_link [] (by decide)) hc (lane_mem_Icc hv i).1

theorem run?_gamma (hc : c.Regular) (hv : v ∈ unitCube ℝ) :
    run? library "gamma" [.vector v, .scalar c.p, .scalar c.a, .scalar c.knee, .scalar c.linear] =
      some (.vector (v.map c.encode)) := by
  refine run?_of_lanes rfl fun i => ?_
  rw [lane_map]
  exact call?_gamma (knows_link [degamma] (by decide)) hc (lane_mem_Icc hv i).1

theorem run?_pqDecode (hv : v ∈ unitCube ℝ) :
    run? library "st2084_eotf" [.vector v] = some (.vector (v.map Pq.decode)) := by
  refine run?_of_lanes rfl fun i => ?_
  rw [lane_map]
  exact call?_pqDecode (knows_link [degamma, gamma] (by decide)) (lane_mem_Icc hv i).1 (lane_mem_Icc hv i).2

theorem run?_pqEncode (hv : v ∈ unitCube ℝ) :
    run? library "st2084_inverse_eotf" [.vector v] = some (.vector (v.map Pq.encode)) := by
  refine run?_of_lanes rfl fun i => ?_
  rw [lane_map]
  exact call?_pqEncode (knows_link [degamma, gamma, pqDecode] (by decide)) (lane_mem_Icc hv i).1

theorem run?_hlgEncode (hv : v ∈ unitCube ℝ) :
    run? library "hlg_oetf" [.vector v] = some (.vector (v.map Hlg.encode)) := by
  refine run?_of_lanes rfl fun i => ?_
  rw [lane_map]
  exact call?_hlgEncode (knows_link [degamma, gamma, pqDecode, pqEncode] (by decide)) (lane_mem_Icc hv i).1

theorem run?_hlgDecode (v : Rgb ℝ) :
    run? library "hlg_eotf" [.vector v] = some (.vector (v.map Hlg.decode)) := by
  refine run?_of_lanes rfl fun i => ?_
  rw [lane_map]
  exact call?_hlgDecode
    (knows_link [degamma, gamma, pqDecode, pqEncode, hlgEncode] (by decide))

end Vectors

end Glsl

/-! ### The function that a curve names -/

namespace Transfer.Curve

open Glsl

/-- The coefficients of a piecewise curve are ones at which no formula leaves its domain. -/
def Regular (c : Curve ℝ) : Prop :=
  match c.kind with
  | .piecewise record => record.Regular
  | .pq | .hlg => True

/-- The coefficients that a kind of curve hands to its shader function. -/
def coefficients (kind : Kind ℝ) : List (Value ℝ) :=
  match kind with
  | .piecewise record =>
    [.scalar record.p, .scalar record.a, .scalar record.knee, .scalar record.linear]
  | .pq | .hlg => []

/-- **The shader function of a curve computes the curve.** -/
theorem run?_shaderFunction {c : Curve ℝ} (hc : c.Regular) {v : Rgb ℝ} (hv : v ∈ unitCube ℝ) :
    run? library c.shaderFunction (.vector v :: coefficients c.kind) =
      some (.vector (c.applyRgb v)) := by
  obtain ⟨direction, kind⟩ := c
  cases kind with
  | piecewise record =>
    cases direction with
    | encode => exact run?_gamma hc hv
    | decode => exact run?_degamma hc hv
  | pq =>
    cases direction with
    | encode => exact run?_pqEncode hv
    | decode => exact run?_pqDecode hv
  | hlg =>
    cases direction with
    | encode => exact run?_hlgEncode hv
    | decode => exact run?_hlgDecode v

/-- The library has the function of every curve. -/
theorem exists_find?_shaderFunction (c : Curve ℝ) :
    ∃ f ∈ library, find? c.shaderFunction = some f ∧ f.name = c.shaderFunction := by
  obtain ⟨direction, kind⟩ := c
  cases kind <;> cases direction
  case piecewise.encode => exact ⟨gamma, by simp [library], rfl, rfl⟩
  case piecewise.decode => exact ⟨degamma, by simp [library], rfl, rfl⟩
  case pq.encode => exact ⟨pqEncode, by simp [library], rfl, rfl⟩
  case pq.decode => exact ⟨pqDecode, by simp [library], rfl, rfl⟩
  case hlg.encode => exact ⟨hlgEncode, by simp [library], rfl, rfl⟩
  case hlg.decode => exact ⟨hlgDecode, by simp [library], rfl, rfl⟩

end Transfer.Curve

end Colorimetry
