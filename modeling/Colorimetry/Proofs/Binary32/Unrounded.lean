import Mathlib
import Colorimetry.Proofs.Binary32.Inversion

/-!
# Arithmetic without rounding

A third reading of the formulas of this library, between binary32 and exact arithmetic. In
`Unrounded` the operations are those of binary32 as long as their results need no rounding, and where
one would have to be rounded there is no result. So a formula that has a value in `Unrounded` is one
that binary32 evaluates exactly, operation by operation, and what it has there is what binary32
computes (`respects_agrees`).

Sums with a zero and products with a zero or a one are never rounded, and this is all that a product
with the identity is made of (`HasValue.add_of_zero_right` to `HasValue.mul_of_one_right`). Nothing is said of the sign
of a zero: these laws are about values, and in binary32 `-0 + 0` is `0`.
-/

namespace Colorimetry.Binary32

/-! ### Operations that are not rounded -/

/-- A float, if it has a given value. -/
def ofExact (x : Float32) (q : ℚ) : Option Float32 := if value x = some q then some x else none

/-- **An operation that is not rounded**: the value of its result is that of the exact operation on
the values of its operands. -/
def exactly (op : Float32 → Float32 → Float32) (exact : ℚ → ℚ → ℚ) (u v : Option Float32) :
    Option Float32 :=
  u.bind fun x => v.bind fun y =>
    (value x).bind fun p => (value y).bind fun q => ofExact (op x y) (exact p q)

section Exactly

variable {op : Float32 → Float32 → Float32} {exact : ℚ → ℚ → ℚ} {x y z : Float32}

theorem ofExact_eq_some_iff {q : ℚ} : ofExact x q = some y ↔ value x = some q ∧ x = y := by
  rw [ofExact, Option.ite_none_right_eq_some, Option.some_inj]

/-- A result that there is comes from two operands by the operation. -/
theorem exists_of_exactly_eq_some {u v : Option Float32} (h : exactly op exact u v = some z) :
    ∃ x y, u = some x ∧ v = some y ∧ op x y = z := by
  obtain ⟨x, hx, h⟩ := Option.bind_eq_some_iff.mp h
  obtain ⟨y, hy, h⟩ := Option.bind_eq_some_iff.mp h
  obtain ⟨p, -, h⟩ := Option.bind_eq_some_iff.mp h
  obtain ⟨q, -, h⟩ := Option.bind_eq_some_iff.mp h
  exact ⟨x, y, hx, hy, (ofExact_eq_some_iff.mp h).2⟩

/-- The result of an operation that is exact on two floats. -/
theorem exactly_eq_some {p q : ℚ} (hx : value x = some p) (hy : value y = some q)
    (h : value (op x y) = some (exact p q)) :
    exactly op exact (some x) (some y) = some (op x y) := by
  rw [exactly, Option.bind_some, Option.bind_some, hx, Option.bind_some, hy, Option.bind_some]
  exact ofExact_eq_some_iff.mpr ⟨h, rfl⟩

end Exactly

/-- A binary32 value, or nothing where a result would have to be rounded. -/
def Unrounded : Type := Option Float32

namespace Unrounded

/-- A float as it is. -/
def ofFloat (x : Float32) : Unrounded := some x

instance : Arithmetic Unrounded where
  zero := some 0
  one := some 1
  add := exactly (· + ·) (· + ·)
  sub := exactly (· - ·) (· - ·)
  mul := exactly (· * ·) (· * ·)
  div := exactly (· / ·) (· / ·)
  neg u := Option.map (-·) u
  ofScientific m s e := ofExact (OfScientific.ofScientific m s e) (OfScientific.ofScientific m s e)
  beq u v := Option.any (fun x => Option.any (x == ·) v) u
  isFinite u := Option.any Float32.isFinite u

/-! ### Evaluation without rounding is evaluation -/

/-- A float that an evaluation without rounding comes to, if it comes to anything. -/
def Agrees (x : Float32) (u : Unrounded) : Prop := ∀ y, u = some y → y = x

section Agreement

variable {x y : Float32} {u v : Unrounded}

theorem agrees_exactly {op : Float32 → Float32 → Float32} (exact : ℚ → ℚ → ℚ)
    (hu : Agrees x u) (hv : Agrees y v) : Agrees (op x y) (exactly op exact u v) := by
  intro z hz
  obtain ⟨x', y', hx', hy', rfl⟩ := exists_of_exactly_eq_some hz
  rw [hu x' hx', hv y' hy']

/-- **What a formula comes to without rounding is what it comes to in binary32.** -/
theorem respects_agrees : Arithmetic.Respects Agrees where
  zero _ h := (Option.some.inj h).symm
  one _ h := (Option.some.inj h).symm
  neg {x u} hu z hz := by
    obtain ⟨x', hx', rfl⟩ := Option.map_eq_some_iff.mp hz
    rw [hu x' hx']
  add hu hv := agrees_exactly _ hu hv
  sub hu hv := agrees_exactly _ hu hv
  mul hu hv := agrees_exactly _ hu hv

theorem agrees_ofFloat (x : Float32) : Agrees x (ofFloat x) := fun _ h => (Option.some.inj h).symm

end Agreement

/-! ### Values without rounding -/

/-- An evaluation without rounding comes to a given value. -/
def HasValue (u : Unrounded) (q : ℚ) : Prop := ∃ x, u = some x ∧ value x = some q

section Values

variable {u v : Unrounded} {p q : ℚ}

theorem hasValue_ofFloat {x : Float32} (h : value x = some q) : HasValue (ofFloat x) q :=
  ⟨x, rfl, h⟩

theorem hasValue_zero : HasValue 0 0 := ⟨0, rfl, value_zero⟩

theorem hasValue_one : HasValue 1 1 := ⟨1, rfl, value_one⟩

/-- The other zero has the value zero as well. -/
theorem hasValue_neg_zero : HasValue (-0) 0 := by
  refine ⟨-0, rfl, ?_⟩
  rw [value_neg, value_zero, Option.map_some, neg_zero]

/-- An operation on two values that binary32 computes exactly. -/
theorem HasValue.exactly {op : Float32 → Float32 → Float32} {exact : ℚ → ℚ → ℚ} {r : ℚ}
    (hu : HasValue u p) (hv : HasValue v q) (hr : exact p q = r)
    (h : ∀ {x y}, value x = some p → value y = some q → value (op x y) = some r) :
    HasValue (Binary32.exactly op exact u v) r := by
  obtain ⟨x, rfl, hx⟩ := hu
  obtain ⟨y, rfl, hy⟩ := hv
  exact ⟨op x y, exactly_eq_some hx hy ((h hx hy).trans (congrArg some hr.symm)), h hx hy⟩

/-- Zero is added without rounding, on the right -/
theorem HasValue.add_of_zero_right (hu : HasValue u p) (hv : HasValue v 0) :
    HasValue (u + v) p :=
  hu.exactly hv (add_zero p) fun hx hy => by rw [value_add_zero hy, hx]

/-- and on the left. -/
theorem HasValue.add_of_zero_left (hu : HasValue u 0) (hv : HasValue v q) :
    HasValue (u + v) q :=
  hu.exactly hv (zero_add q) fun hx hy => by rw [value_add_comm, value_add_zero hx, hy]

/-- A product with zero is not rounded, from the left -/
theorem HasValue.mul_of_zero_left (hu : HasValue u 0) (hv : HasValue v q) :
    HasValue (u * v) 0 :=
  hu.exactly hv (zero_mul q) fun hx hy => by rw [value_zero_mul hx, hy, Option.map_some]

/-- and from the right, -/
theorem HasValue.mul_of_zero_right (hu : HasValue u p) (hv : HasValue v 0) :
    HasValue (u * v) 0 :=
  hu.exactly hv (mul_zero p) fun hx hy => by
    rw [value_mul_comm, value_zero_mul hy, hx, Option.map_some]

/-- nor is a product with one, from the left -/
theorem HasValue.mul_of_one_left (hu : HasValue u 1) (hv : HasValue v q) :
    HasValue (u * v) q :=
  hu.exactly hv (one_mul q) fun hx hy => by
    rw [value_sign_mul hx abs_one, hy, Option.map_some, one_mul]

/-- and from the right. -/
theorem HasValue.mul_of_one_right (hu : HasValue u p) (hv : HasValue v 1) :
    HasValue (u * v) p :=
  hu.exactly hv (mul_one p) fun hx hy => by
    rw [value_mul_comm, value_sign_mul hy abs_one, hx, Option.map_some, one_mul]

end Values

/-- A half and a quarter have a sum, a tenth and two tenths have none, and a tenth is none. -/
example : Arithmetic.isFinite (ofFloat 0.5 + ofFloat 0.25) = true ∧
    Arithmetic.isFinite (ofFloat 0.1 + ofFloat 0.2) = false ∧
    Arithmetic.isFinite (0.1 : Unrounded) = false := by decide +kernel

end Unrounded

end Colorimetry.Binary32
