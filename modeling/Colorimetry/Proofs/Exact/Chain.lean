import Mathlib
import Colorimetry.Proofs.Exact.Matrix

/-!
# Chains of steps

A transform is built by appending steps to it, and `andThen`, `andScale` and `andOffset` multiply the
matrix of a step from the left. Everything that this library computes with a matrix rests on the
convention that a chain of such calls then runs in the order in which it is written. A single step
does not show it, nor does a chain of steps that commute.

`Step` is a call of a builder. It is read twice: `Step.appendTo` appends it to a matrix with the
builder, and `Step.act` is what the step itself does to a vector, with no matrix in it for a factor or
an offset. That the two agree is shown of one step (`transform_appendTo`) and carried along a chain
(`transform_appendAll`). What is appended to a transform does not depend on it
(`appendAll_eq_mul`), so that chains compose as products with the factors exchanged.
-/

namespace Colorimetry

namespace Mat4

/-! ### Steps -/

/-- A step that is appended to a transform. -/
inductive Step (α : Type) where
  /-- Another transform. -/
  | multiply (m : Mat4 α)
  /-- A factor for each axis. -/
  | scale (sx sy sz : α)
  /-- An offset for each axis. -/
  | offset (tx ty tz : α)

section Steps

variable {α : Type} [Arithmetic α]

/-- A transform with a step appended by the builder of its kind. -/
def Step.appendTo (m : Mat4 α) : Step α → Mat4 α
  | multiply n => m.andThen n
  | scale sx sy sz => m.andScale sx sy sz
  | offset tx ty tz => m.andOffset tx ty tz

/-- **What a step does to a vector.** Factors leave the homogeneous coordinate alone, and offsets
count as often as it says: once for a point, and not at all for a direction. -/
def Step.act (v : Vec4 α) : Step α → Vec4 α
  | multiply n => n.transform v
  | scale sx sy sz => ⟨sx * v.x, sy * v.y, sz * v.z, v.w⟩
  | offset tx ty tz => ⟨v.x + tx * v.w, v.y + ty * v.w, v.z + tz * v.w, v.w⟩

/-- A transform with the steps of a chain appended, one after the other. -/
def appendAll (m : Mat4 α) (steps : List (Step α)) : Mat4 α := steps.foldl Step.appendTo m

/-- The image of a vector under the steps of a chain, one after the other. -/
def actAll (steps : List (Step α)) (v : Vec4 α) : Vec4 α := steps.foldl Step.act v

end Steps

/-! ### The order of steps -/

variable {K : Type} [Field K] [DecidableEq K]

/-- Factors act on the first three components. -/
theorem transform_scaling (sx sy sz : K) (v : Vec4 K) :
    (scaling sx sy sz).transform v = ⟨sx * v.x, sy * v.y, sz * v.z, v.w⟩ := by
  simp [transform, scaling, Vec4.dot]

/-- Offsets are multiplied by the homogeneous coordinate. -/
theorem transform_offset (tx ty tz : K) (v : Vec4 K) :
    (offset tx ty tz).transform v = ⟨v.x + tx * v.w, v.y + ty * v.w, v.z + tz * v.w, v.w⟩ := by
  simp [transform, offset, Vec4.dot]

/-- **A step that is appended acts last.** -/
theorem transform_appendTo (m : Mat4 K) (step : Step K) (v : Vec4 K) :
    (step.appendTo m).transform v = step.act (m.transform v) := by
  cases step with
  | multiply n => exact transform_mul n m v
  | scale sx sy sz => exact (transform_mul _ m v).trans (transform_scaling sx sy sz _)
  | offset tx ty tz => exact (transform_mul _ m v).trans (transform_offset tx ty tz _)

/-- **Chains run in the order in which they are written**, behind the transform that they are
appended to. -/
theorem transform_appendAll (m : Mat4 K) (steps : List (Step K)) (v : Vec4 K) :
    (m.appendAll steps).transform v = actAll steps (m.transform v) := by
  -- the transform grows by one step at a time, so the induction is for all of them
  induction steps generalizing m with
  | nil => rfl
  | cons step steps ih =>
    calc ((step.appendTo m).appendAll steps).transform v
        = actAll steps ((step.appendTo m).transform v) := ih (step.appendTo m)
      _ = actAll steps (step.act (m.transform v)) := by rw [transform_appendTo]

/-- Every step multiplies from the left, -/
theorem exists_appendTo_eq_mul (step : Step K) : ∃ n, ∀ m : Mat4 K, step.appendTo m = n * m := by
  cases step with
  | multiply n => exact ⟨n, fun _ => rfl⟩
  | scale sx sy sz => exact ⟨scaling sx sy sz, fun _ => rfl⟩
  | offset tx ty tz => exact ⟨offset tx ty tz, fun _ => rfl⟩

/-- and so does every chain: what it appends is what it builds from nothing. -/
theorem appendAll_eq_mul (m : Mat4 K) (steps : List (Step K)) :
    m.appendAll steps = (1 : Mat4 K).appendAll steps * m := by
  induction steps generalizing m with
  | nil => exact (one_mul m).symm
  | cons step steps ih =>
    obtain ⟨n, hn⟩ := exists_appendTo_eq_mul step
    calc (step.appendTo m).appendAll steps
        = (1 : Mat4 K).appendAll steps * (n * m) := by rw [ih (step.appendTo m), hn]
      _ = (1 : Mat4 K).appendAll steps * step.appendTo 1 * m := by rw [hn, mul_one, mul_assoc]
      _ = (step.appendTo (1 : Mat4 K)).appendAll steps * m := by rw [← ih (step.appendTo 1)]

theorem appendAll_append (m : Mat4 K) (steps steps' : List (Step K)) :
    m.appendAll (steps ++ steps') = (m.appendAll steps).appendAll steps' :=
  List.foldl_append

/-- **A chain is what its steps do, in the order in which they are written**, whatever transform it
is appended to and whatever vector it is applied to, points and directions alike; and two chains, one
written behind the other, build the product of what each of them builds, with the later one on the
left. -/
theorem chains_run_as_written (m : Mat4 K) (steps steps' : List (Step K)) :
    (∀ v, (m.appendAll steps).transform v = actAll steps (m.transform v)) ∧
    m.appendAll (steps ++ steps') = identity.appendAll steps' * m.appendAll steps :=
  ⟨transform_appendAll m steps, by rw [appendAll_append]; exact appendAll_eq_mul _ steps'⟩

/-- A point that is moved and then scaled, and one that is scaled and then moved. -/
example :
    ((identity.appendAll [.offset 1 0 0, .scale 2 2 2]).transform (.point 1 1 1)).x = (4 : ℚ) ∧
    ((identity.appendAll [.scale 2 2 2, .offset 1 0 0]).transform (.point 1 1 1)).x = (3 : ℚ) := by
  decide +kernel

end Mat4

end Colorimetry
