import Mathlib
import Colorimetry.Surface.Pipeline

/-!
# Evaluation of a pipeline

A pipeline is evaluated from the left, so that what is pushed acts on what came out: the value of a
pushed stage is the value of that stage on the value of the pipeline (`Pipeline.apply_push`). The
lemmas for the single kinds of stages follow, and a proof about a pipeline that is built stage by
stage never opens the list of its stages.

A pipeline whose stages are known is opened from the front instead: its first stage acts, and the
rest is a pipeline for what comes out (`Pipeline.apply_cons`).
-/

namespace Colorimetry.Surface.Pipeline

/-- A pipeline with a matrix more, if there is one. -/
def push? {α : Type} (p : Pipeline α) (m : Option (Mat4 α)) : Pipeline α := m.elim p p.matrix

variable {α : Type} [Scalar α] [Elementary α]

theorem apply_empty (v : Rgb α) : ({} : Pipeline α).apply v = .ok v := rfl

/-- **A pushed stage acts last.** -/
theorem apply_push (p : Pipeline α) (stage : Stage α) (v : Rgb α) :
    (p.push stage).apply v = p.apply v >>= fun w => stage.apply w := by
  simp only [apply, push, List.foldlM_append, List.foldlM_cons, List.foldlM_nil, bind_pure]

/-- **The first stage acts first.** -/
theorem apply_cons (stage : Stage α) (rest : List (Stage α)) (v : Rgb α) :
    (⟨stage :: rest⟩ : Pipeline α).apply v = stage.apply v >>= (⟨rest⟩ : Pipeline α).apply := rfl

/-- A pipeline is evaluated part by part. -/
theorem apply_append (first rest : List (Stage α)) (v : Rgb α) :
    (⟨first ++ rest⟩ : Pipeline α).apply v =
      (⟨first⟩ : Pipeline α).apply v >>= (⟨rest⟩ : Pipeline α).apply :=
  List.foldlM_append

/-- Pushing stages one by one appends them. -/
theorem foldl_push {α : Type} (p : Pipeline α) (stages : List (Stage α)) :
    stages.foldl push p = ⟨p.stages ++ stages⟩ := by
  induction stages generalizing p with
  | nil => rw [List.foldl_nil, List.append_nil]
  | cons stage stages ih => rw [List.foldl_cons, ih, push, List.append_assoc, List.singleton_append]

theorem apply_matrix_cons (m : Mat4 α) (rest : List (Stage α)) (v : Rgb α) :
    (⟨.matrix m :: rest⟩ : Pipeline α).apply v =
      (⟨rest⟩ : Pipeline α).apply (m.convertRgb v) := rfl

theorem apply_curve_cons (c : Transfer.Curve α) (rest : List (Stage α)) (v : Rgb α) :
    (⟨.curve c :: rest⟩ : Pipeline α).apply v =
      (⟨rest⟩ : Pipeline α).apply (c.applyRgb v) := rfl

variable {p : Pipeline α} {v w : Rgb α}

theorem apply_matrix (h : p.apply v = .ok w) (m : Mat4 α) :
    (p.matrix m).apply v = .ok (m.convertRgb w) := by
  rw [matrix, apply_push, h]
  rfl

theorem apply_curve (h : p.apply v = .ok w) (c : Transfer.Curve α) :
    (p.curve c).apply v = .ok (c.applyRgb w) := by
  rw [curve, apply_push, h]
  rfl

end Colorimetry.Surface.Pipeline
