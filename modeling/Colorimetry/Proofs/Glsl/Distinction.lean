import Mathlib
import Colorimetry.Proofs.Glsl.Agreement

/-!
# Which shader function is which

`Transfer.Curve.shaderFunction` names a function of the library, and that function computes the
curve. This file shows that it names the only one: a function that computes all curves of a kind in a
direction is the one that they name (`Transfer.Curve.forall_isComputedBy_iff`). A single curve would
not do, since the curve of an exponent and a slope of one is the identity in both directions.

Two things tell functions apart. A call with arguments of other types than the parameters has no
value (`types_eq_of_isSome`), which leaves the functions of the same kind of curve; and of those any
two differ at a point of the unit interval.
-/

namespace Colorimetry

/-! ### Types of arguments -/

namespace Glsl

section Types

variable {K : Type} [Field K] [LinearOrder K] [Elementary K]

/-- Arguments are of the types of their parameters. -/
theorem types_of_bind? : ∀ {ps : List Parameter} {ws : List (Value K)} {ρ : Env (Value K)},
    values.bind? ps ws = some ρ → ws.map Value.type = ps.map Parameter.type
  | [], [], _, _ => rfl
  | [], _ :: _, _, h | _ :: _, [], _, h => by cases h
  | p :: ps, w :: ws, ρ, h => by
    simp only [Reading.bind?, Option.bind_eq_bind, Option.bind_eq_some_iff,
      Option.ite_none_right_eq_some] at h
    obtain ⟨ρ', hρ', hfits, -⟩ := h
    rw [List.map_cons, List.map_cons, types_of_bind? hρ', eq_of_beq hfits]

/-- What names mean within a function of the library: what stands before it is known. -/
def meaningWithin (f : Function) : Meaning (Value K) :=
  values.link (library.takeWhile (·.name != f.name))

/-- The name of a function of the library means this function. -/
theorem run?_library {f : Function} (hf : f ∈ library) (ws : List (Value K)) :
    run? library f.name ws = f.call? values (meaningWithin f) ws := by
  simp only [library, List.mem_cons, List.not_mem_nil, or_false] at hf
  rcases hf with rfl | rfl | rfl | rfl | rfl | rfl | rfl <;> rfl

/-- **A function of the library has values at arguments of the right types only.** -/
theorem types_eq_of_isSome {f : Function} (hf : f ∈ library) {ws : List (Value K)}
    (h : (run? library f.name ws).isSome) : ws.map Value.type = f.parameters.map Parameter.type := by
  rw [run?_library hf] at h
  obtain ⟨ρ, hρ, -⟩ := (Function.definedAt_of_isSome h).result
  obtain ⟨ρ', hbind, -⟩ := Option.bind_eq_some_iff.mp hρ
  exact types_of_bind? hbind

end Types

/-- The functions that take coefficients. -/
theorem name_of_coefficients : ∀ f ∈ library,
    f.parameters.map Parameter.type = [.vec3, .float, .float, .float, .float] →
      f.name = "gamma" ∨ f.name = "degamma" := by
  decide

/-- The functions that take a vector and nothing else. -/
theorem name_of_vector : ∀ f ∈ library, f.parameters.map Parameter.type = [.vec3] →
    f.name ∈ ["st2084_eotf", "st2084_inverse_eotf", "hlg_oetf", "hlg_eotf"] := by
  decide

end Glsl

/-! ### Curves -/

namespace Transfer.Curve

open Glsl

/-- A function computes a curve on the unit cube. -/
def IsComputedBy (c : Curve ℝ) (f : Function) : Prop :=
  ∀ v ∈ unitCube ℝ, run? library f.name (.vector v :: coefficients c.kind) =
    some (.vector (c.applyRgb v))

section Distinction

variable {c c' : Curve ℝ} {f : Function}

/-- A function that computes a curve takes its coefficients. -/
theorem IsComputedBy.types_eq (h : c.IsComputedBy f) (hf : f ∈ library) :
    f.parameters.map Parameter.type = .vec3 :: (coefficients c.kind).map Value.type :=
  (types_eq_of_isSome hf (Option.isSome_of_eq_some
    (h _ (gray_mem_unitCube le_rfl zero_le_one)))).symm

/-- A function that computes a curve and is named by another makes the two equal. -/
theorem IsComputedBy.apply_eq (h : c.IsComputedBy f) (hc' : c'.Regular)
    (hname : f.name = c'.shaderFunction) (hkind : coefficients c'.kind = coefficients c.kind)
    {x : ℝ} (hx : 0 ≤ x) (hx' : x ≤ 1) : c.apply x = c'.apply x := by
  have hgray := gray_mem_unitCube hx hx'
  have hrun := run?_shaderFunction hc' hgray
  rw [hkind, ← hname, h _ hgray, Option.some.injEq, Value.vector.injEq] at hrun
  exact congrArg Rgb.r hrun

/-- **No two closed forms are equal on the unit interval.** Zero tells the encoding of the
perceptual quantizer from the others, encoded black its decoding, and the joint of hybrid log-gamma
the two directions of that. -/
theorem shaderFunction_eq_of_apply_eq {c c' : Curve ℝ} (hc : coefficients c.kind = [])
    (hc' : coefficients c'.kind = []) (h : ∀ x, 0 ≤ x → x ≤ 1 → c.apply x = c'.apply x) :
    c.shaderFunction = c'.shaderFunction := by
  obtain ⟨x, hx, hx', hblack⟩ := Pq.exists_decode_eq_zero
  have hencode := Hlg.encode_pos hx
  have hdecode := Hlg.decode_pos hx
  have hzero := Pq.encode_zero_pos
  have hjoint : (Hlg.decode (1 / 12) : ℝ) = 1 / 432 := by
    rw [Hlg.decode_eq, if_pos (by norm_num)]
    norm_num
  have atZero := h 0 le_rfl zero_le_one
  have atBlack := h x hx.le hx'
  have atJoint := h (1 / 12) (by norm_num) (by norm_num)
  obtain ⟨direction, kind⟩ := c
  obtain ⟨direction', kind'⟩ := c'
  cases kind with
  | piecewise record => cases hc
  | pq | hlg =>
    cases kind' with
    | piecewise record => cases hc'
    | pq | hlg =>
      cases direction <;> cases direction' <;>
        first
        | rfl
        | simp only [apply, Pq.decode_zero, Hlg.encode_zero, Hlg.decode_zero, hblack, hjoint,
            Hlg.encode_joint] at atZero atBlack atJoint
          linarith

/-- A record of which neither segment is the same in both directions. -/
noncomputable def doubling : Record ℝ := ⟨"", 1, 0, 1 + 1, 1 + 1⟩

theorem regular_doubling : doubling.Regular :=
  ⟨one_pos, le_rfl, by norm_num [doubling]⟩

theorem encode_doubling_ne : doubling.encode 1 ≠ doubling.decode 1 := by
  norm_num [doubling, Record.encode, Record.decode]

/-- A function that computes the doubling in one direction is the one that this direction names. -/
theorem IsComputedBy.name_eq_of_doubling {direction : Direction}
    (h : (Curve.mk direction (.piecewise doubling)).IsComputedBy f) (hf : f ∈ library) :
    f.name = (Curve.mk direction (.piecewise doubling)).shaderFunction := by
  -- a name of the other direction would make both directions equal at one
  have happly (direction' : Direction)
      (hname : f.name = (Curve.mk direction' (.piecewise doubling)).shaderFunction) :
      (Curve.mk direction (.piecewise doubling)).apply 1 =
        (Curve.mk direction' (.piecewise doubling)).apply 1 := by
    have hregular : (Curve.mk direction' (.piecewise doubling)).Regular := regular_doubling
    exact h.apply_eq hregular hname rfl zero_le_one le_rfl
  rcases name_of_coefficients f hf (h.types_eq hf) with hname | hname
  · cases direction with
    | encode => exact hname
    | decode => exact absurd (happly .encode hname).symm encode_doubling_ne
  · cases direction with
    | encode => exact absurd (happly .decode hname) encode_doubling_ne
    | decode => exact hname

/-- A function that computes a closed form is the one that it names. -/
theorem IsComputedBy.name_eq_of_closed (h : c.IsComputedBy f) (hf : f ∈ library)
    (hc : coefficients c.kind = []) : f.name = c.shaderFunction := by
  have hclosed (c' : Curve ℝ) (hname : f.name = c'.shaderFunction) (hc' : c'.Regular)
      (hkind : coefficients c'.kind = []) : f.name = c.shaderFunction := by
    rw [hname]
    refine (shaderFunction_eq_of_apply_eq hc hkind fun x hx hx' => ?_).symm
    exact h.apply_eq hc' hname (hkind.trans hc.symm) hx hx'
  have htypes := h.types_eq hf
  rw [hc] at htypes
  have hname := name_of_vector f hf htypes
  simp only [List.mem_cons, List.not_mem_nil, or_false] at hname
  rcases hname with hname | hname | hname | hname
  · exact hclosed ⟨.decode, .pq⟩ hname trivial rfl
  · exact hclosed ⟨.encode, .pq⟩ hname trivial rfl
  · exact hclosed ⟨.encode, .hlg⟩ hname trivial rfl
  · exact hclosed ⟨.decode, .hlg⟩ hname trivial rfl

/-- Which function a curve names depends on its direction and its kind. -/
theorem shaderFunction_congr (hdirection : c'.direction = c.direction)
    (hkind : c'.kind.label = c.kind.label) : c'.shaderFunction = c.shaderFunction := by
  obtain ⟨direction, kind⟩ := c
  obtain ⟨direction', kind'⟩ := c'
  cases hdirection
  cases direction <;> cases kind <;> cases kind' <;> first | rfl | simp [Kind.label] at hkind

/-- **A curve names the one function that computes all curves of its kind and direction.** -/
theorem forall_isComputedBy_iff (c : Curve ℝ) (hf : f ∈ library) :
    (∀ c' : Curve ℝ, c'.direction = c.direction → c'.kind.label = c.kind.label → c'.Regular →
      c'.IsComputedBy f) ↔ f.name = c.shaderFunction := by
  constructor
  · intro h
    obtain ⟨direction, kind⟩ := c
    cases kind with
    | piecewise record =>
      rw [(h ⟨direction, .piecewise doubling⟩ rfl rfl regular_doubling).name_eq_of_doubling hf]
      exact shaderFunction_congr rfl rfl
    | pq => exact (h ⟨direction, .pq⟩ rfl rfl trivial).name_eq_of_closed hf rfl
    | hlg => exact (h ⟨direction, .hlg⟩ rfl rfl trivial).name_eq_of_closed hf rfl
  · intro hname c' hdirection hkind hc' v hv
    rw [hname, ← shaderFunction_congr hdirection hkind]
    exact run?_shaderFunction hc' hv

end Distinction

end Transfer.Curve

/-! ### All together -/

namespace Glsl

open Transfer

/-- **The shader functions compute the curves**, on each component of every vector of the unit cube. A
function that has a value has one in each of its parts, so nothing is undefined on the way. Each curve
names the function that computes it, and no other does for all curves of its kind and direction. -/
theorem library_computes_curves :
    (∀ c : Record ℝ, 0 < c.p → 0 ≤ c.a → c.linear ≠ 0 → ∀ v ∈ unitCube ℝ,
      run? library "degamma"
          [.vector v, .scalar c.p, .scalar c.a, .scalar c.knee, .scalar c.linear] =
        some (.vector (v.map c.decode)) ∧
      run? library "gamma"
          [.vector v, .scalar c.p, .scalar c.a, .scalar c.knee, .scalar c.linear] =
        some (.vector (v.map c.encode))) ∧
    (∀ v ∈ unitCube ℝ,
      run? library "st2084_eotf" [.vector v] = some (.vector (v.map Pq.decode)) ∧
      run? library "st2084_inverse_eotf" [.vector v] = some (.vector (v.map Pq.encode)) ∧
      run? library "hlg_oetf" [.vector v] = some (.vector (v.map Hlg.encode)) ∧
      run? library "hlg_eotf" [.vector v] = some (.vector (v.map Hlg.decode))) ∧
    (∀ f ∈ library, ∀ ws : List (Value ℝ), (run? library f.name ws).isSome →
      f.DefinedAt values (meaningWithin f) ws) ∧
    ∀ c : Curve ℝ,
      (∃ f ∈ library, find? c.shaderFunction = some f ∧ f.name = c.shaderFunction) ∧
      (c.Regular → ∀ v ∈ unitCube ℝ,
        run? library c.shaderFunction (.vector v :: Curve.coefficients c.kind) =
          some (.vector (c.applyRgb v))) ∧
      ∀ f ∈ library,
        (∀ c' : Curve ℝ, c'.direction = c.direction → c'.kind.label = c.kind.label →
          c'.Regular → c'.IsComputedBy f) ↔ f.name = c.shaderFunction := by
  refine ⟨?_, ?_, ?_, ?_⟩
  · intro c hp ha hlinear v hv
    exact ⟨run?_degamma ⟨hp, ha, hlinear⟩ hv, run?_gamma ⟨hp, ha, hlinear⟩ hv⟩
  · intro v hv
    exact ⟨run?_pqDecode hv, run?_pqEncode hv, run?_hlgEncode hv, run?_hlgDecode v⟩
  · intro f hf ws h
    rw [run?_library hf] at h
    exact Function.definedAt_of_isSome h
  · intro c
    exact ⟨c.exists_find?_shaderFunction, fun hc _ hv => Curve.run?_shaderFunction hc hv,
      fun _ hf => c.forall_isComputedBy_iff hf⟩

/-- The functions at a vector in black, in the straight segment and in white, with the coefficients
of BT.709. -/
theorem library_computes_bt709 :
    (⟨0, 1 / 100, 1⟩ : Rgb ℝ) ∈ unitCube ℝ ∧ (Record.bt709 : Record ℝ).Regular ∧
    run? library "gamma" [.vector (⟨0, 1 / 100, 1⟩ : Rgb ℝ), .scalar Record.bt709.p,
        .scalar Record.bt709.a, .scalar Record.bt709.knee, .scalar Record.bt709.linear] =
      some (.vector ⟨0, 9 / 200, 1⟩) ∧
    run? library "hlg_oetf" [.vector (⟨0, 1 / 100, 1⟩ : Rgb ℝ)] =
      some (.vector ⟨0, √(3 / 100), Hlg.encode 1⟩) := by
  have hmem : (⟨0, 1 / 100, 1⟩ : Rgb ℝ) ∈ unitCube ℝ := by
    refine ⟨?_, ?_, ?_⟩ <;> norm_num
  have hregular : (Record.bt709 : Record ℝ).Regular := by
    constructor <;> norm_num [Record.bt709]
  obtain ⟨hpiecewise, hclosed, -⟩ := library_computes_curves
  have hgamma := (hpiecewise _ hregular.p_pos hregular.a_nonneg hregular.linear_ne _ hmem).2
  have hhlg := (hclosed _ hmem).2.2.1
  refine ⟨hmem, hregular, hgamma.trans ?_, hhlg.trans ?_⟩
  · norm_num [Rgb.map, Record.encode, Record.bt709]
  · norm_num [Rgb.map, Hlg.encode_eq]

end Glsl

end Colorimetry
