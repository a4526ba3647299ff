import Mathlib
import Colorimetry.Proofs.Glsl.Evaluation

/-!
# A vector function is three functions of numbers

No operation of `Colorimetry.Glsl` mixes components, and which types go together does not depend on
the components at all. So the three readings of a tree determine one another: **if the types are
right and each lane has a value, then the vector of these values is the value** (`sound_link`), and
a statement about a shader function is one about a function of numbers.

The statement is about what names of functions mean (`Sound`). It holds of the functions of the
language, whose components are computed apart (`sound_builtins`). A tree keeps it, by an induction
with one case for each kind of expression (`Expr.eval?_of_lanes`); a function is a tree after some
declarations (`Sound.call?`), and a library some functions (`sound_link`).
-/

namespace Colorimetry.Glsl

/-! ### Values with given components -/

namespace Value

variable {K : Type} {w : Value K} {t : Ty} {x : Lane → K}

/-- A type and the components are those of a value. -/
structure Has (w : Value K) (t : Ty) (x : Lane → K) : Prop where
  type_eq : w.type = t
  lane_eq : ∀ i, w.lane i = x i

/-- The components of a scalar are equal. -/
theorem lane_of_float (h : w.type = .float) (i : Lane) : w.lane i = w.lane .r := by
  cases w with
  | scalar x => rfl
  | vector v => cases h

/-- A vector is its components. -/
theorem Has.eq_vector {v : Rgb K} (h : w.Has .vec3 fun i => (vector v).lane i) : w = vector v := by
  cases w with
  | scalar x => cases h.type_eq
  | vector u =>
    have hr := h.lane_eq .r
    have hg := h.lane_eq .g
    have hb := h.lane_eq .b
    exact congrArg vector (Rgb.ext hr hg hb)

/-- Components that are defined can be gathered, into a scalar if they are equal. -/
theorem exists_gather? {f : Lane → Option K} (hf : ∀ i, f i = some (x i))
    (hfloat : t = .float → ∀ i, f i = f .r) : ∃ w, gather? t f = some w ∧ w.Has t x := by
  cases t with
  | float =>
    refine ⟨scalar (x .r), by rw [gather?, hf]; rfl, rfl, fun i => ?_⟩
    have heq := hfloat rfl i
    rw [hf, hf] at heq
    exact (Option.some.inj heq).symm
  | vec3 =>
    refine ⟨vector ⟨x .r, x .g, x .b⟩, by simp only [gather?, hf]; rfl, rfl, fun i => ?_⟩
    cases i <;> rfl

end Value

/-- An operator yields a scalar between scalars only. -/
theorem Op.type_eq_float {s t : Ty} (h : Op.type s t = .float) : s = .float ∧ t = .float := by
  cases s <;> cases t <;> simp_all [Op.type]

/-- A function of the language yields a scalar at scalars only. -/
theorem Builtin.all_float_of_type? {f : Builtin} {ts : List Ty} (h : f.type? ts = some .float) :
    ∀ t ∈ ts, t = .float := by
  unfold Builtin.type? at h
  split at h
  all_goals grind

/-! ### The language -/

section Lanewise

variable {K : Type} [Field K] [LinearOrder K] [Elementary K]

/-- The types of variables. -/
def Env.types (ρ : Env (Value K)) : Env Ty := ρ.map fun p => (p.1, p.2.type)

/-- A component of variables. -/
def Env.lane (i : Lane) (ρ : Env (Value K)) : Env K := ρ.map fun p => (p.1, p.2.lane i)

theorem lookup_map {D E : Type} (f : D → E) (name : String) (ρ : Env D) :
    List.lookup name (ρ.map fun p => (p.1, f p.2)) = (List.lookup name ρ).map f := by
  induction ρ with
  | nil => rfl
  | cons p ρ ih =>
    rw [List.map_cons, List.lookup_cons, List.lookup_cons, ih]
    cases name == p.1 <;> rfl

/-- **Functions that work on each component**: if the types are right and every component of the
result is defined, the result is. -/
def Sound (m : Meaning (Value K)) (mt : Meaning Ty) (ml : Meaning K) : Prop :=
  ∀ (name : String) (ws : List (Value K)) (t : Ty) (x : Lane → K),
    mt name (ws.map Value.type) = some t → (∀ i, ml name (ws.map (·.lane i)) = some (x i)) →
      ∃ w, m name ws = some w ∧ w.Has t x

/-- The operators work on each component. -/
theorem exists_operate? {op : Op} {u v : Value K} {x : Lane → K}
    (h : ∀ i, op.result? (u.lane i) (v.lane i) = some (x i)) :
    ∃ w, values.operate? op u v = some w ∧ w.Has (Op.type u.type v.type) x := by
  refine Value.exists_gather? (t := Op.type u.type v.type) h fun hfloat i => ?_
  obtain ⟨hu, hv⟩ := Op.type_eq_float hfloat
  rw [Value.lane_of_float hu, Value.lane_of_float hv]

/-- The functions of the language work on each component. -/
theorem sound_builtins : Sound (values (K := K)).builtins types.builtins lanes.builtins := by
  intro name ws t x ht hx
  cases hname : Builtin.ofName? name with
  | none => simp [Reading.builtins, hname] at ht
  | some f =>
    simp only [Reading.builtins, hname, Option.bind_eq_bind, Option.bind_some] at ht hx ⊢
    have htype : f.type? (ws.map Value.type) = some t := ht
    simp only [values, htype, Option.bind_eq_bind, Option.bind_some]
    refine Value.exists_gather? hx fun hfloat i => ?_
    -- a scalar comes of scalars only, and these look the same on every lane
    have hscalar : ∀ w ∈ ws, w.lane i = w.lane .r := by
      intro w hw
      rw [hfloat] at htype
      exact Value.lane_of_float (Builtin.all_float_of_type? htype _ (List.mem_map_of_mem hw)) i
    rw [List.map_congr_left hscalar]

/-! ### Expressions -/

section Expressions

variable {m : Meaning (Value K)} {mt : Meaning Ty} {ml : Meaning K}

mutual

/-- **The value of an expression is the vector of its values on the lanes.** -/
theorem Expr.eval?_of_lanes (hm : Sound m mt ml) (ρ : Env (Value K)) :
    ∀ (e : Expr) (t : Ty) (x : Lane → K),
    e.eval? types mt (Env.types ρ) = some t →
    (∀ i, e.eval? lanes ml (Env.lane i ρ) = some (x i)) →
    ∃ w, e.eval? values m ρ = some w ∧ w.Has t x
  | .var name, t, x, ht, hx => by
    simp only [Expr.eval?, Env.types, Env.lane, lookup_map] at ht hx ⊢
    obtain ⟨w, hw, rfl⟩ := Option.map_eq_some_iff.mp ht
    refine ⟨w, hw, rfl, fun i => ?_⟩
    have hlane := hx i
    rw [hw] at hlane
    exact Option.some.inj hlane
  | .lit value, t, x, ht, hx => by
    simp only [Expr.eval?, Option.some.injEq] at ht hx
    exact ⟨.scalar value.value, rfl, ht, hx⟩
  | .bin op left right, t, x, ht, hx => by
    simp only [Expr.eval?, Option.bind_eq_bind, Option.bind_eq_some_iff] at ht hx
    obtain ⟨tl, hleft, tr, hright, hop⟩ := ht
    -- the values of the parts on the three lanes, as functions of the lane
    choose xl hxl xr hxr hxop using hx
    obtain ⟨u, hu, rfl, hul⟩ := Expr.eval?_of_lanes hm ρ left tl xl hleft hxl
    obtain ⟨v, hv, rfl, hvl⟩ := Expr.eval?_of_lanes hm ρ right tr xr hright hxr
    have hlanes : ∀ i, op.result? (u.lane i) (v.lane i) = some (x i) := by
      intro i
      rw [hul, hvl]
      exact hxop i
    obtain ⟨w, hw, hwt⟩ := exists_operate? hlanes
    cases Option.some.inj hop
    exact ⟨w, by simp only [Expr.eval?, hu, hv, Option.bind_eq_bind, Option.bind_some, hw], hwt⟩
  | .call function arguments, t, x, ht, hx => by
    simp only [Expr.eval?, Option.bind_eq_bind, Option.bind_eq_some_iff] at ht hx
    obtain ⟨ts, hts, ht⟩ := ht
    choose xs hxs hx using hx
    obtain ⟨ws, hws, rfl, hlanes⟩ := Expr.evalAll?_of_lanes hm ρ arguments ts xs hts hxs
    obtain ⟨w, hw, hwt⟩ := hm function ws t x ht (by
      intro i
      rw [hlanes]
      exact hx i)
    exact ⟨w, by simp only [Expr.eval?, hws, Option.bind_eq_bind, Option.bind_some, hw], hwt⟩

/-- The same for arguments. -/
theorem Expr.evalAll?_of_lanes (hm : Sound m mt ml) (ρ : Env (Value K)) :
    ∀ (es : List Expr) (ts : List Ty) (xs : Lane → List K),
    Expr.evalAll? types mt (Env.types ρ) es = some ts →
    (∀ i, Expr.evalAll? lanes ml (Env.lane i ρ) es = some (xs i)) →
    ∃ ws, Expr.evalAll? values m ρ es = some ws ∧ ws.map Value.type = ts ∧
      ∀ i, ws.map (·.lane i) = xs i
  | [], ts, xs, ht, hx => by
    simp only [Expr.evalAll?, Option.some.injEq] at ht hx
    exact ⟨[], rfl, ht, hx⟩
  | e :: rest, ts, xs, ht, hx => by
    simp only [Expr.evalAll?, Option.bind_eq_bind, Option.bind_eq_some_iff, Option.pure_def,
      Option.some.injEq] at ht hx
    obtain ⟨t, he, ts, hrest, rfl⟩ := ht
    choose y hy ys hys hx using hx
    obtain ⟨w, hw, rfl, hlane⟩ := Expr.eval?_of_lanes hm ρ e t y he hy
    obtain ⟨ws, hws, rfl, hlanes⟩ := Expr.evalAll?_of_lanes hm ρ rest ts ys hrest hys
    refine ⟨w :: ws, ?_, rfl, fun i => ?_⟩
    · simp only [Expr.evalAll?, hw, hws, Option.bind_eq_bind, Option.bind_some, Option.pure_def]
    · rw [List.map_cons, hlane, hlanes, hx]

end

/-! ### Functions -/

/-- Parameters stand for their arguments, on the lanes as in the values. -/
theorem exists_bind? : ∀ (ps : List Parameter) (ws : List (Value K)) (Γ : Env Ty),
    types.bind? ps (ws.map Value.type) = some Γ →
    ∃ ρ, values.bind? ps ws = some ρ ∧ Env.types ρ = Γ ∧
      ∀ i, lanes.bind? ps (ws.map (·.lane i)) = some (Env.lane i ρ)
  | [], [], Γ, h => ⟨[], rfl, Option.some.inj h, fun _ => rfl⟩
  | [], _ :: _, Γ, h | _ :: _, [], Γ, h => by cases h
  | p :: ps, w :: ws, Γ, h => by
    simp only [List.map_cons, Reading.bind?, Option.bind_eq_bind, Option.bind_eq_some_iff,
      Option.ite_none_right_eq_some, Option.some.injEq] at h
    obtain ⟨Γ, hΓ, hfits, rfl⟩ := h
    obtain ⟨ρ, hρ, rfl, hlanes⟩ := exists_bind? ps ws Γ hΓ
    have hfits' : values.fits w p.type = true := hfits
    refine ⟨(p.name, w) :: ρ, ?_, rfl, fun i => ?_⟩
    · simp only [Reading.bind?, hρ, Option.bind_eq_bind, Option.bind_some, hfits', if_true]
    · simp only [List.map_cons, Reading.bind?, hlanes, Option.bind_eq_bind, Option.bind_some]
      rfl

/-- Declarations extend the variables on the lanes as in the values. -/
theorem Sound.declare? (hm : Sound m mt ml) :
    ∀ (ds : List Declaration) (ρ : Env (Value K)) (Γ : Env Ty) (ρl : Lane → Env K),
    types.declare? mt ds (Env.types ρ) = some Γ →
    (∀ i, lanes.declare? ml ds (Env.lane i ρ) = some (ρl i)) →
    ∃ ρ', values.declare? m ds ρ = some ρ' ∧ Env.types ρ' = Γ ∧ ∀ i, Env.lane i ρ' = ρl i
  | [], ρ, Γ, ρl, ht, hl => by
    simp only [Reading.declare?, Option.some.injEq] at ht hl
    exact ⟨ρ, rfl, ht, hl⟩
  | d :: ds, ρ, Γ, ρl, ht, hl => by
    simp only [Reading.declare?, Option.bind_eq_bind, Option.bind_eq_some_iff,
      Option.ite_none_right_eq_some] at ht hl
    obtain ⟨t, hvalue, hfits, ht⟩ := ht
    choose x hx _ hl using hl
    obtain ⟨w, hw, rfl, hlane⟩ := Expr.eval?_of_lanes hm ρ d.value t x hvalue hx
    have hfits' : values.fits w d.type = true := hfits
    obtain ⟨ρ', hρ', hΓ, hlanes⟩ := hm.declare? ds ((d.name, w) :: ρ) Γ ρl ht (by
      intro i
      rw [Env.lane, List.map_cons, hlane]
      exact hl i)
    refine ⟨ρ', ?_, hΓ, hlanes⟩
    simp only [Reading.declare?, hw, Option.bind_eq_bind, Option.bind_some, hfits', if_true, hρ']

/-- A function works on each component if those that it calls do. -/
theorem Sound.call? (hm : Sound m mt ml) (f : Function) (ws : List (Value K)) (t : Ty)
    (x : Lane → K) (ht : f.call? types mt (ws.map Value.type) = some t)
    (hx : ∀ i, f.call? lanes ml (ws.map (·.lane i)) = some (x i)) :
    ∃ w, f.call? values m ws = some w ∧ w.Has t x := by
  simp only [Function.call?, Option.bind_eq_bind, Option.bind_eq_some_iff,
    Option.ite_none_right_eq_some, Option.some.injEq] at ht hx
  obtain ⟨Γ, hΓ, Γ', hΓ', t, hresult, hfits, rfl⟩ := ht
  obtain ⟨ρ, hρ, rfl, hlanes⟩ := exists_bind? f.parameters ws Γ hΓ
  choose ρb hbind ρl hl y hy _ hyx using hx
  obtain ⟨ρ', hρ', rfl, hlanes'⟩ := hm.declare? f.declarations ρ Γ' ρl hΓ' (by
    intro i
    have hlane := hlanes i
    rw [hbind, Option.some.injEq] at hlane
    rw [← hlane]
    exact hl i)
  obtain ⟨w, hw, hwt⟩ := Expr.eval?_of_lanes hm ρ' f.result t x hresult (by
    intro i
    rw [hlanes', ← hyx]
    exact hy i)
  refine ⟨w, ?_, hwt⟩
  have hfits' : values.fits w .vec3 = true := by
    rw [← hwt.type_eq] at hfits
    exact hfits
  simp only [Function.call?, hρ, hρ', hw, Option.bind_eq_bind, Option.bind_some, hfits', if_true]

/-! ### Libraries -/

/-- One more function works on each component too. -/
theorem Sound.define (hm : Sound m mt ml) (f : Function) :
    Sound (values.define m f) (types.define mt f) (lanes.define ml f) := by
  intro name ws t x ht hx
  by_cases hname : name = f.name
  · simp only [Reading.define, if_pos hname] at ht hx ⊢
    exact hm.call? f ws t x ht hx
  · simp only [Reading.define, if_neg hname] at ht hx ⊢
    exact hm name ws t x ht hx

end Expressions

/-- **Every function of a library works on each component.** -/
theorem sound_link (functions : List Function) :
    Sound (values (K := K) |>.link functions) (types.link functions) (lanes.link functions) := by
  unfold Reading.link
  induction functions using List.reverseRecOn with
  | nil => exact sound_builtins
  | append_singleton functions f ih =>
    simp only [List.foldl_append, List.foldl_cons, List.foldl_nil]
    exact ih.define f

/-- **A vector function is a function of numbers on each lane**, if its types are right. -/
theorem run?_of_lanes {functions : List Function} {name : String} {ws : List (Value K)}
    (htype : types.link functions name (ws.map Value.type) = some .vec3) {v : Rgb K}
    (hlane : ∀ i, lanes.link functions name (ws.map (·.lane i)) =
      some ((Value.vector v).lane i)) :
    run? functions name ws = some (.vector v) := by
  obtain ⟨w, hw, hwt⟩ := sound_link functions name ws .vec3 _ htype hlane
  rw [run?, hw, hwt.eq_vector]

end Lanewise

end Colorimetry.Glsl
