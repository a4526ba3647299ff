import Mathlib
import Colorimetry.Proofs.Glsl.Evaluation

/-!
# Rules of evaluation on a lane

The value of a shader function on one lane, derived rule by rule (`Evaluates`). A rule for an
operator or a function of the language asks for the values of the parts and, where the domain is
restricted, that they lie in it; so a derivation shows at each step why no domain is left. The rules
are about any meaning of names that knows the language and the common power (`Knows`), which every
library does that begins with it (`knows_link`).
-/

namespace Colorimetry.Glsl

/-! ### Expressions -/

section Rules

variable {K : Type} [Field K] [LinearOrder K] [Elementary K]
variable {m : Meaning K} {ρ ρ' : Env K} {e e' a b k v : Expr} {x y z u : K}

/-- An expression has a value on a lane. -/
def Evaluates (m : Meaning K) (ρ : Env K) (e : Expr) (x : K) : Prop := e.eval? lanes m ρ = some x

/-- The names of the language and of the common power mean what they should. -/
structure Knows (m : Meaning K) : Prop where
  language : ∀ name f, Builtin.ofName? name = some f → ∀ xs, m name xs = f.result? xs
  power : ∀ x y, m "pow3" [x, y] = Builtin.pow.result? [x, y]

namespace Evaluates

/-- A variable. -/
theorem var {name : String} (h : ρ.lookup name = some x) : Evaluates m ρ (ref name) x := h

/-- A number. -/
theorem num (digits places : ℕ) :
    Evaluates m ρ (Glsl.num digits places) ((digits : K) / 10 ^ places) := rfl

/-- The number one. -/
theorem one [CharZero K] : Evaluates m ρ Glsl.one 1 := by
  have hone : ((10 : ℕ) : K) / 10 ^ 1 = 1 := by norm_num
  exact (Evaluates.num 10 1).trans (congrArg some hone)

/-- The number zero. -/
theorem zero : Evaluates m ρ Glsl.zero 0 :=
  (Evaluates.num 0 1).trans (congrArg some (by norm_num))

/-- Another spelling of a value. -/
theorem of_eq (h : Evaluates m ρ e x) (hxy : x = y) : Evaluates m ρ e y :=
  hxy ▸ h

/-- An operator. -/
theorem bin {op : Op} (h : Evaluates m ρ e x) (h' : Evaluates m ρ e' y)
    (hop : op.result? x y = some z) : Evaluates m ρ (.bin op e e') z := by
  rw [Evaluates, Expr.eval?, h, h']
  exact hop

theorem add (h : Evaluates m ρ e x) (h' : Evaluates m ρ e' y) :
    Evaluates m ρ (e + e') (x + y) :=
  h.bin h' rfl

theorem sub (h : Evaluates m ρ e x) (h' : Evaluates m ρ e' y) :
    Evaluates m ρ (e - e') (x - y) :=
  h.bin h' rfl

theorem mul (h : Evaluates m ρ e x) (h' : Evaluates m ρ e' y) :
    Evaluates m ρ (e * e') (x * y) :=
  h.bin h' rfl

/-- The divisor is not zero. -/
theorem div (h : Evaluates m ρ e x) (h' : Evaluates m ρ e' y) (hy : y ≠ 0) :
    Evaluates m ρ (e / e') (x / y) :=
  h.bin h' (if_neg hy)

/-- A call of one argument. -/
theorem app₁ {name : String} (h : Evaluates m ρ e x) (hcall : m name [x] = some z) :
    Evaluates m ρ (app name [e]) z := by
  rw [Evaluates, app, Expr.eval?, Expr.evalAll?, Expr.evalAll?, h]
  exact hcall

/-- A call of two arguments. -/
theorem app₂ {name : String} (h : Evaluates m ρ e x) (h' : Evaluates m ρ e' y)
    (hcall : m name [x, y] = some z) : Evaluates m ρ (app name [e, e']) z := by
  rw [Evaluates, app, Expr.eval?, Expr.evalAll?, Expr.evalAll?, Expr.evalAll?, h, h']
  exact hcall

section Functions

variable (hm : Knows m)

include hm

/-- The base of a power is positive, or zero below a positive exponent. -/
theorem pow3 (h : Evaluates m ρ e x) (h' : Evaluates m ρ e' y) (hx : 0 ≤ x) (hy : 0 < y) :
    Evaluates m ρ (app "pow3" [e, e']) (Elementary.pow x y) := by
  have hdomain : 0 < x ∨ x = 0 ∧ 0 < y := hx.lt_or_eq.imp_right fun hzero => ⟨hzero.symm, hy⟩
  exact h.app₂ h' ((hm.power x y).trans (if_pos hdomain))

/-- The argument of a root is not negative. -/
theorem sqrt (h : Evaluates m ρ e x) (hx : 0 ≤ x) :
    Evaluates m ρ (app "sqrt" [e]) (Elementary.sqrt x) :=
  h.app₁ ((hm.language "sqrt" .sqrt rfl _).trans (if_pos hx))

/-- The argument of a logarithm is positive. -/
theorem log (h : Evaluates m ρ e x) (hx : 0 < x) :
    Evaluates m ρ (app "log" [e]) (Elementary.log x) :=
  h.app₁ ((hm.language "log" .log rfl _).trans (if_pos hx))

theorem exp (h : Evaluates m ρ e x) : Evaluates m ρ (app "exp" [e]) (Elementary.exp x) :=
  h.app₁ (hm.language "exp" .exp rfl _)

theorem max (h : Evaluates m ρ e x) (h' : Evaluates m ρ e' y) :
    Evaluates m ρ (app "max" [e, e']) (Max.max x y) :=
  h.app₂ h' (hm.language "max" .max rfl _)

/-- **A selection without a conditional**: both segments have a value, and the one that applies is
taken. -/
theorem select (ha : Evaluates m ρ a x) (hb : Evaluates m ρ b y) (hk : Evaluates m ρ k z)
    (hv : Evaluates m ρ v u) :
    Evaluates m ρ (app "mix" [a, b, app "step" [k, v]]) (if u < z then x else y) := by
  have hstep := hk.app₂ hv (hm.language "step" .step rfl _)
  have hmix : m "mix" [x, y, if u < z then 0 else 1] = some (if u < z then x else y) := by
    rw [hm.language "mix" .mix rfl]
    by_cases h : u < z
    · simp [Builtin.result?, h]
    · simp [Builtin.result?, h]
  rw [Evaluates] at ha hb hstep ⊢
  rw [app, Expr.eval?, Expr.evalAll?, Expr.evalAll?, Expr.evalAll?, Expr.evalAll?, ha, hb, hstep]
  exact hmix

end Functions

end Evaluates

/-- A declaration whose value is known. -/
theorem declare?_cons {d : Declaration} (ds : List Declaration) (h : Evaluates m ρ d.value x) :
    lanes.declare? m (d :: ds) ρ = lanes.declare? m ds ((d.name, x) :: ρ) := by
  rw [Reading.declare?, h]
  rfl

/-- The value of a function: its parameters, its declarations, its result. -/
theorem call?_eq {f : Function} {xs : List K} (hbind : lanes.bind? f.parameters xs = some ρ)
    (hdeclare : lanes.declare? m f.declarations ρ = some ρ') (hresult : Evaluates m ρ' f.result x) :
    f.call? lanes m xs = some x := by
  rw [Function.call?, hbind]
  simp only [Option.bind_eq_bind, Option.bind_some, hdeclare]
  rw [hresult]
  rfl

/-! ### What the functions of the library call -/

/-- The common power is the power of the language. -/
theorem call?_pow3 (x y : K) :
    pow3.call? lanes lanes.builtins [x, y] = Builtin.pow.result? [x, y] := by
  -- the vector of the exponent is the exponent on each lane
  have hvector : Evaluates lanes.builtins [("v", x), ("p", y)] (app "vec3" [ref "p"]) y :=
    (Evaluates.var rfl).app₁ rfl
  have hvariable : Evaluates lanes.builtins [("v", x), ("p", y)] (ref "v") x := Evaluates.var rfl
  have hresult : pow3.result.eval? lanes lanes.builtins [("v", x), ("p", y)] =
      Builtin.pow.result? [x, y] := by
    rw [pow3, app, Expr.eval?, Expr.evalAll?, Expr.evalAll?, Expr.evalAll?, hvariable, hvector]
    rfl
  rw [Function.call?]
  change ((pow3.result.eval? lanes lanes.builtins [("v", x), ("p", y)]).bind some) = _
  rw [hresult, Option.bind_fun_some]

/-- After the common power a library knows it, and keeps knowing it as long as nothing is given its
name or one of the language. -/
theorem knows_link (functions : List Function)
    (h : ∀ f ∈ functions, Builtin.ofName? f.name = none ∧ f.name ≠ "pow3") :
    Knows (lanes (K := K) |>.link (pow3 :: functions)) := by
  unfold Reading.link
  induction functions using List.reverseRecOn with
  | nil =>
    refine ⟨fun name f hname xs => ?_, call?_pow3⟩
    -- the common power has no name of the language, so it hides none
    have hne : name ≠ pow3.name := by
      rintro rfl
      cases hname
    simp only [List.foldl_cons, List.foldl_nil, Reading.define, if_neg hne, Reading.builtins, hname]
    rfl
  | append_singleton functions f ih =>
    have hknows := ih fun g hg => h g (List.mem_append_left _ hg)
    obtain ⟨hlanguage, hpower⟩ := h f (by simp)
    rw [← List.cons_append, List.foldl_append]
    refine ⟨fun name g hname xs => ?_, fun x y => ?_⟩
    · have hne : name ≠ f.name := by
        rintro rfl
        rw [hlanguage] at hname
        cases hname
      rw [List.foldl_cons, List.foldl_nil, Reading.define, if_neg hne]
      exact hknows.language name g hname xs
    · rw [List.foldl_cons, List.foldl_nil, Reading.define, if_neg hpower.symm]
      exact hknows.power x y

end Rules

end Colorimetry.Glsl
