/-!
# Shader functions

The fragment of GLSL that transfer functions need: functions of vectors and scalars whose body
declares intermediate values and returns one. A function is a tree (`Function`), so that its
meaning can be computed as well as its text printed.

Operators are printed with the parentheses that their precedence demands and no others
(`Expr.render`): products bind more tightly than sums, and operators of one precedence group to
the left, as the four operators of the tree are read.
-/

namespace Colorimetry.Glsl

/-- The types of values. -/
inductive Ty where
  /-- A scalar. -/
  | float
  /-- Three components. -/
  | vec3
  deriving DecidableEq, Repr

/-- The keyword of a type. -/
def Ty.render : Ty → String
  | .float => "float"
  | .vec3 => "vec3"

/-- A number as it is spelled. -/
inductive Literal where
  /-- Digits with a point: `decimal n k` is `n / 10 ^ k`, spelled with `k` places. -/
  | decimal (digits places : Nat)
  /-- A digit and a negative power of ten: `scientific d k` is `d / 10 ^ k`. -/
  | scientific (digit exponent : Nat)
  deriving DecidableEq, Repr

/-- The spelling of a number. -/
def Literal.render : Literal → String
  | .decimal digits places =>
    let fraction := Nat.toDigits 10 (digits % Nat.pow 10 places)
    toString (digits / Nat.pow 10 places) ++ "." ++
      String.ofList (List.replicate (places - fraction.length) '0' ++ fraction)
  | .scientific digit exponent => toString digit ++ "e-" ++ toString exponent

/-- The operators. -/
inductive Op where
  /-- Sum. -/
  | add
  /-- Difference. -/
  | sub
  /-- Product. -/
  | mul
  /-- Quotient. -/
  | div
  deriving DecidableEq, Repr

/-- The sign of an operator. -/
def Op.render : Op → String
  | .add => "+"
  | .sub => "-"
  | .mul => "*"
  | .div => "/"

/-- How tightly an operator binds. -/
def Op.precedence : Op → Nat
  | .add | .sub => 1
  | .mul | .div => 2

/-- An expression. A call names a function of the language, a function of the library or the
constructor of a vector. -/
inductive Expr where
  /-- A parameter or an intermediate value. -/
  | var (name : String)
  /-- A number. -/
  | lit (value : Literal)
  /-- An operator between two expressions. -/
  | bin (op : Op) (left right : Expr)
  /-- A function applied to arguments. -/
  | call (function : String) (arguments : List Expr)

namespace Expr

/-- An expression in parentheses. -/
def parenthesized (s : String) : String := "(" ++ s ++ ")"

mutual

/-- The text of an expression where an operator must bind at least as tightly as `level`. -/
def renderAt (level : Nat) : Expr → String
  | .var name => name
  | .lit value => value.render
  | .bin op left right =>
    let text := renderAt op.precedence left ++ " " ++ op.render ++ " " ++
      renderAt (op.precedence + 1) right
    if op.precedence < level then parenthesized text else text
  | .call function arguments =>
    function ++ parenthesized (String.intercalate ", " (renderAll arguments))

/-- The texts of arguments. -/
def renderAll : List Expr → List String
  | [] => []
  | e :: rest => renderAt 0 e :: renderAll rest

end

/-- The text of an expression. -/
def render (e : Expr) : String := renderAt 0 e

end Expr

/-- An intermediate value. -/
structure Declaration where
  /-- Whether its value is known before the function runs. -/
  constant : Bool
  /-- The type. -/
  type : Ty
  /-- The name. -/
  name : String
  /-- The value. -/
  value : Expr

/-- The line of a declaration. -/
def Declaration.render (d : Declaration) : String :=
  "    " ++ (if d.constant then "const " else "") ++ d.type.render ++ " " ++ d.name ++ " = " ++
    d.value.render ++ ";\n"

/-- A parameter. -/
structure Parameter where
  /-- The type. -/
  type : Ty
  /-- The name. -/
  name : String
  deriving DecidableEq, Repr

/-- The text of a parameter. -/
def Parameter.render (p : Parameter) : String := p.type.render ++ " " ++ p.name

/-- A function that yields a vector. -/
structure Function where
  /-- The name. -/
  name : String
  /-- The parameters. -/
  parameters : List Parameter
  /-- The intermediate values, in order. -/
  declarations : List Declaration
  /-- The value of the function. -/
  result : Expr

/-- The text of a function. -/
def Function.render (f : Function) : String :=
  Ty.vec3.render ++ " " ++ f.name ++ "(" ++
    String.intercalate ", " (f.parameters.map Parameter.render) ++ ")\n\x7b\n" ++
    String.join (f.declarations.map Declaration.render) ++
    "    return " ++ f.result.render ++ ";\n\x7d\n"

end Colorimetry.Glsl
