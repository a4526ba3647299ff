import Colorimetry.Number.Literal
import Colorimetry.Yaml.Scalar

/-!
# What a scalar stands for

A scalar stands for a text, unless a truth value, a number or nothing at all is wanted in its
place: then its spelling decides, and only a plain scalar is looked at, or a literal block that is
tagged with the kind of value that is wanted. The words for nothing are those of the core schema
of YAML, with which an empty plain scalar counts too.

`looksTyped` is the other side: it says of a text whether a plain scalar with that text could be
taken for something else, so that a writer has to quote it.
-/

namespace Colorimetry.Yaml

/-! ### Spellings -/

/-- A word for nothing. -/
def isNullWord (s : String) : Bool := s == "null" || s == "Null" || s == "NULL" || s == "~"

/-- The truth value that a word stands for. -/
def boolOfWord? (s : String) : Option Bool :=
  if s = "true" ∨ s = "True" ∨ s = "TRUE" then some true
  else if s = "false" ∨ s = "False" ∨ s = "FALSE" then some false
  else none

/-- The characters of a number without its plus sign; a second sign is refused. -/
def withoutPlus? : List Char → Option (List Char)
  | '+' :: rest => if rest.head? = some '+' ∨ rest.head? = some '-' then none else some rest
  | cs => some cs

/-- A number: infinity and the undefined value by their names in YAML, or a decimal literal. A
literal that is too great for binary64 is refused. -/
def numberOfText? (s : String) : Option Number.Literal :=
  (withoutPlus? s.toList).bind fun cs =>
    let unsigned := String.ofList cs
    if unsigned = ".inf" ∨ unsigned = ".Inf" ∨ unsigned = ".INF" then some (.infinite false)
    else if s = "-.inf" ∨ s = "-.Inf" ∨ s = "-.INF" then some (.infinite true)
    else if s = ".nan" ∨ s = ".NaN" ∨ s = ".NAN" then some .nan
    else
      match Number.Literal.read unsigned with
      | .ok literal =>
        if literal.doubleBits < Number.Format.binary64.infinity then some literal else none
      | .error _ => none

/-! ### Readings of a scalar -/

namespace Scalar

/-- Whether a value is present at all. A quoted or tagged text always is, but for a plain scalar
that is tagged as nothing: that one must be a word for nothing. -/
def isPresent? (s : Scalar) : Option Bool :=
  match s.style, s.tag with
  | .plain, none => some (!(s.text.isEmpty || isNullWord s.text))
  | .plain, some tag =>
    if tag = Tag.core "null" then if isNullWord s.text then some false else none
    else some true
  | _, _ => some true

/-- The spelling of a value of a given kind. -/
def spelling? (kind : String) (s : Scalar) : Option String :=
  match s.style with
  | .plain => some s.text
  | .literal => if s.tag = some (Tag.core kind) then some s.text else none
  | .quoted => none

/-- A truth value. -/
def bool? (s : Scalar) : Option Bool := (s.spelling? "bool").bind boolOfWord?

/-- A number. -/
def number? (s : Scalar) : Option Number.Literal := (s.spelling? "float").bind numberOfText?

end Scalar

/-! ### Texts that need quotes -/

/-- The number that digits of a base stand for; nothing if there is none, or one that is no digit.
-/
def digitsOfBase? (base : Nat) (cs : List Char) : Option Nat :=
  if cs.isEmpty then none
  else cs.foldlM (fun n c =>
    (hexValue? c).bind fun digit => if digit < base then some (base * n + digit) else none) 0

/-- A base that a letter behind a zero announces. -/
def baseOfLetter? : Char → Option Nat
  | 'x' => some 16
  | 'o' => some 8
  | 'b' => some 2
  | _ => none

/-- An integer of 128 bits in another base than ten: with a minus sign down to `-2 ^ 127`, without
one, or with a plus sign, below `2 ^ 128`. -/
def isBasedInteger (cs : List Char) : Bool :=
  let (negative, unsigned) := Number.Literal.splitSign cs
  match unsigned with
  | '0' :: letter :: digits =>
    match (baseOfLetter? letter).bind fun base => digitsOfBase? base digits with
    | some n => if negative then decide (n ≤ Nat.pow 2 127) else decide (n < Nat.pow 2 128)
    | none => false
  | _ => false

/-- Digits that begin with a needless zero. They are no number, and could be taken for one. -/
def isPaddedInteger (cs : List Char) : Bool :=
  match (Number.Literal.splitSign cs).2 with
  | '0' :: c :: rest => (c :: rest).all Char.isDigit
  | _ => false

/-- **Whether a plain scalar with a text could be taken for something else**: for nothing, a truth
value or a number. -/
def looksTyped (s : String) : Bool :=
  s.isEmpty || isNullWord s || (boolOfWord? s).isSome || isBasedInteger s.toList ||
    isPaddedInteger s.toList || (numberOfText? s).isSome

end Colorimetry.Yaml
