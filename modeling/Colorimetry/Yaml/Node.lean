import Colorimetry.Yaml.Token

/-!
# Nodes

A node of the mappings that this library reads is a scalar, or an alias that repeats an earlier
one. `items?` gathers the tokens of a node into one item, a scalar with the anchor and the tag
before it; the marks stay as they are. An anchor or a tag with no scalar behind it stands for the
empty scalar. Where a mapping begins behind such an item, the anchor is the mapping's.
-/

namespace Colorimetry.Yaml

/-- A node before aliases are resolved. -/
inductive Node where
  /-- A scalar and its anchor. -/
  | scalar (anchor : Option String) (value : Scalar)
  /-- The name of an anchor. -/
  | alias (name : String)
  deriving DecidableEq, Repr

/-- What was said of a node before it. -/
structure Properties where
  /-- The anchor. -/
  anchor : Option String := none
  /-- The tag. -/
  tag : Option Tag := none
  deriving DecidableEq, Repr

namespace Node

/-- The empty scalar that stands where nothing is written. -/
def ofNothing (p : Properties) : Node := .scalar p.anchor ⟨"", .plain, p.tag⟩

/-- A scalar with its properties. -/
def ofText (p : Properties) (text : List Char) (style : Style) : Node :=
  .scalar p.anchor ⟨String.ofList text, style, p.tag⟩

/-- The node that stands where nothing at all is written. -/
def absent : Node := ofNothing {}

end Node

/-- A node or a mark. -/
inductive Item where
  /-- A node. -/
  | node (node : Node)
  /-- A mark. -/
  | mark (mark : Mark)
  deriving DecidableEq, Repr

/-- The node of properties with no scalar behind them. -/
def Properties.items (p : Properties) : List Item :=
  if p = {} then [] else [.node (.ofNothing p)]

/-- **The items of a list of tokens** that stands behind some properties. A node has one anchor
and one tag at most, in either order, and an alias has neither. -/
def items? (p : Properties) : List Token → Option (List Item)
  | [] => some p.items
  | .mark mark :: rest => (items? {} rest).map fun items => p.items ++ .mark mark :: items
  | .anchor name :: rest =>
    if p.anchor.isSome then none else items? { p with anchor := some name } rest
  | .tag tag :: rest => if p.tag.isSome then none else items? { p with tag := some tag } rest
  | .alias name :: rest =>
    if p = {} then (items? {} rest).map fun items => .node (.alias name) :: items else none
  | .scalar text style :: rest =>
    (items? {} rest).map fun items => .node (.ofText p text style) :: items

end Colorimetry.Yaml
