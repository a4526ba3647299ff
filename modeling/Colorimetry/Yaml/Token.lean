import Colorimetry.Yaml.Scalar

/-!
# Tokens

`tokens?` cuts a text into its tokens: scalars, aliases and what is said of a node before it
(`Token`), and the marks that show how the nodes are arranged (`Mark`). Most marks are characters
of the text. Three are not, and are found from the places of the characters:

* `blockStart` and `blockEnd` enclose a block mapping. It begins with a key that is indented
  further than those of the mapping around it, and ends before a line that is indented less.
* `key` stands before a key. A question mark announces one, but mostly it is the colon behind the
  key that shows that there was one. The tokens that may be a key are therefore held back
  (`Held`) until a colon follows or can follow no longer, which is at the end of the line and
  1024 characters on.

In the column of its keys a block mapping can only go on with a key, so tokens held back there
must turn out to be one (`Held.required`). The two kinds of block scalars are never held back.

Sequences have no tokens, and braces no braces within them: a text with either is refused.
-/

namespace Colorimetry.Yaml

/-- A mark of the arrangement of the nodes. -/
inductive Mark where
  /-- A directive, which has been obeyed. -/
  | directive
  /-- Three dashes. -/
  | documentStart
  /-- Three points. -/
  | documentEnd
  /-- The start of a block mapping. -/
  | blockStart
  /-- The end of a block mapping. -/
  | blockEnd
  /-- An opening brace. -/
  | braceOpen
  /-- A closing brace. -/
  | braceClose
  /-- A comma within braces. -/
  | comma
  /-- The start of a key. -/
  | key
  /-- A colon. -/
  | value
  deriving DecidableEq, Repr

/-- A token. -/
inductive Token where
  /-- A mark. -/
  | mark (mark : Mark)
  /-- An anchor by which later nodes refer to a node. -/
  | anchor (name : String)
  /-- A tag. -/
  | tag (tag : Tag)
  /-- The name of an anchor in the place of a node. -/
  | alias (name : String)
  /-- The text of a scalar. -/
  | scalar (text : List Char) (style : Style)
  deriving DecidableEq, Repr

/-- The name of an anchor behind its sign, and what follows. A name is not empty and ends before a
blank, a line break or one of a few indicators. -/
def anchorName? (cells : List Cell) : Option (String × List Cell) :=
  let name := cells.takeWhile Cell.isWord
  let rest := cells.dropWhile Cell.isWord
  if name.isEmpty then none
  else if atBlank rest || atAny ['?', ':', ',', ']', '}', '%', '@', '\x60'] rest then
    some (String.ofList (name.map Cell.char), rest)
  else none

/-! ### Keys and columns -/

/-- Tokens that are a key if a colon follows. -/
structure Held where
  /-- Where the first of them begins. -/
  start : Cell
  /-- Whether there must be a key in their place. -/
  required : Bool
  /-- The tokens. -/
  tokens : List Token

/-- How many characters a key may be away from its colon. -/
def keyReach : Nat := 1024

/-- Whether a colon in a place can make a key of what is held back. -/
def Held.reaches (h : Held) (place : Cell) : Bool :=
  h.start.line == place.line && decide (place.column ≤ h.start.column + keyReach)

/-- What is known between two tokens. -/
structure Lexer where
  /-- The columns of the block mappings that have not ended, the innermost first. -/
  columns : List Nat := []
  /-- Whether a brace is open. -/
  braces : Bool := false
  /-- Whether a key may begin here. -/
  fresh : Bool := true
  /-- The tokens that are held back. -/
  held : Option Held := none
  /-- What has been declared. -/
  directives : Directives := {}

/-- What becomes of a lexer and a text by one token, and the tokens that are complete then. -/
structure Step where
  /-- The tokens. -/
  tokens : List Token
  /-- What is known. -/
  lexer : Lexer
  /-- What follows. -/
  rest : List Cell

namespace Lexer

/-- The tokens that are held back, which no colon makes a key any more; none if they had to be
one. -/
def release? (s : Lexer) : Option (List Token × Lexer) :=
  match s.held with
  | none => some ([], s)
  | some h => if h.required then none else some (h.tokens, { s with held := none })

/-- Where a key begins in a column, a block mapping begins too if it is indented further than the
innermost one. -/
def openAt (s : Lexer) (column : Nat) : List Token × Lexer :=
  if !s.braces && s.columns.head?.all (· < column) then
    ([.mark .blockStart], { s with columns := column :: s.columns })
  else ([], s)

/-- The block mappings whose keys stand in a column or further to the right end. -/
def closeFrom (s : Lexer) (column : Nat) : List Token × Lexer :=
  if s.braces then ([], s)
  else
    let ends := s.columns.takeWhile (column ≤ ·)
    (ends.map fun _ => .mark .blockEnd, { s with columns := s.columns.drop ends.length })

/-- What the place of the next token ends: the wait for a colon that cannot reach the tokens held
back, and the mappings that are indented further. -/
def arriveAt? (s : Lexer) (place : Cell) : Option (List Token × Lexer) :=
  let released := match s.held with
    | some h => if h.reaches place then some ([], s) else s.release?
    | none => some ([], s)
  released.map fun (tokens, s) =>
    let (ends, s) := s.closeFrom (place.column + 1)
    (tokens ++ ends, s)

/-- A token of a node. Where a key may begin it is held back, and behind one that is held back it
is held back too. -/
def nodeToken? (s : Lexer) (start : Cell) (token : Token) (fresh : Bool) (rest : List Cell) :
    Option Step :=
  if s.fresh then
    s.release?.map fun (tokens, s) =>
      let required := !s.braces && s.columns.head? == some start.column
      ⟨tokens, { s with fresh, held := some ⟨start, required, [token]⟩ }, rest⟩
  else
    match s.held with
    | some h =>
      let held := { h with tokens := h.tokens ++ [token] }
      some ⟨[], { s with fresh, held := some held }, rest⟩
    | none => some ⟨[token], { s with fresh }, rest⟩

/-- A token that is no part of a key. -/
def loneToken? (s : Lexer) (token : Token) (fresh : Bool) (rest : List Cell) : Option Step :=
  s.release?.map fun (tokens, s) => ⟨tokens ++ [token], { s with fresh }, rest⟩

/-- A question mark that announces a key. -/
def keyMark? (s : Lexer) (place : Cell) (rest : List Cell) : Option Step :=
  if s.braces || s.fresh then
    s.release?.map fun (tokens, s) =>
      let (opened, s) := s.openAt place.column
      ⟨tokens ++ opened ++ [.mark .key], { s with fresh := !s.braces }, rest⟩
  else none

/-- A colon: of the key that is held back, if there is one. -/
def valueMark? (s : Lexer) (place : Cell) (rest : List Cell) : Option Step :=
  match s.held with
  | some h =>
    let (opened, s) := s.openAt h.start.column
    let tokens := opened ++ .mark .key :: h.tokens ++ [.mark .value]
    some ⟨tokens, { s with held := none, fresh := false }, rest⟩
  | none =>
    if s.braces || s.fresh then
      let (opened, s) := s.openAt place.column
      some ⟨opened ++ [.mark .value], { s with fresh := !s.braces }, rest⟩
    else none

/-! ### One token -/

/-- A brace or a comma. -/
def punctuation? (s : Lexer) (c : Cell) (rest : List Cell) : Option Step :=
  match c.char, s.braces with
  | '{', false => { s with braces := true }.loneToken? (.mark .braceOpen) true rest
  | '}', true =>
    (s.loneToken? (.mark .braceClose) false rest).map fun step =>
      { step with lexer := { step.lexer with braces := false } }
  | ',', true => s.loneToken? (.mark .comma) true rest
  | _, _ => none

/-- A scalar, an alias, an anchor or a tag. -/
def content? (s : Lexer) (c : Cell) (rest : List Cell) : Option Step :=
  let parent := s.columns.head?
  match c.char with
  | '*' => (anchorName? rest).bind fun (name, rest) => s.nodeToken? c (.alias name) false rest
  | '&' => (anchorName? rest).bind fun (name, rest) => s.nodeToken? c (.anchor name) false rest
  | '!' =>
    (tag? s.directives s.braces rest).bind fun (tag, rest) => s.nodeToken? c (.tag tag) false rest
  | '\'' =>
    (singleQuoted .empty rest).bind fun (text, rest) =>
      s.nodeToken? c (.scalar text .quoted) false rest
  | '"' =>
    (doubleQuoted .empty .closed rest).bind fun (text, rest) =>
      s.nodeToken? c (.scalar text .quoted) false rest
  | '|' =>
    if s.braces then none
    else (block true parent rest).bind fun (text, rest) =>
      s.loneToken? (.scalar text .literal) true rest
  | '>' =>
    if s.braces then none
    else (block false parent rest).bind fun (text, rest) =>
      s.loneToken? (.scalar text .quoted) true rest
  | _ =>
    if beginsPlain s.braces (c :: rest) then
      (plain s.braces (parent.elim 0 (· + 1)) .empty (c :: rest)).bind fun t =>
        s.nodeToken? c (.scalar t.text .plain) t.fresh t.rest
    else none

/-- A mark that no mapping reaches across. -/
def boundary? (s : Lexer) (mark : Mark) (rest : List Cell) : Option Step :=
  s.release?.map fun (tokens, s) =>
    let (ends, s) := s.closeFrom 0
    ⟨tokens ++ ends ++ [.mark mark], { s with fresh := false }, rest⟩

/-- The token that begins with a character. -/
def next? (s : Lexer) (c : Cell) (rest : List Cell) : Option Step :=
  if c.char = '%' ∧ c.column = 0 then
    (directive? s.directives rest).bind fun (directives, rest) =>
      { s with directives }.boundary? .directive rest
  else if atTriple '-' (c :: rest) then s.boundary? .documentStart (rest.drop 2)
  else if atTriple '.' (c :: rest) then s.boundary? .documentEnd (rest.drop 2)
  else if ['{', '}', ','].contains c.char then s.punctuation? c rest
  else if c.char = '?' ∧ (s.braces ∨ atBlank rest) then s.keyMark? c rest
  else if c.char = ':' ∧ (s.braces ∨ atBlank rest) then s.valueMark? c rest
  else s.content? c rest

end Lexer

/-- **The tokens of a text.** -/
def tokens? (s : Lexer) (cells : List Cell) : Option (List Token) :=
  let (fresh, here) := skip s.braces s.fresh false cells
  match here with
  | [] => s.release?.map fun (tokens, s) => tokens ++ (s.closeFrom 0).1
  | c :: rest => do
    let (ended, s) ← { s with fresh }.arriveAt? c
    let step ← s.next? c rest
    if _h : step.rest.length < cells.length then
      return ended ++ step.tokens ++ (← tokens? step.lexer step.rest)
    else none
termination_by cells.length

end Colorimetry.Yaml
