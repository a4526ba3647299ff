import Colorimetry.Yaml.Cell

/-!
# Tags and directives

A tag says how the text of a scalar is to be taken. It is written in full between angle brackets,
or with a handle for its first part. Handles stand for prefixes: `!` for itself and `!!` for the
tags of YAML, unless a directive at the start of the text declares them otherwise (`Directives`).
`tag?` reads a tag and replaces its handle.

Characters of a tag may be escaped as the bytes of their UTF-8 form. Tags are only ever compared
with each other, so a tag is kept as the list of its bytes; it ends before a byte of zero.
-/

namespace Colorimetry.Yaml

/-- The bytes of a tag. -/
abbrev Tag : Type := List UInt8

namespace Tag

/-- A tag of ASCII characters. -/
def ofString (s : String) : Tag := s.toList.map fun c => UInt8.ofNat c.toNat

/-- The tag `!`, which says no more of a scalar than that it is one. -/
def bare : Tag := ofString "!"

/-- The beginning of the tags that YAML itself defines. -/
def corePart : Tag := ofString "tag:yaml.org,2002:"

/-- The tag of a kind of value that YAML defines. -/
def core (kind : String) : Tag := corePart ++ ofString kind

end Tag

/-! ### Characters -/

/-- The value of a hexadecimal digit. -/
def hexValue? (c : Char) : Option Nat :=
  if c.isDigit then some (c.toNat - '0'.toNat)
  else if 'a' ≤ c ∧ c ≤ 'f' then some (c.toNat - 'a'.toNat + 10)
  else if 'A' ≤ c ∧ c ≤ 'F' then some (c.toNat - 'A'.toNat + 10)
  else none

/-- A character that may stand in a tag. Brackets and commas may only between angle brackets and
in a directive (`anywhere`). -/
def isTagCell (anywhere : Bool) (c : Cell) : Bool :=
  c.isWord ||
    [';', '/', '?', ':', '@', '&', '=', '+', '$', '.', '!', '~', '*', '\'', '(', ')', '%'].contains
      c.char ||
    (anywhere && [',', '[', ']'].contains c.char)

/-- How many bytes follow the first byte of a character in UTF-8. -/
def trailing? (first : Nat) : Option Nat :=
  if first < 0x80 then some 0
  else if first < 0xc0 then none
  else if first < 0xe0 then some 1
  else if first < 0xf0 then some 2
  else if first < 0xf8 then some 3
  else none

/-- The bytes of a text in which every percent sign announces a byte by two hexadecimal digits.
The bytes of one character must follow each other (`due` are still to come). -/
def escapedBytes? (due : Nat) : List Char → Option Tag
  | [] => if due = 0 then some [] else none
  | '%' :: a :: b :: rest => do
    let byte := 16 * (← hexValue? a) + (← hexValue? b)
    let due ← match due with
      | 0 => trailing? byte
      | due + 1 => if 0x80 ≤ byte ∧ byte < 0xc0 then some due else none
    return UInt8.ofNat byte :: (← escapedBytes? due rest)
  | c :: rest =>
    if c = '%' ∨ due ≠ 0 then none
    else (escapedBytes? 0 rest).map (UInt8.ofNat c.toNat :: ·)

/-- What was read of a tag, or of a part of one. -/
structure TagText where
  /-- The bytes before the first that is zero. -/
  bytes : Tag
  /-- Whether there was any character. -/
  isWritten : Bool
  /-- What follows. -/
  rest : List Cell

/-- The characters of a tag, or of a part of one. -/
def tagText? (anywhere : Bool) (cells : List Cell) : Option TagText :=
  let written := cells.takeWhile (isTagCell anywhere)
  (escapedBytes? 0 (written.map Cell.char)).map fun bytes =>
    ⟨bytes.takeWhile (· != 0), !written.isEmpty, cells.dropWhile (isTagCell anywhere)⟩

/-! ### Handles -/

/-- What is declared before a document. -/
structure Directives where
  /-- Whether the version has been declared. -/
  version : Bool := false
  /-- The prefixes that are declared for handles. -/
  handles : List (String × Tag) := []

/-- The prefix that a handle stands for. -/
def Directives.expand? (d : Directives) (handle : String) : Option Tag :=
  (d.handles ++ [("!", Tag.bare), ("!!", Tag.corePart)]).lookup handle

/-- A handle behind its exclamation mark, with that mark, and what follows: word characters and a
second mark, if there is one. -/
def tagHandle (cells : List Cell) : String × List Cell :=
  let word := "!" ++ String.ofList ((cells.takeWhile Cell.isWord).map Cell.char)
  match cells.dropWhile Cell.isWord with
  | c :: rest => if c.char = '!' then (word ++ "!", rest) else (word, c :: rest)
  | [] => (word, [])

/-- Whether a handle ends in a second exclamation mark. -/
def isClosedHandle (handle : String) : Bool := decide (2 ≤ handle.length) && handle.endsWith "!"

/-- A tag between angle brackets, behind the first of them, and what follows. -/
def verbatimTag? (cells : List Cell) : Option (Tag × List Cell) :=
  (tagText? true cells).bind fun text =>
    match text.rest with
    | close :: rest =>
      if close.char = '>' ∧ text.isWritten then some (text.bytes, rest) else none
    | [] => none

/-- A tag with a handle, behind its exclamation mark, and what follows. -/
def shorthandTag? (d : Directives) (cells : List Cell) : Option (Tag × List Cell) :=
  let (handle, rest) := tagHandle cells
  (tagText? false rest).bind fun text =>
    if isClosedHandle handle then
      if text.isWritten then (d.expand? handle).map fun start => (start ++ text.bytes, text.rest)
      else none
    else
      let suffix := Tag.ofString (String.ofList (handle.toList.drop 1)) ++ text.bytes
      if suffix.isEmpty then some (Tag.bare, text.rest)
      else (d.expand? "!").map fun start => (start ++ suffix, text.rest)

/-- **A tag behind its exclamation mark**, and what follows: a blank, a line break, nothing, or,
within braces (`flow`), a comma. -/
def tag? (d : Directives) (flow : Bool) (cells : List Cell) : Option (Tag × List Cell) :=
  let read := match cells with
    | c :: rest => if c.char = '<' then verbatimTag? rest else shorthandTag? d cells
    | [] => shorthandTag? d []
  read.bind fun (tag, rest) =>
    if atBlank rest || (flow && atAny [','] rest) then some (tag, rest) else none

/-! ### Directives -/

/-- A number of one to nine digits and what follows. -/
def versionNumber? (cells : List Cell) : Option (Nat × List Cell) :=
  let digits := cells.takeWhile fun c => c.char.isDigit
  if digits.isEmpty ∨ 9 < digits.length then none
  else some (digits.foldl (fun n c => 10 * n + (c.char.toNat - '0'.toNat)) 0,
    cells.dropWhile fun c => c.char.isDigit)

/-- The declaration of the version, which must be 1.1 or 1.2 and may be made once. -/
def versionDirective? (d : Directives) (cells : List Cell) : Option (Directives × List Cell) := do
  let (major, rest) ← versionNumber? (skipBlanks cells)
  match rest with
  | ⟨'.', _, _⟩ :: rest =>
    let (minor, rest) ← versionNumber? rest
    if major = 1 ∧ (minor = 1 ∨ minor = 2) ∧ !d.version then
      some ({ d with version := true }, rest)
    else none
  | _ => none

/-- The declaration of a handle, which may be made once for each handle. -/
def handleDirective? (d : Directives) (cells : List Cell) : Option (Directives × List Cell) :=
  match skipBlanks cells with
  | ⟨'!', _, _⟩ :: rest => do
    let (handle, rest) := tagHandle rest
    let spaced := match rest with
      | c :: _ => c.isBlank
      | [] => false
    let start ← tagText? true (skipBlanks rest)
    if (handle == "!" || isClosedHandle handle) && spaced && start.isWritten &&
        atBlank start.rest && (d.handles.lookup handle).isNone then
      some ({ d with handles := d.handles ++ [(handle, start.bytes)] }, start.rest)
    else none
  | _ => none

/-- A directive behind its percent sign, and what follows its line. A directive of another name is
refused. -/
def directive? (d : Directives) (cells : List Cell) : Option (Directives × List Cell) := do
  let name := (cells.takeWhile Cell.isWord).map Cell.char
  let rest := cells.dropWhile Cell.isWord
  let (d, rest) ←
    if !atBlank rest then none
    else if name = "YAML".toList then versionDirective? d rest
    else if name = "TAG".toList then handleDirective? d rest
    else none
  return (d, ← endLine? rest)

end Colorimetry.Yaml
