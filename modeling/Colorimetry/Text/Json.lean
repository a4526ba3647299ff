import Colorimetry.Number.Style

/-!
# JSON reports

A report for programs: the values that a report consists of (`Json`) and their text
(`Json.pretty`). Every element of an array and every field of an object has a line of its own,
indented by two spaces for each level; the fields stand in the order in which the report lists
them. A number that is not finite has no JSON text and is written as null.
-/

namespace Colorimetry.Text

/-- A value of a report. -/
inductive Json where
  /-- No value. -/
  | null
  /-- A truth value. -/
  | bool (b : Bool)
  /-- A number. -/
  | number (x : Float32)
  /-- A text. -/
  | string (s : String)
  /-- A sequence of values. -/
  | array (elements : List Json)
  /-- Named values, in order. -/
  | object (fields : List (String × Json))

namespace Json

/-- An array of numbers. -/
def numbers (xs : List Float32) : Json := .array (xs.map .number)

/-- A character as it stands between quotes: only quotes, backslashes and control characters are
escaped. -/
def escapeChar (c : Char) : String :=
  match c with
  | '"' => "\\\""
  | '\\' => "\\\\"
  | '\n' => "\\n"
  | '\r' => "\\r"
  | '\t' => "\\t"
  | '\x08' => "\\b"
  | '\x0c' => "\\f"
  | c =>
    if c.toNat < 0x20 then
      "\\u00" ++ (if c.toNat < 0x10 then "0" else "") ++ String.ofList (Nat.toDigits 16 c.toNat)
    else c.toString

/-- A text between quotes. -/
def quote (s : String) : String := "\"" ++ String.join (s.toList.map escapeChar) ++ "\""

/-- The start of a line at a given level. -/
def newline (level : Nat) : String := "\n" ++ String.ofList (List.replicate (2 * level) ' ')

/-- The lines of a bracketed sequence at a given level. -/
def bracketed (opening closing : String) (level : Nat) (items : List String) : String :=
  if items.isEmpty then opening ++ closing
  else
    opening ++ String.intercalate "," (items.map (newline (level + 1) ++ ·)) ++ newline level ++
      closing

mutual

/-- The text of a value whose first line starts at a given level. -/
def prettyAt (level : Nat) : Json → String
  | .null => "null"
  | .bool b => if b then "true" else "false"
  | .number x => Number.Style.json.format x
  | .string s => quote s
  | .array elements => bracketed "[" "]" level (prettyElements (level + 1) elements)
  | .object fields => bracketed "\x7b" "\x7d" level (prettyFields (level + 1) fields)

/-- The texts of the elements of an array. -/
def prettyElements (level : Nat) : List Json → List String
  | [] => []
  | v :: rest => prettyAt level v :: prettyElements level rest

/-- The texts of the fields of an object. -/
def prettyFields (level : Nat) : List (String × Json) → List String
  | [] => []
  | (name, v) :: rest => (quote name ++ ": " ++ prettyAt level v) :: prettyFields level rest

end

/-- The text of a report. -/
def pretty (v : Json) : String := prettyAt 0 v

end Json

end Colorimetry.Text
