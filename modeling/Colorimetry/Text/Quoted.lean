import Colorimetry.Text.Glyph

/-!
# Quoted texts in messages

A name that a message reports as unknown is shown between double quotes, so that a name with a
blank at its end, an empty name, or a name with an invisible character can be told from what was
meant. Quotes and backslashes are escaped, the common control characters have escapes of one
letter, and every other character without a glyph of its own is written by its code.
-/

namespace Colorimetry.Text

/-- A code in lower-case hexadecimal digits between braces. -/
def escapeCode (c : Char) : String :=
  "\\u\x7b" ++ String.ofList (Nat.toDigits 16 c.toNat) ++ "\x7d"

/-- A character as it stands between quotes. -/
def escapeChar (c : Char) : String :=
  match c with
  | '"' => "\\\""
  | '\\' => "\\\\"
  | '\n' => "\\n"
  | '\r' => "\\r"
  | '\t' => "\\t"
  | '\x00' => "\\0"
  | c => if isUnseen c || isCombining c then escapeCode c else c.toString

/-- A text between quotes. -/
def quote (s : String) : String := "\"" ++ String.join (s.toList.map escapeChar) ++ "\""

end Colorimetry.Text
