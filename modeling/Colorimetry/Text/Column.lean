/-!
# Columns

Text filled up with spaces to the width of a column. A text that is wider than its column stays
as it is.
-/

namespace Colorimetry.Text

/-- Spaces in front, so that the text ends where its column ends. -/
def alignRight (width : Nat) (s : String) : String :=
  String.ofList (List.replicate (width - s.length) ' ') ++ s

/-- Spaces behind, so that the text fills its column. -/
def alignLeft (width : Nat) (s : String) : String :=
  s ++ String.ofList (List.replicate (width - s.length) ' ')

end Colorimetry.Text
