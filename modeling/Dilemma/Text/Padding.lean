/-! # Columns of text

Widths count characters. A text that is too wide is never cut. -/

namespace Dilemma.Text

def padRight (width : Nat) (text : String) : String :=
  text ++ String.ofList (List.replicate (width - text.length) ' ')

def padLeft (width : Nat) (text : String) : String :=
  String.ofList (List.replicate (width - text.length) ' ') ++ text

example : padRight 4 "é" = "é   " := by decide +kernel
example : padLeft 2 "abc" = "abc" := by decide +kernel

end Dilemma.Text
