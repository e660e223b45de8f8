/-! # Lines

A mark ends a line, usually a line feed. The last line may do without one. -/

namespace Dilemma.Text

def linesBy (mark : Char) : List Char → List (List Char)
  | [] => []
  | char :: rest =>
      if char = mark then [] :: linesBy mark rest
      else match linesBy mark rest with
        | [] => [[char]]
        | line :: others => (char :: line) :: others

def lines (text : List Char) : List (List Char) := linesBy '\n' text

example : lines "ab\n\nc".toList = ["ab".toList, [], "c".toList] := rfl
example : lines "ab\n".toList = ["ab".toList] := rfl

end Dilemma.Text
