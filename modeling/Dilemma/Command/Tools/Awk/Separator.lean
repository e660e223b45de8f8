import Dilemma.Command.Tools.Awk.Value
import Dilemma.Command.Tools.Pattern.Matching
import Dilemma.Command.Tools.Pattern.Lenient

/-! # Separators

How lines and other texts are split into fields. -/

namespace Dilemma.Awk

/-- What separates fields. -/
inductive Separator where
  /-- Stretches of blanks, those at the ends not counting. -/
  | blanks
  | single (char : Char)
  | found (matcher : Matcher)
  /-- Every character is a field. -/
  | nowhere

namespace Separator

/-- One character stands for itself, unless it is a blank. -/
def ofText (text : List Char) : Except PatternError Separator :=
  match text with
  | [] => .ok nowhere
  | [' '] => .ok blanks
  | [char] => .ok (single char)
  | text => (Matcher.parseLenient text).map found

def words : List Char → List (List Char)
  | [] => []
  | char :: rest =>
      if Value.isBlank char then words rest
      else match rest, words rest with
        | next :: _, word :: others =>
            if Value.isBlank next then [char] :: word :: others else (char :: word) :: others
        | _, others => [char] :: others

def splitAtChar (separator : Char) : List Char → List (List Char)
  | [] => [[]]
  | char :: rest =>
      if char = separator then [] :: splitAtChar separator rest
      else match splitAtChar separator rest with
        | [] => [[char]]
        | part :: others => (char :: part) :: others

/-- The parts between matches, of which empty ones do not count. `part` is
what has been passed since the last one, nearest first, and `fuel` bounds the
number of characters. -/
def splitAtMatches (matcher : Matcher) (text : Array Char) :
    (fuel : Nat) → (part : List Char) → (place : Nat) → List (List Char)
  | 0, part, _ => [part.reverse]
  | fuel + 1, part, place =>
      match text[place]? with
      | some char =>
          let finish := (matcher.finishFrom? text place).getD place
          if place < finish then part.reverse :: splitAtMatches matcher text fuel [] finish
          else splitAtMatches matcher text fuel (char :: part) (place + 1)
      | none => [part.reverse]

/-- An empty text has no parts. -/
def split (separator : Separator) (text : List Char) : List (List Char) :=
  if text.isEmpty then []
  else match separator with
    | blanks => words text
    | single char => splitAtChar char text
    | found matcher => splitAtMatches matcher text.toArray (text.length + 1) [] 0
    | nowhere => text.map ([·])

end Separator

end Dilemma.Awk
