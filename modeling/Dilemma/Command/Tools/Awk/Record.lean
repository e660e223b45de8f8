import Dilemma.Command.Tools.Pattern.Matching
import Dilemma.Command.Tools.Pattern.Lenient

/-! # Records

The input is taken record by record. What ends a record does not belong to it. -/

namespace Dilemma.Awk

/-- What ends a record. -/
inductive RecordEnd where
  | mark (char : Char)
  /-- Empty lines, however many; those at the beginning are nothing. -/
  | emptyLines
  | occurrence (matcher : Matcher)

namespace RecordEnd

/-- One character stands for itself. -/
def ofText (text : List Char) : Except PatternError RecordEnd :=
  match text with
  | [] => .ok emptyLines
  | [char] => .ok (mark char)
  | text => (Matcher.parseLenient text).map occurrence

/-- Lines up to an empty one, and what comes behind it. -/
def paragraph : List Char → List Char × List Char
  | [] | ['\n'] => ([], [])
  | '\n' :: '\n' :: rest => ([], rest.dropWhile (· = '\n'))
  | char :: rest =>
      let (lines, rest) := paragraph rest
      (char :: lines, rest)

/-- The first record of a text and what is left; `none` at the end. -/
def take? (recordEnd : RecordEnd) (text : List Char) : Option (List Char × List Char) :=
  if text.isEmpty then none
  else match recordEnd with
    | mark char => some (text.takeWhile (· ≠ char), (text.dropWhile (· ≠ char)).drop 1)
    | emptyLines =>
        match text.dropWhile (· = '\n') with
        | [] => none
        | text => some (paragraph text)
    | occurrence matcher =>
        match matcher.find? text.toArray 0 with
        | some found =>
            if found.isEmpty then some (text, [])
            else some (text.take found.start, text.drop found.finish)
        | none => some (text, [])

end RecordEnd

end Dilemma.Awk
