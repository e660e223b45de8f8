import Dilemma.Command.Tools.Pattern.Matching

/-! # Replacement

The matches of a text are replaced from left to right. Right after a match
there is no empty one, so that a pattern that can take nothing is found once
between two characters. -/

namespace Dilemma.Matcher

/-- Which matches are replaced, counted from one, and by what. -/
structure Replacement where
  first : Nat
  /-- All matches after the first are replaced too. -/
  everywhere : Bool
  replace : Found → List Char

/-- The text from a place on with its matches replaced, and how many there
were. `number` is the number of the next match, which cannot be empty at
`last`, the end of the previous one. `fuel` bounds the number of matches. -/
def replaceFrom (matcher : Matcher) (replacement : Replacement) (text : Text) :
    (fuel number : Nat) → (last : Option Nat) → (place : Nat) → List Char × Nat
  | 0, _, _, place => ((text.extract place text.size).toList, 0)
  | fuel + 1, number, last, place =>
      match matcher.find? text place with
      | none => ((text.extract place text.size).toList, 0)
      | some found =>
          let isRepeat := found.isEmpty && last = some found.start
          let chosen := !isRepeat && replacement.first ≤ number
          let taken := (text.extract place found.start).toList ++
            (if chosen then replacement.replace found else found.chars)
          let number := if isRepeat then number else number + 1
          let (rest, count) :=
            if chosen && !replacement.everywhere then
              ((text.extract found.finish text.size).toList, 0)
            else if found.isEmpty then
              match text[found.finish]? with
              | some char =>
                  let (rest, count) :=
                    replaceFrom matcher replacement text fuel number last (found.finish + 1)
                  (char :: rest, count)
              | none => ([], 0)
            else
              replaceFrom matcher replacement text fuel number (some found.finish) found.finish
          (taken ++ rest, if chosen then count + 1 else count)

def replaceIn (matcher : Matcher) (replacement : Replacement) (text : List Char) :
    List Char × Nat :=
  matcher.replaceFrom replacement text.toArray (text.length + 1) 1 none 0

end Dilemma.Matcher
