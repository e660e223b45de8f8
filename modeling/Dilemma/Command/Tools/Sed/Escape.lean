import Dilemma.Command.Tools.Pattern.Reader

/-! # Escapes in scripts

A backslash in front of a letter can stand for a character that is not easily
written: by its name, by its code, or by the control key. Such characters are
put in before a text is read in any other way. -/

namespace Dilemma.Sed

/-- What a text is for. A character that would have a meaning there is
protected by a backslash. -/
inductive TextUse where
  | pattern
  | replacement
  | exchange
  /-- Here all backslashes are left out. -/
  | addition
  deriving DecidableEq, Repr

namespace TextUse

/-- A character that has been put in by its code. -/
def encoded (use : TextUse) (char : Char) : List Char :=
  match use, char with
  | .replacement, '\\' | .replacement, '&' | .exchange, '\\' => ['\\', char]
  | _, char => [char]

/-- A backslash that does not stand for anything, and the next character. -/
def kept (use : TextUse) (char : Char) : List Char :=
  if use = addition then [char] else ['\\', char]

end TextUse

/-- The character that is typed with a control key. -/
def controlChar (char : Char) : Char :=
  let code := char.toUpper.toNat
  Char.ofNat (if code / 64 % 2 = 0 then code + 64 else code - 64)

example : controlChar 'a' = '\x01' := by decide +kernel
example : controlChar '\n' = 'J' := by decide +kernel

/-- The base that a letter stands for, and how many digits a code has in it. -/
def codeBase? : Char → Option (Nat × Nat)
  | 'd' => some (10, 3)
  | 'o' => some (8, 3)
  | 'x' => some (16, 2)
  | _ => none

/-- Where a class is in a pattern that is read strictly, in which a backslash
has no meaning there. -/
inductive ClassState where
  | outside
  | inside
  | named (mark : Char)
  deriving DecidableEq, Repr

/-- The state after a character; the characters before it come nearest first. -/
def ClassState.next (state : ClassState) (before : List Char) (char : Char) : ClassState :=
  match state, char with
  | outside, '[' => inside
  | inside, ']' => outside
  | inside, char =>
      if char ∈ [':', '.', '='] ∧ before.head? = some '[' then named char else inside
  | named mark, ']' =>
      if before.head? = some mark ∧ (before.drop 1).head? ≠ some mark then inside else named mark
  | state, _ => state

/-- A text with all escapes put in; `none` if there is an escape behind the
letter for the control key. `fuel` bounds the number of characters. -/
def insertedFrom (use : TextUse) (strict : Bool) :
    (fuel : Nat) → ClassState → (before : List Char) → List Char → Option (List Char)
  | 0, _, _, _ | _, _, _, [] => some []
  | fuel + 1, .outside, _, '\\' :: char :: rest =>
      let andThen (taken rest : List Char) : Option (List Char) :=
        (insertedFrom use strict fuel .outside [char] rest).map (taken ++ ·)
      match char, rest with
      | 'c', [] => some ['\\']
      | 'c', '\\' :: '\\' :: rest => andThen [controlChar '\\'] rest
      | 'c', '\\' :: _ => none
      | 'c', char :: rest => andThen [controlChar char] rest
      | char, rest =>
          match codeBase? char, Pattern.commonEscape char with
          | some (base, count), _ =>
              match Pattern.codeChar? base count rest with
              | some (char, rest) => andThen (use.encoded char) rest
              | none => andThen [char] rest
          | none, .char meant =>
              andThen (if meant = char then use.kept char else [meant]) rest
          | none, _ => andThen (use.kept char) rest
  | fuel + 1, state, before, char :: rest =>
      let state := if strict && use = .pattern then state.next before char else .outside
      (insertedFrom use strict fuel state (char :: before.take 1) rest).map (char :: ·)

def inserted? (use : TextUse) (strict : Bool) (text : List Char) : Option (List Char) :=
  insertedFrom use strict text.length .outside [] text

end Dilemma.Sed
