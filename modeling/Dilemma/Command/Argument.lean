/-! # Shapes of arguments

What an argument of a command line looks like before its meaning is known. -/

namespace Dilemma

inductive Argument where
  /-- Two hyphens: all that follows is plain. -/
  | escape
  /-- Two hyphens, a name, and perhaps a value after an equals sign. -/
  | long (name : String) (attached : Option String)
  /-- A hyphen and at least one letter. -/
  | short (letters : List Char)
  | plain (text : String)
  deriving DecidableEq, Repr

namespace Argument

/-- The value is whatever follows the first equals sign. -/
def ofLong (text : List Char) : Argument :=
  let name := String.ofList (text.takeWhile (· ≠ '='))
  match text.dropWhile (· ≠ '=') with
  | [] => long name none
  | _ :: value => long name (some (String.ofList value))

/-- A single hyphen is plain. -/
def ofText (text : String) : Argument :=
  match text.toList with
  | ['-', '-'] => escape
  | '-' :: '-' :: rest => ofLong rest
  | '-' :: letter :: rest => short (letter :: rest)
  | _ => plain text

def isPlain : Argument → Bool
  | plain _ => true
  | _ => false

example : ofText "--rounds=a=b" = long "rounds" (some "a=b") := by decide +kernel
example : ofText "-vv" = short ['v', 'v'] := by decide +kernel
example : ofText "-" = plain "-" := by decide +kernel

end Argument

end Dilemma
