/-! # Patterns

Regular expressions. Besides the usual operations there are edges, which take
no character, and references, which take again what a group has taken. -/

namespace Dilemma

/-- The characters of some ranges, or all others. -/
structure CharClass where
  negated : Bool
  ranges : List (Char × Char)
  ignoresCase : Bool
  deriving DecidableEq, Repr

namespace CharClass

def literal (char : Char) : CharClass := ⟨false, [(char, char)], false⟩

def ofRanges (ranges : List (Char × Char)) : CharClass := ⟨false, ranges, false⟩

def contains (ranges : List (Char × Char)) (char : Char) : Bool :=
  ranges.any fun (low, high) => low ≤ char && char ≤ high

/-- Only ASCII letters have another case here. Where case does not matter the
ranges are in upper case. -/
def accepts (accepted : CharClass) (char : Char) : Bool :=
  contains accepted.ranges (if accepted.ignoresCase then char.toUpper else char) ^^
    accepted.negated

def digits : List (Char × Char) := [('0', '9')]
def lower : List (Char × Char) := [('a', 'z')]
def upper : List (Char × Char) := [('A', 'Z')]
def blanks : List (Char × Char) := [(' ', ' '), ('\t', '\r')]
def wordRanges : List (Char × Char) := lower ++ upper ++ digits ++ [('_', '_')]

/-- The ranges of a class by its name. -/
def ofName? (name : String) : Option (List (Char × Char)) :=
  match name with
  | "alpha" => some (lower ++ upper)
  | "digit" => some digits
  | "alnum" => some (lower ++ upper ++ digits)
  | "lower" => some lower
  | "upper" => some upper
  | "space" => some blanks
  | "blank" => some [(' ', ' '), ('\t', '\t')]
  | "punct" => some [('!', '/'), (':', '@'), ('[', '\x60'), ('\x7b', '~')]
  | "print" => some [(' ', '~')]
  | "graph" => some [('!', '~')]
  | "cntrl" => some [('\x00', '\x1f'), ('\x7f', '\x7f')]
  | "xdigit" => some (digits ++ [('a', 'f'), ('A', 'F')])
  | _ => none

end CharClass

/-! ## Edges -/

/-- What is known, or asked for, on one side of a place in a text. -/
structure Margin where
  /-- There is a character of a word. -/
  word : Bool
  /-- There is none, which can only be asked for. -/
  noWord : Bool
  /-- A line ends or begins there. -/
  line : Bool
  /-- The text ends or begins there. -/
  border : Bool
  deriving DecidableEq, Repr

namespace Margin

def plain : Margin := ⟨false, false, false, false⟩

def merge (first second : Margin) : Margin :=
  ⟨first.word || second.word, first.noWord || second.noWord, first.line || second.line,
    first.border || second.border⟩

/-- What is asked for is so. -/
def holdsFor (asked known : Margin) : Bool :=
  (!asked.word || known.word) && (!asked.noWord || !known.word) &&
    (!asked.line || known.line) && (!asked.border || known.border)

end Margin

/-- What is asked for on both sides of a place. -/
structure Edge where
  before : Margin
  after : Margin
  deriving DecidableEq, Repr

namespace Edge

def anywhere : Edge := ⟨.plain, .plain⟩
def textStart : Edge := { anywhere with before := { Margin.plain with border := true } }
def textEnd : Edge := { anywhere with after := { Margin.plain with border := true } }
def lineStart : Edge := { anywhere with before := { Margin.plain with line := true } }
def lineEnd : Edge := { anywhere with after := { Margin.plain with line := true } }

def inWord : Margin := { Margin.plain with word := true }
def offWord : Margin := { Margin.plain with noWord := true }

def wordStart : Edge := ⟨offWord, inWord⟩
def wordEnd : Edge := ⟨inWord, offWord⟩
def insideWord : Edge := ⟨inWord, inWord⟩
def outsideWord : Edge := ⟨offWord, offWord⟩

def merge (first second : Edge) : Edge :=
  ⟨first.before.merge second.before, first.after.merge second.after⟩

end Edge

/-! ## Patterns -/

inductive Pattern where
  | nothing
  | one (accepted : CharClass)
  | border (edge : Edge)
  /-- What the group has taken. -/
  | reference (group : Nat)
  | group (number : Nat) (inner : Pattern)
  | sequence (first second : Pattern)
  | either (first second : Pattern)
  /-- As often as possible within the bounds. -/
  | repeated (inner : Pattern) (least : Nat) (most : Option Nat)
  deriving DecidableEq, Repr

namespace Pattern

/-- How many groups there are. -/
def groupCount : Pattern → Nat
  | group _ inner => inner.groupCount + 1
  | sequence first second | either first second => first.groupCount + second.groupCount
  | repeated inner _ _ => inner.groupCount
  | _ => 0

def wordEdge : Pattern := either (border .wordStart) (border .wordEnd)
def noWordEdge : Pattern := either (border .insideWord) (border .outsideWord)

end Pattern

end Dilemma
