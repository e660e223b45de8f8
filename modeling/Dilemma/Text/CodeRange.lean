/-! # Ranges of code points

Character properties are given as lists of ranges, and case mappings as runs
of code points whose counterparts lie side by side. -/

namespace Dilemma.Text

/-- All code points from the first to the last, both included. -/
abbrev CodeRange := Nat × Nat

def CodeRange.contains (range : CodeRange) (code : Nat) : Bool :=
  range.1 ≤ code && code ≤ range.2

/-- The character belongs to one of the ranges. -/
def inTable (table : List CodeRange) (char : Char) : Bool :=
  table.any (·.contains char.toNat)

/-- Every `stride`-th code point from `first` to `last` has a counterpart, as
far behind `target` as the code point is behind `first`. -/
structure CaseRun where
  first : Nat
  last : Nat
  stride : Nat
  target : Nat

def CaseRun.counterpart? (run : CaseRun) (code : Nat) : Option Nat :=
  if run.first ≤ code ∧ code ≤ run.last ∧ (code - run.first) % run.stride = 0 then
    some (run.target + (code - run.first))
  else none

example : (CaseRun.mk 0x100 0x12E 2 0x101).counterpart? 0x102 = some 0x103 := rfl
example : (CaseRun.mk 0x100 0x12E 2 0x101).counterpart? 0x103 = none := rfl

end Dilemma.Text
