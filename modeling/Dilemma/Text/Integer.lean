/-! # Whole numbers in texts

Readers accept an optional sign and then ASCII digits only, and refuse what
lies outside of the given range. -/

namespace Dilemma.Text

def digitValue? (char : Char) : Option Nat :=
  if '0' ≤ char ∧ char ≤ '9' then some (char.toNat - '0'.toNat) else none

/-- The value of a list of digits read after `value`. -/
def digitsFrom? (value : Nat) : List Char → Option Nat
  | [] => some value
  | char :: rest => do digitsFrom? (value * 10 + (← digitValue? char)) rest

/-- At least one digit and nothing else. -/
def digits? : List Char → Option Nat
  | [] => none
  | text => digitsFrom? 0 text

/-- A number below `bound`; a leading `+` is allowed. -/
def natural? (bound : Nat) (text : List Char) : Option Nat := do
  let value ← digits? (match text with | '+' :: rest => rest | text => text)
  if value < bound then some value else none

/-- A number from `-bound` up to but excluding `bound`. -/
def integer? (bound : Nat) (text : List Char) : Option Int := do
  match text with
  | '-' :: rest =>
      let value ← digits? rest
      if value ≤ bound then some (-value) else none
  | text => (natural? bound text).map Int.ofNat

example : natural? UInt32.size "+007".toList = some 7 := rfl
example : natural? UInt32.size "4294967296".toList = none := by decide +kernel
example : natural? 10 "-0".toList = none := rfl
example : integer? 8 "-8".toList = some (-8) := rfl
example : integer? 8 "+".toList = none := rfl

def natural (value : Nat) : List Char := Nat.toDigits 10 value

def integer (value : Int) : List Char :=
  if value < 0 then '-' :: natural value.natAbs else natural value.natAbs

example : integer (-12) = "-12".toList := rfl

end Dilemma.Text
