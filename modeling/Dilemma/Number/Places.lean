import Dilemma.Number.Decimal

/-! # Places and significant digits

Notations with a given number of places after the point, or of significant
digits. Every digit is rounded once from the exact value, a tie going to the
even neighbour. -/

namespace Dilemma

namespace Decimal

/-- The multiple of `10 ^ exponent` nearest to a magnitude. -/
def nearestMultiple (rank : Nat) (exponent : Int) : Nat :=
  let step := fraction ⟨1, exponent⟩
  Binary64.roundQuotient (Binary64.units rank * step.2) step.1

def fixed (places rank : Nat) : Decimal :=
  ⟨nearestMultiple rank (-places), -places⟩

/-- The nearest decimal with so many significant digits. Rounding up can give
one more digit, which is a zero. -/
def significant (count rank : Nat) : Decimal :=
  if rank = 0 then ⟨0, 1 - count⟩
  else
    let exponent := leadingExponent (Binary64.units rank) - (count - 1 : Int)
    let digits := nearestMultiple rank exponent
    if digits = tenTo count then ⟨tenTo (count - 1), exponent + 1⟩ else ⟨digits, exponent⟩

/-- The digits of a decimal, with zeros in front of them if there are fewer. -/
def paddedDigits (count : Nat) (value : Decimal) : List Char :=
  List.replicate (count - value.digitList.length) '0' ++ value.digitList

/-- One digit, the others after a point, and an exponent of two digits or more. -/
def withExponent (count : Nat) (value : Decimal) : List Char :=
  let mantissa := match value.paddedDigits count with
    | [] => []
    | [digit] => [digit]
    | digit :: rest => digit :: '.' :: rest
  let leading := value.exponent + (count - 1 : Int)
  let exponent := Nat.toDigits 10 leading.natAbs
  mantissa ++ 'e' :: (if leading < 0 then '-' else '+') ::
    (List.replicate (2 - exponent.length) '0' ++ exponent)

/-- Drop the zeros at the end of the places, and a point without any. -/
def withoutZeros (text : List Char) : List Char :=
  if text.contains '.' then
    match (text.reverse.dropWhile (· = '0')) with
    | '.' :: rest => rest.reverse
    | rest => rest.reverse
  else text

/-- Significant digits without zeros at the end, with an exponent only if it
is less than -4 or not less than the number of digits. -/
def general (count rank : Nat) : List Char :=
  let count := max count 1
  let value := significant count rank
  let leading := value.exponent + (count - 1 : Int)
  if leading < -4 ∨ count ≤ leading then
    let text := value.withExponent count
    withoutZeros (text.takeWhile (· ≠ 'e')) ++ text.dropWhile (· ≠ 'e')
  else withoutZeros (fixed (count - 1 - leading).toNat rank).plain

end Decimal

namespace Binary64

/-- The whole part, without what comes after the point. -/
def truncated : Binary64 → Option Int
  | finite negative rank => some (signed negative (units rank / oneUnits))
  | _ => none

def isWhole : Binary64 → Bool
  | finite _ rank => units rank % oneUnits = 0
  | _ => false

end Binary64

end Dilemma
