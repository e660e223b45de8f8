import Dilemma.Number.Power

/-! # Binary floating-point numbers of 64 bits

Rules compute with these numbers. A finite number is a sign and a rank: the
magnitudes of the format, numbered from zero upwards. Every magnitude is a
whole number of units of `2 ^ -1074`, so the arithmetic here is exact integer
arithmetic followed by one rounding to the nearest magnitude, a tie going to
the even rank. No machine float takes part.
-/

namespace Dilemma

/-- The magnitudes that share an exponent differ in 52 bits. -/
abbrev Binary64.fractionCount : Nat := 0x10000000000000

/-- How many finite magnitudes the format has: 2047 exponents with all
fractions each. -/
abbrev Binary64.rankCount : Nat := 2047 * fractionCount

inductive Binary64 where
  | finite (negative : Bool) (rank : Fin Binary64.rankCount)
  | infinite (negative : Bool)
  | notANumber
  deriving DecidableEq, Repr, Inhabited

namespace Binary64

/-! ## Magnitudes -/

/-- One, counted in units. -/
def oneUnits : Nat := twoTo 1074

/-- The magnitude of a rank, in units. For the first two exponents ranks count
units; after that the step doubles with every exponent. -/
def units (rank : Nat) : Nat :=
  if rank < 2 * fractionCount then rank
  else (fractionCount + rank % fractionCount) * twoTo (rank / fractionCount - 1)

example : units 5 = 5 := rfl
example : units (1023 * fractionCount) = oneUnits := by decide +kernel

/-- The whole number nearest to `numerator / denominator`; a tie goes to the
even neighbour. -/
def roundQuotient (numerator denominator : Nat) : Nat :=
  let floor := numerator / denominator
  let twiceRest := 2 * (numerator % denominator)
  if twiceRest < denominator then floor
  else if denominator < twiceRest then floor + 1
  else if floor % 2 = 0 then floor
  else floor + 1

example : [0, 1, 2, 3, 4, 5, 6].map (roundQuotient · 2) = [0, 0, 1, 2, 2, 2, 3] := rfl

/-- The rank whose magnitude is nearest to `numerator / denominator` units.
With `shift` the least exponent that leaves fewer than 54 bits, ranks step by
`twoTo shift` units around the quotient. -/
def nearestRank (numerator denominator : Nat) : Nat :=
  let shift := (numerator / denominator).log2 - 52
  shift * fractionCount + roundQuotient numerator (denominator * twoTo shift)

/-- A rank past the last finite one is infinite. -/
def ofRank (negative : Bool) (rank : Nat) : Binary64 :=
  if bounded : rank < rankCount then finite negative ⟨rank, bounded⟩
  else infinite negative

/-- The number nearest to `numerator / denominator` units. -/
def nearest (negative : Bool) (numerator denominator : Nat) : Binary64 :=
  ofRank negative (nearestRank numerator denominator)

def zero : Binary64 := ofRank false 0

def ofInt (value : Int) : Binary64 :=
  nearest (value < 0) (value.natAbs * oneUnits) 1

def ofNat (value : Nat) : Binary64 := ofInt value

example : ofNat 1 = ofRank false (1023 * fractionCount) := by decide +kernel

/-- The number nearest to `digits * 10 ^ exponent`. An exponent that puts the value far outside of
the format is settled without computing the power. -/
def ofDecimal (negative : Bool) (digits : Nat) (exponent : Int) : Binary64 :=
  let leading := exponent + (Nat.toDigits 10 digits).length
  if digits = 0 ∨ leading < -400 then ofRank negative 0
  else if 400 < leading then infinite negative
  else if 0 ≤ exponent then
    nearest negative (digits * tenTo exponent.toNat * oneUnits) 1
  else
    nearest negative (digits * oneUnits) (tenTo (-exponent).toNat)

example : ofDecimal false 25 (-1) = nearest false (5 * oneUnits) 2 := by decide +kernel
example : ofDecimal true 1 309 = infinite true := by decide +kernel
example : ofDecimal false 1 (-400) = zero := by decide +kernel

def isFinite : Binary64 → Bool
  | finite .. => true
  | _ => false

/-- With all digits of the format, which numbers next to zero do not have. -/
def isNormal : Binary64 → Bool
  | finite _ rank => fractionCount ≤ rank.val
  | _ => false

/-- The bits of the interchange format, sign first. -/
def toBits : Binary64 → Nat
  | finite negative rank => negative.toNat * 0x8000000000000000 + rank
  | infinite negative => negative.toNat * 0x8000000000000000 + rankCount
  | notANumber => rankCount + fractionCount / 2

/-! ## Order

Numbers are compared through their position on the line of units. Both zeros
share a position; what is not a number has none, so that it differs even from
itself. -/

def signed (negative : Bool) (magnitude : Nat) : Int :=
  if negative then -magnitude else magnitude

def position : Binary64 → Option Int
  | finite negative rank => some (signed negative (units rank))
  | infinite negative => some (signed negative (units rankCount))
  | notANumber => none

def compareWith (holds : Int → Int → Bool) (left right : Binary64) : Bool :=
  match left.position, right.position with
  | some left, some right => holds left right
  | _, _ => false

def equal (left right : Binary64) : Bool := compareWith (· == ·) left right
def less (left right : Binary64) : Bool := compareWith (· < ·) left right
def atMost (left right : Binary64) : Bool := compareWith (· ≤ ·) left right

def isZero (value : Binary64) : Bool := value.equal zero

example : isZero (ofRank true 0) = true := by decide +kernel
example : equal notANumber notANumber = false := rfl

/-! ## Arithmetic -/

def negate : Binary64 → Binary64
  | finite negative rank => finite (!negative) rank
  | infinite negative => infinite (!negative)
  | notANumber => notANumber

def magnitude : Binary64 → Binary64
  | finite _ rank => finite false rank
  | infinite _ => infinite false
  | notANumber => notANumber

/-- An exact zero is negative only if both summands are. -/
def add : Binary64 → Binary64 → Binary64
  | finite leftNegative left, finite rightNegative right =>
      let sum := signed leftNegative (units left) + signed rightNegative (units right)
      if sum = 0 then ofRank (leftNegative && rightNegative) 0
      else nearest (sum < 0) sum.natAbs 1
  | infinite left, infinite right => if left = right then infinite left else notANumber
  | infinite left, finite .. => infinite left
  | finite .., infinite right => infinite right
  | _, _ => notANumber

def subtract (left right : Binary64) : Binary64 := left.add right.negate

def multiply : Binary64 → Binary64 → Binary64
  | finite leftNegative left, finite rightNegative right =>
      nearest (leftNegative ^^ rightNegative) (units left * units right) oneUnits
  | infinite left, infinite right => infinite (left ^^ right)
  | infinite left, finite right rank | finite right rank, infinite left =>
      if rank.val = 0 then notANumber else infinite (left ^^ right)
  | _, _ => notANumber

def divide : Binary64 → Binary64 → Binary64
  | finite leftNegative left, finite rightNegative right =>
      if right.val ≠ 0 then
        nearest (leftNegative ^^ rightNegative) (units left * oneUnits) (units right)
      else if left.val = 0 then notANumber
      else infinite (leftNegative ^^ rightNegative)
  | infinite left, finite right _ => infinite (left ^^ right)
  | finite left _, infinite right => ofRank (left ^^ right) 0
  | _, _ => notANumber

/-- What is left of the first number after taking the second away as often as
it fits, exactly and with the sign of the first. -/
def remainder : Binary64 → Binary64 → Binary64
  | finite negative left, finite _ right =>
      if right.val = 0 then notANumber
      else nearest negative (units left % units right) 1
  | finite negative left, infinite _ => finite negative left
  | _, _ => notANumber

/-- The remainder, moved up by the divisor's magnitude when it is negative. -/
def modulo (left right : Binary64) : Binary64 :=
  let rest := left.remainder right
  if rest.less zero then rest.add right.magnitude else rest

example : (ofInt (-3)).modulo (ofInt 5) = ofInt 2 := by decide +kernel
example : (ofInt 7).modulo (ofInt (-5)) = ofInt 2 := by decide +kernel
example : ((ofDecimal false 1 (-1)).add (ofDecimal false 2 (-1))).toBits =
    0x3FD3333333333334 := by decide +kernel
example : ((ofNat 1).divide (ofNat 3)).toBits = 0x3FD5555555555555 := by decide +kernel
example : (ofDecimal false 1 308).multiply (ofNat 10) = infinite false := by decide +kernel

end Binary64

end Dilemma
