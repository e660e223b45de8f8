import Dilemma.Number.Binary64

/-! # Decimal notation

The shortest decimal that reads back to a finite number, and the notations in
which numbers are written: plain digits, the number syntax of JSON, and a
fixed single place after the point. -/

namespace Dilemma

/-- The value `digits * 10 ^ exponent`. -/
structure Decimal where
  digits : Nat
  exponent : Int
  deriving DecidableEq, Repr

namespace Decimal

/-! ## Exact comparison with a magnitude -/

/-- The value in units of the number format, as numerator and denominator. -/
def fraction (value : Decimal) : Nat × Nat :=
  if 0 ≤ value.exponent then
    (value.digits * tenTo value.exponent.toNat * Binary64.oneUnits, 1)
  else (value.digits * Binary64.oneUnits, tenTo (-value.exponent).toNat)

/-- The number nearest to this decimal has that rank. -/
def readsBack (rank : Nat) (value : Decimal) : Bool :=
  Binary64.nearestRank value.fraction.1 value.fraction.2 = rank

/-- Drop factors of ten from the digits; `fuel` bounds their number. -/
def stripZeros : (fuel : Nat) → Decimal → Decimal
  | 0, value => value
  | fuel + 1, value =>
      if value.digits ≠ 0 ∧ value.digits % 10 = 0 then
        stripZeros fuel ⟨value.digits / 10, value.exponent + 1⟩
      else value

/-! ## The fewest digits

The decimals with a given last place form a grid. On each grid only the two
neighbours of a magnitude can be closest to it, so looking at those two on
finer and finer grids finds the fewest digits that read back. -/

/-- Which of two equally close decimals is written. -/
inductive Tie where
  | toEven
  | upward
  deriving DecidableEq

/-- The power of ten of the leading digit of a positive number of units. It is
estimated from the binary logarithm and then corrected. -/
def leadingExponent (units : Nat) : Int :=
  let estimate := ((units.log2 : Int) - 1074) * 30103 / 100000
  let reaches (exponent : Int) : Bool :=
    let power := fraction ⟨1, exponent⟩
    power.1 ≤ units * power.2
  if reaches (estimate + 1) then estimate + 1
  else if reaches estimate then estimate
  else estimate - 1

/-- The closest decimal on the grid of `10 ^ exponent` that reads back. -/
def onGrid? (tie : Tie) (rank : Nat) (exponent : Int) : Option Decimal :=
  let units := Binary64.units rank
  let step := fraction ⟨1, exponent⟩
  let quotient := units * step.2 / step.1
  let below : Decimal := ⟨quotient, exponent⟩
  let above : Decimal := ⟨quotient + 1, exponent⟩
  let twice := 2 * units * step.2
  let middle := (2 * quotient + 1) * step.1
  let preferAbove :=
    if twice < middle then false
    else if middle < twice then true
    else tie = .upward || quotient % 2 = 1
  match below.readsBack rank, above.readsBack rank with
  | true, true => some (if preferAbove then above else below)
  | true, false => some below
  | false, true => some above
  | false, false => none

/-- The magnitude itself, written out in full. -/
def exact (rank : Nat) : Decimal :=
  ⟨Binary64.units rank * Nat.pow 5 1074, -1074⟩

/-- The shortest decimal that reads back to the magnitude of a rank. -/
def shortest (tie : Tie) (rank : Nat) : Decimal :=
  if rank = 0 then ⟨0, 0⟩
  else
    let leading := leadingExponent (Binary64.units rank)
    let found := (List.range 17).findSome? fun places =>
      onGrid? tie rank (leading - Int.ofNat places)
    stripZeros 1100 (found.getD (exact rank))

example : shortest .toEven (Binary64.nearestRank Binary64.oneUnits 10) = ⟨1, -1⟩ := by
  decide +kernel

/-- The smallest magnitude. -/
example : shortest .toEven 1 = ⟨5, -324⟩ := by decide +kernel

/-- A power of ten on the border of two intervals. -/
example : shortest .toEven (Binary64.nearestRank (tenTo 23 * Binary64.oneUnits) 1) =
    ⟨1, 23⟩ := by decide +kernel

/-- `2 ^ -25` lies half way between two decimals of 17 digits. -/
example :
    shortest .toEven ((1023 - 25) * Binary64.fractionCount) = ⟨29802322387695312, -24⟩ ∧
    shortest .upward ((1023 - 25) * Binary64.fractionCount) = ⟨29802322387695313, -24⟩ := by
  decide +kernel

/-! ## Layout -/

def digitList (value : Decimal) : List Char := Nat.toDigits 10 value.digits

/-- The power of ten of the first digit. -/
def leading (value : Decimal) : Int :=
  value.exponent + value.digitList.length - 1

/-- Digits with a point where one is needed and never an exponent. -/
def plain (value : Decimal) : List Char :=
  let digits := value.digitList
  if 0 ≤ value.exponent then
    if value.digits = 0 then digits
    else digits ++ List.replicate value.exponent.toNat '0'
  else
    let places := (-value.exponent).toNat
    if places < digits.length then
      digits.take (digits.length - places) ++ '.' :: digits.drop (digits.length - places)
    else
      '0' :: '.' :: (List.replicate (places - digits.length) '0' ++ digits)

example : plain ⟨125, -2⟩ = "1.25".toList := by decide +kernel
example : plain ⟨125, -5⟩ = "0.00125".toList := by decide +kernel
example : plain ⟨125, 2⟩ = "12500".toList := by decide +kernel

/-- One digit, the others after a point, and a signed exponent. -/
def scientific (value : Decimal) : List Char :=
  let mantissa := match value.digitList with
    | [] => []
    | [digit] => [digit]
    | digit :: rest => digit :: '.' :: rest
  let sign := if value.leading < 0 then '-' else '+'
  mantissa ++ 'e' :: sign :: Nat.toDigits 10 value.leading.natAbs

example : scientific ⟨15, 299⟩ = "1.5e+300".toList := by decide +kernel
example : scientific ⟨1, -6⟩ = "1e-6".toList := by decide +kernel

/-- Plain digits with at least one place, for leading exponents from -5 to 15;
an exponent otherwise. -/
def jsonNotation (value : Decimal) : List Char :=
  if -5 ≤ value.leading ∧ value.leading ≤ 15 then
    if 0 ≤ value.exponent then value.plain ++ ".0".toList else value.plain
  else value.scientific

example : jsonNotation ⟨1, -5⟩ = "0.00001".toList := by decide +kernel
example : jsonNotation ⟨1, 15⟩ = "1000000000000000.0".toList := by decide +kernel
example : jsonNotation ⟨1, 16⟩ = "1e+16".toList := by decide +kernel

end Decimal

namespace Binary64

def withSign (negative : Bool) (digits : List Char) : List Char :=
  if negative then '-' :: digits else digits

/-- How rules show their numbers. -/
def plainText : Binary64 → List Char
  | finite negative rank => withSign negative (Decimal.shortest .upward rank).plain
  | infinite negative => withSign negative "inf".toList
  | notANumber => "NaN".toList

/-- How JSON shows them; it has no word for what is not finite. -/
def jsonText : Binary64 → List Char
  | finite negative rank => withSign negative (Decimal.shortest .toEven rank).jsonNotation
  | _ => "null".toList

/-- Tenths, rounded once from the exact value, a tie going to the even digit.
The sign stays even where the digits become zero. -/
def tenthsText : Binary64 → List Char
  | finite negative rank =>
      let tenths := roundQuotient (units rank * 10) oneUnits
      withSign negative
        (Nat.toDigits 10 (tenths / 10) ++ '.' :: Nat.toDigits 10 (tenths % 10))
  | infinite negative => withSign negative "inf".toList
  | notANumber => "NaN".toList

example : (ofDecimal false 625 (-2)).tenthsText = "6.2".toList := by decide +kernel
example : (ofDecimal true 4 (-2)).tenthsText = "-0.0".toList := by decide +kernel
example : (ofDecimal true 0 0).plainText = "-0".toList := by decide +kernel
example : (ofNat 3).jsonText = "3.0".toList := by decide +kernel

end Binary64

end Dilemma
