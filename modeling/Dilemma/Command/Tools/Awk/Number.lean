import Dilemma.Number.Amount
import Dilemma.Number.Decimal
import Dilemma.Number.Elementary
import Dilemma.Number.Places
import Dilemma.Text.Integer

/-! # Numbers of line programs

All numbers are those of the machine. Where a whole number is wanted they are
moved into the range of its words. -/

namespace Dilemma.Awk

structure Number where
  value : Binary64
  /-- What is not a number comes without a minus sign. -/
  isPlain : Bool
  deriving DecidableEq, Repr

namespace Number

/-- What comes out of a calculation and is not a number has a minus sign. -/
def of (value : Binary64) : Number := ⟨value, false⟩

def ofInt (value : Int) : Number := of (.ofInt value)
def ofNat (value : Nat) : Number := of (.ofNat value)
def zero : Number := of .zero

def isNothing (number : Number) : Bool := number.value = .notANumber

def isZero (number : Number) : Bool := number.value.isZero

/-! ## Calculation -/

def negate (number : Number) : Number :=
  if number.isNothing then { number with isPlain := !number.isPlain }
  else of number.value.negate

/-- What is not a number stays what it is. -/
def map (function : Binary64 → Binary64) (number : Number) : Number :=
  if number.isNothing then number else of (function number.value)

/-- If an operand is not a number, and the result neither, the result is the
first such operand. -/
def combine (operation : Binary64 → Binary64 → Binary64) (left right : Number) : Number :=
  let result := of (operation left.value right.value)
  if ¬ result.isNothing then result
  else if left.isNothing then left
  else if right.isNothing then right
  else result

example : combine .subtract (ofInt 3) (ofInt 5) = ofInt (-2) := by decide +kernel

/-- What is not a number compares as neither less nor greater. -/
def compare (left right : Number) : Ordering :=
  if left.value.less right.value then .lt
  else if right.value.less left.value then .gt
  else .eq

/-! ## Words -/

/-- The largest whole numbers of a word, with a sign and without one. -/
def wordLimit : Nat := 0x7FFFFFFF
def unsignedLimit : Nat := 0xFFFFFFFF

/-- The whole number nearest to a number towards zero, as far as it is in the
range of a word. What is not a number is at the lower end. -/
def word (number : Number) : Int :=
  match number.value with
  | .notANumber => -wordLimit
  | .infinite negative => if negative then -wordLimit else wordLimit
  | value => max (-wordLimit) (min wordLimit (value.truncated.getD 0))

/-- A word that has become too large goes on at the lower end, and the other
way round. -/
def wrapped (value : Int) : Int := value.bmod (unsignedLimit + 1)

/-- Without a sign a word counts from its limit if the number is negative, and
is one if it is too far below. -/
def unsignedWord (number : Number) : Nat :=
  match number.value with
  | .notANumber => 0
  | .infinite negative => if negative then 1 else unsignedLimit
  | value =>
      let whole := value.truncated.getD 0
      if whole ≤ -unsignedLimit then 1
      else (min (unsignedLimit : Int) whole % (unsignedLimit + 1)).toNat

example : (ofInt (-3000000000)).word = -2147483647 := by decide +kernel

/-! ## Texts -/

/-- A number in the range of a word that is whole is written with all its
digits. -/
def wholeText? (number : Number) : Option (List Char) :=
  if number.value.isWhole ∧ number.value.truncated = some number.word then
    some (Text.integer number.word)
  else none

def realText (number : Number) : List Char :=
  match number.value with
  | .finite negative rank => Binary64.withSign negative (Decimal.general 6 rank)
  | .infinite negative => Binary64.withSign negative "inf".toList
  | .notANumber => Binary64.withSign (!number.isPlain) "nan".toList

/-- A number without places is written as such, another with six digits. -/
def text (number : Number) : List Char := number.wholeText?.getD number.realText

example : (ofInt 2147483648).text = "2.14748e+09".toList := by decide +kernel

/-- The number that a text begins with, behind blanks and a sign, and the rest
behind it; `none` if it begins with none. -/
def leading? (isBlank : Char → Bool) (text : List Char) : Option (Number × List Char) :=
  let (negative, unsigned) := match text.dropWhile isBlank with
    | '-' :: rest => (true, rest)
    | '+' :: rest => (false, rest)
    | rest => (false, rest)
  match Amount.read? unsigned with
  | some (amount, rest) => some (of (amount.toBinary64 negative), rest)
  | none => (Amount.afterWord? "nan" unsigned).map fun rest =>
      (⟨.notANumber, !negative⟩, rest)

end Number

end Dilemma.Awk
