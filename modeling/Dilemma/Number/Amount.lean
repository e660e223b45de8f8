import Dilemma.Number.Binary64
import Dilemma.Number.Power
import Dilemma.Text.Integer

/-! # Amounts

Numbers as people write them: in decimal or hexadecimal digits, with a point
and an exponent, or as a word for the infinite. Their value is exact. -/

namespace Dilemma

/-- A number that is not negative. -/
inductive Amount where
  | quotient (numerator denominator : Nat)
  | infinite
  deriving DecidableEq, Repr

namespace Amount

/-! ## Digits -/

/-- The value of a digit in a base up to sixteen. -/
def digit? (base : Nat) (char : Char) : Option Nat :=
  let value := match Text.digitValue? char with
    | some value => some value
    | none =>
        if 'a' ≤ char ∧ char ≤ 'f' then some (char.toNat - 'a'.toNat + 10)
        else if 'A' ≤ char ∧ char ≤ 'F' then some (char.toNat - 'A'.toNat + 10)
        else none
  value.filter (· < base)

/-- Digits, and what comes after them. -/
def readDigits (base : Nat) : List Char → List Nat × List Char
  | [] => ([], [])
  | char :: rest =>
      match digit? base char with
      | some digit =>
          let (digits, rest) := readDigits base rest
          (digit :: digits, rest)
      | none => ([], char :: rest)

/-- The number with these digits. -/
def valueOf (base : Nat) (digits : List Nat) : Nat :=
  digits.foldl (fun value digit => value * base + digit) 0

/-- An exponent behind its letter. Without digits there is none. -/
def readExponent (letter : Char) (text : List Char) : Int × List Char :=
  match text with
  | char :: rest =>
      if char.toLower ≠ letter then (0, text)
      else
        let (negative, unsigned) := match rest with
          | '-' :: rest => (true, rest)
          | '+' :: rest => (false, rest)
          | rest => (false, rest)
        match readDigits 10 unsigned with
        | ([], _) => (0, text)
        | (digits, rest) =>
            let value := valueOf 10 digits
            (if negative then -(value : Int) else value, rest)
  | [] => (0, [])

/-! ## Numbers -/

/-- Exponents beyond this make an amount infinite, or nothing. -/
def exponentLimit : Nat := 1100

def scaled (value denominator base : Nat) (exponent : Int) : Amount :=
  if value = 0 then .quotient 0 1
  else if exponentLimit < exponent then .infinite
  else if exponent < -exponentLimit then .quotient 0 1
  else if 0 ≤ exponent then .quotient (value * Nat.pow base exponent.toNat) denominator
  else .quotient value (denominator * Nat.pow base (-exponent).toNat)

/-- Digits with at most one point among them, and an exponent. -/
def readPlaces (base exponentBase : Nat) (letter : Char) (text : List Char) :
    Option (Amount × List Char) :=
  let (whole, rest) := readDigits base text
  let (fraction, rest) := match rest with
    | '.' :: rest => readDigits base rest
    | rest => ([], rest)
  if whole.isEmpty && fraction.isEmpty then none
  else
    let (exponent, rest) := readExponent letter rest
    some (scaled (valueOf base (whole ++ fraction)) (Nat.pow base fraction.length)
      exponentBase exponent, rest)

/-- A word in any case. -/
def afterWord? (word : String) (text : List Char) : Option (List Char) :=
  if (text.take word.length).map Char.toLower = word.toList then some (text.drop word.length)
  else none

/-- Decimal and hexadecimal numbers, and what is infinite. -/
def read? (text : List Char) : Option (Amount × List Char) :=
  match afterWord? "infinity" text, afterWord? "inf" text, afterWord? "0x" text with
  | some rest, _, _ | none, some rest, _ => some (infinite, rest)
  | none, none, some hex =>
      match readPlaces 16 2 'p' hex with
      | some found => some found
      | none => readPlaces 10 10 'e' text
  | none, none, none => readPlaces 10 10 'e' text

example : read? "1.5x".toList = some (quotient 15 10, ['x']) := by decide +kernel
example : read? "0x1fp".toList = some (quotient 31 1, ['p']) := by decide +kernel
example : read? "0xg".toList = some (quotient 0 1, "xg".toList) := by decide +kernel
example : read? ".".toList = none := by decide +kernel

/-- The nearest number of the format. -/
def toBinary64 (negative : Bool) : Amount → Binary64
  | quotient numerator denominator =>
      .nearest negative (numerator * Binary64.oneUnits) denominator
  | infinite => .infinite negative

end Amount

end Dilemma
