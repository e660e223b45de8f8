import Dilemma.Json.Value
import Dilemma.Number.Decimal
import Dilemma.Text.Integer

/-! # Reading JSON

A strict reader: one value, blanks around it, and nothing else. It reads
characters from a list and hands back the rest. What a value is good for is
left to those who use it, so a number out of range or an unreadable string is
no error here. How numbers are rounded is left open. -/

namespace Dilemma.Json

def isBlank (char : Char) : Bool :=
  char = ' ' || char = '\t' || char = '\n' || char = '\r'

def skipBlanks (chars : List Char) : List Char := chars.dropWhile isBlank

/-! ## Strings -/

def hexDigit? (char : Char) : Option Nat :=
  if '0' ≤ char ∧ char ≤ '9' then some (char.toNat - '0'.toNat)
  else if 'a' ≤ char ∧ char ≤ 'f' then some (char.toNat - 'a'.toNat + 10)
  else if 'A' ≤ char ∧ char ≤ 'F' then some (char.toNat - 'A'.toNat + 10)
  else none

def codeUnit? (a b c d : Char) : Option Nat := do
  some ((← hexDigit? a) * 4096 + (← hexDigit? b) * 256 + (← hexDigit? c) * 16 + (← hexDigit? d))

def escaped? : Char → Option Char
  | '"' => some '"'
  | '\\' => some '\\'
  | '/' => some '/'
  | 'b' => some '\x08'
  | 'f' => some '\x0c'
  | 'n' => some '\n'
  | 'r' => some '\r'
  | 't' => some '\t'
  | _ => none

def isHighSurrogate (unit : Nat) : Bool := 0xD800 ≤ unit && unit < 0xDC00
def isLowSurrogate (unit : Nat) : Bool := 0xDC00 ≤ unit && unit < 0xE000

def surrogatePair (high low : Nat) : Char :=
  Char.ofNat (0x10000 + (high - 0xD800) * 0x400 + (low - 0xDC00))

/-- What stands between quotes: characters, and the code units that escapes
of the form `\u0000` give. -/
inductive Piece where
  | char (value : Char)
  | unit (value : Nat)

/-- The pieces up to the closing quote and what comes after it. -/
def readPieces : List Char → Option (List Piece × List Char)
  | [] => none
  | '"' :: rest => some ([], rest)
  | '\\' :: 'u' :: a :: b :: c :: d :: rest => do
      let unit ← codeUnit? a b c d
      let (pieces, rest) ← readPieces rest
      some (.unit unit :: pieces, rest)
  | '\\' :: char :: rest => do
      let decoded ← escaped? char
      let (pieces, rest) ← readPieces rest
      some (.char decoded :: pieces, rest)
  | char :: rest =>
      if char.toNat < 0x20 then none
      else do
        let (pieces, rest) ← readPieces rest
        some (.char char :: pieces, rest)

/-- The characters that the pieces spell. Two units can make a surrogate pair;
a surrogate that stands alone spells nothing. -/
def spell? : List Piece → Option (List Char)
  | [] => some []
  | .char char :: rest => (spell? rest).map (char :: ·)
  | [.unit unit] =>
      if isHighSurrogate unit || isLowSurrogate unit then none
      else some [Char.ofNat unit]
  | .unit unit :: .char char :: rest =>
      if isHighSurrogate unit || isLowSurrogate unit then none
      else (spell? rest).map (Char.ofNat unit :: char :: ·)
  | .unit unit :: .unit next :: rest =>
      if isHighSurrogate unit && isLowSurrogate next then
        (spell? rest).map (surrogatePair unit next :: ·)
      else if isHighSurrogate unit || isLowSurrogate unit then none
      else (spell? (.unit next :: rest)).map (Char.ofNat unit :: ·)

/-- The contents of a string, `none` in their place if they cannot be spelled,
and what comes after the closing quote. -/
def readString (chars : List Char) : Option (Option (List Char) × List Char) :=
  (readPieces chars).map fun (pieces, rest) => (spell? pieces, rest)

example : readString "a\\u00e9\\n\"x".toList = some (some ['a', 'é', '\n'], ['x']) := by
  decide +kernel
example : readString "\\ud83d\\ude00\"".toList = some (some ['😀'], []) := by decide +kernel
example : readString "\\ud83d!\"".toList = some (none, []) := by decide +kernel
example : readString "a".toList = none := by decide +kernel

/-! ## Numbers -/

def isDigit (char : Char) : Bool := '0' ≤ char && char ≤ '9'

/-- At least one digit. -/
def readDigits (chars : List Char) : Option (List Char × List Char) :=
  match chars.span isDigit with
  | ([], _) => none
  | read => some read

/-- The digits before a point have no superfluous zero in front. -/
def readWhole (chars : List Char) : Option (List Char × List Char) := do
  match ← readDigits chars with
  | ('0' :: _ :: _, _) => none
  | read => some read

/-- Digits after a point, none if there is no point. -/
def readFraction : List Char → Option (Option (List Char) × List Char)
  | '.' :: rest => do
      let (digits, rest) ← readDigits rest
      some (some digits, rest)
  | chars => some (none, chars)

/-- A power of ten, if there is one. -/
def readExponent : List Char → Option (Option Int × List Char)
  | 'e' :: rest | 'E' :: rest => do
      let (negative, rest) := match rest with
        | '-' :: rest => (true, rest)
        | '+' :: rest => (false, rest)
        | rest => (false, rest)
      let (digits, rest) ← readDigits rest
      let value : Int ← Text.digitsFrom? 0 digits
      some (some (if negative then -value else value), rest)
  | chars => some (none, chars)

/-- A number as it is written. Digits may follow a point, and a power of ten may come last. -/
structure Numeral where
  negative : Bool
  whole : List Char
  fraction : Option (List Char)
  exponent : Option Int
  deriving DecidableEq, Repr

namespace Numeral

/-- The digits before and after the point, and the place of the last one. -/
def decimal (numeral : Numeral) : Decimal :=
  let places := numeral.fraction.getD []
  ⟨Nat.ofDigitChars 10 (numeral.whole ++ places) 0, numeral.exponent.getD 0 - places.length⟩

/-- A whole number is an integer if 64 bits hold it, signed or unsigned. Zero
with a minus sign is real. -/
def integer? (numeral : Numeral) : Option Int :=
  match numeral.fraction, numeral.exponent with
  | none, none =>
      let digits := Nat.ofDigitChars 10 numeral.whole 0
      if numeral.negative then
        if digits ≠ 0 ∧ digits ≤ UInt64.size / 2 then some (-digits) else none
      else if digits < UInt64.size then some digits else none
  | _, _ => none

end Numeral

/-- A way to take numerals for numbers. It may round as it likes, and what is
out of range is taken for a number that is not finite. -/
structure NumberReader where
  real : Numeral → Binary64

/-- Each numeral is the number nearest to it. -/
def NumberReader.nearest : NumberReader where
  real numeral :=
    Binary64.ofDecimal numeral.negative numeral.decimal.digits numeral.decimal.exponent

def readNumeral (chars : List Char) : Option (Numeral × List Char) := do
  let (negative, rest) := match chars with
    | '-' :: rest => (true, rest)
    | chars => (false, chars)
  let (whole, rest) ← readWhole rest
  let (fraction, rest) ← readFraction rest
  let (exponent, rest) ← readExponent rest
  some (⟨negative, whole, fraction, exponent⟩, rest)

variable (numbers : NumberReader)

def ofNumeral (numeral : Numeral) : Json :=
  match numeral.integer? with
  | some value => integer value
  | none => real (numbers.real numeral)

def readNumber (chars : List Char) : Option (Json × List Char) :=
  (readNumeral chars).map fun (numeral, rest) => (ofNumeral numbers numeral, rest)

/-! ## Values

An object with a key that cannot be spelled is unreadable as a whole. -/

/-- Put a member in front of others, if all of them are readable. -/
def prepend (member : Option (String × Json)) (members : Option (List (String × Json))) :
    Option (List (String × Json)) := do
  return (← member) :: (← members)

/-! `fuel` bounds the number of steps. Two for every character are enough, because
every second step takes a character. -/

mutual

def readValue : (fuel : Nat) → List Char → Option (Json × List Char)
  | 0, _ => none
  | fuel + 1, chars =>
      match skipBlanks chars with
      | 'n' :: 'u' :: 'l' :: 'l' :: rest => some (null, rest)
      | 't' :: 'r' :: 'u' :: 'e' :: rest => some (boolean true, rest)
      | 'f' :: 'a' :: 'l' :: 's' :: 'e' :: rest => some (boolean false, rest)
      | '"' :: rest => do
          match ← readString rest with
          | (some contents, rest) => some (text (String.ofList contents), rest)
          | (none, rest) => some (unreadable, rest)
      | '[' :: rest =>
          match skipBlanks rest with
          | ']' :: rest => some (array [], rest)
          | rest => do
              let (items, rest) ← readItems fuel rest
              some (array items, rest)
      | '\x7b' :: rest =>
          match skipBlanks rest with
          | '\x7d' :: rest => some (object [], rest)
          | rest => do
              let (members, rest) ← readMembers fuel rest
              some ((members.map object).getD unreadable, rest)
      | rest => readNumber numbers rest

/-- At least one item, up to the closing bracket. -/
def readItems : (fuel : Nat) → List Char → Option (List Json × List Char)
  | 0, _ => none
  | fuel + 1, chars => do
      let (item, rest) ← readValue fuel chars
      match skipBlanks rest with
      | ',' :: rest =>
          let (items, rest) ← readItems fuel rest
          some (item :: items, rest)
      | ']' :: rest => some ([item], rest)
      | _ => none

/-- At least one member, up to the closing brace. If a key cannot be spelled,
`none` stands in place of all members. -/
def readMembers : (fuel : Nat) → List Char →
    Option (Option (List (String × Json)) × List Char)
  | 0, _ => none
  | fuel + 1, chars => do
      match skipBlanks chars with
      | '"' :: rest =>
          let (key, rest) ← readString rest
          match skipBlanks rest with
          | ':' :: rest =>
              let (value, rest) ← readValue fuel rest
              let member := key.map fun key => (String.ofList key, value)
              match skipBlanks rest with
              | ',' :: rest =>
                  let (members, rest) ← readMembers fuel rest
                  some (prepend member members, rest)
              | '\x7d' :: rest => some (prepend member (some []), rest)
              | _ => none
          | _ => none
      | _ => none

end

def parse? (source : String) : Option Json := do
  let chars := source.toList
  let (json, rest) ← readValue numbers (2 * chars.length + 2) chars
  if skipBlanks rest = [] then some json else none

example : (parse? .nearest " [1, -0, true] ").isSome = true := by decide +kernel
example : (parse? .nearest "[1,]").isSome = false := by decide +kernel
example : (parse? .nearest "01").isSome = false := by decide +kernel

end Dilemma.Json
