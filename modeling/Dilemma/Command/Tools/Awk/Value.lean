import Dilemma.Command.Tools.Awk.Number
import Dilemma.Command.Tools.Awk.Program
import Dilemma.Command.Tools.Awk.Token

/-! # Values of line programs

A value is a number or a text, and each can stand in for the other. Input that
looks like a number counts as one when it is compared. -/

namespace Dilemma.Awk

inductive Value where
  | unset
  | number (value : Number)
  | text (value : List Char)
  /-- Part of the input. -/
  | input (value : List Char)
  deriving DecidableEq, Repr

namespace Value

/-! ## Numbers of texts -/

def isBlank (char : Char) : Bool := CharClass.contains CharClass.blanks char

/-- The number that a text begins with, and the rest behind it. -/
def leadingNumber (text : List Char) : Option (Number × List Char) :=
  Number.leading? isBlank text

/-- What a number begins with, and what it ends with. -/
def beginsNumber (char : Char) : Bool := isDigit char || char = '+' || char = '-' || char = '.'
def endsNumber (char : Char) : Bool := isDigit char || char = '.'

/-- A number that has been read is what has been written, if it is not too
large or too small for that. -/
def isFaithful (found : Number) (written : List Char) : Bool :=
  let isSpecial (char : Char) : Bool := char.toLower = 'e' || char.toLower = 'p'
  found.value.isNormal ||
    (found.isZero &&
      (written.takeWhile (!isSpecial ·)).all fun char => !isDigit char || char = '0')

/-- A word is not enough for that, nor is a number beyond the range. -/
def looksNumeric (text : List Char) : Bool :=
  let written := ((text.dropWhile isBlank).reverse.dropWhile isBlank).reverse
  match leadingNumber written with
  | some (found, []) =>
      written.head?.any beginsNumber && written.getLast?.any endsNumber &&
        isFaithful found written
  | _ => false

def numberOfText (text : List Char) : Number :=
  ((leadingNumber text).map (·.1)).getD .zero

example : numberOfText " -1.5e1x".toList = Number.ofInt (-15) := by decide +kernel

/-! ## Conversions -/

def toNumber : Value → Number
  | unset => .zero
  | number value => value
  | text value | input value => numberOfText value

def toText : Value → List Char
  | unset => []
  | number value => value.text
  | text value | input value => value

/-- A whole number of the size of a word, without its places. -/
def toInt (value : Value) : Int := value.toNumber.word

/-- A text as if it had been read. -/
def asInput : Value → Value
  | text value => input value
  | value => value

def isNumeric : Value → Bool
  | unset | number _ => true
  | text _ => false
  | input value => looksNumeric value

/-- Input that looks like a number is true if the number is not zero. -/
def isTrue : Value → Bool
  | unset => false
  | number value => !value.isZero
  | text value => !value.isEmpty
  | input value => if looksNumeric value then !(numberOfText value).isZero else !value.isEmpty

def ofInt (value : Int) : Value := number (.ofInt value)

def ofNat (value : Nat) : Value := number (.ofNat value)

def ofBool (value : Bool) : Value := ofNat value.toNat

/-! ## Comparison -/

def holdsOf (operator : Comparison) (order : Ordering) : Bool :=
  match operator with
  | .less => order = .lt
  | .atMost => order ≠ .gt
  | .equal => order = .eq
  | .different => order ≠ .eq
  | .atLeast => order ≠ .lt
  | .greater => order = .gt

def compareTexts (left right : List Char) : Ordering :=
  if left < right then .lt else if left = right then .eq else .gt

/-- Two numbers are compared as such, everything else as texts. -/
def compare (operator : Comparison) (left right : Value) : Bool :=
  holdsOf operator
    (if left.isNumeric && right.isNumeric then left.toNumber.compare right.toNumber
     else compareTexts left.toText right.toText)

example : compare .less (input "9".toList) (input "10".toList) = true := by decide +kernel

/-! ## Arithmetic -/

def compute (operator : Arithmetic) (left right : Value) : Value :=
  let operation : Binary64 → Binary64 → Binary64 := match operator with
    | .add => .add
    | .subtract => .subtract
    | .multiply => .multiply
    | .divide => .divide
    | .remainder => .remainder
    | .power => .power
  number (left.toNumber.combine operation right.toNumber)

end Value

end Dilemma.Awk
