import Dilemma.Command.Tools.Awk.Value

/-! # Formats

A format is a text with fields for values. A field can give a width, a number
of digits and some flags. -/

namespace Dilemma.Awk

/-- Why a format cannot be filled. Fields are counted from one. -/
inductive FormatError where
  | tooFewValues
  | improper (field : Nat)
  deriving DecidableEq, Repr

structure FormatField where
  left : Bool
  signed : Bool
  spaced : Bool
  zeros : Bool
  /-- Bases are shown, and zeros at the end are kept. -/
  alternate : Bool
  width : Nat
  digits : Option Nat
  kind : Char
  deriving DecidableEq, Repr

namespace FormatField

def plain : FormatField := ⟨false, false, false, false, false, 0, none, ' '⟩

/-- Flags in any order. -/
def readFlags (field : FormatField) : List Char → FormatField × List Char
  | '-' :: rest => readFlags { field with left := true } rest
  | '+' :: rest => readFlags { field with signed := true } rest
  | ' ' :: rest => readFlags { field with spaced := true } rest
  | '0' :: rest => readFlags { field with zeros := true } rest
  | '#' :: rest => readFlags { field with alternate := true } rest
  | rest => (field, rest)

/-- A number, or a star for which the next value stands. -/
def readSize (values : List Value) (text : List Char) :
    Except FormatError (Int × List Value × List Char) :=
  match text, values with
  | '*' :: _, [] => .error .tooFewValues
  | '*' :: rest, value :: values => .ok (value.toInt, values, rest)
  | text, values =>
      .ok ((Text.digits? (text.takeWhile isDigit)).getD 0, values, text.dropWhile isDigit)

/-- A negative width is one to the left, and a negative number of digits is
none. -/
def readSizes (values : List Value) (text : List Char) :
    Except FormatError (FormatField × List Value × List Char) := do
  let (field, text) := readFlags plain text
  let (width, values, text) ← readSize values text
  let field := { field with left := field.left || decide (width < 0), width := width.natAbs }
  match text with
  | '.' :: rest =>
      let (digits, values, rest) ← readSize values rest
      return ({ field with digits := if digits < 0 then none else some digits.toNat }, values, rest)
  | text => return (field, values, text)

/-- The kinds of whole numbers, before which letters can give a size that
means nothing. -/
def wholeKinds : List Char := "diouxX".toList

def otherKinds : List Char := "csfeEgG".toList

/-- The kind of a field at the front of a text. -/
def readKind? (text : List Char) : Option (Char × List Char) :=
  match text with
  | [] => none
  | kind :: rest =>
      if kind ∈ otherKinds then some (kind, rest)
      else match text.dropWhile fun char => char = 'l' || char = 'h' with
        | [] => none
        | kind :: rest => if kind ∈ wholeKinds then some (kind, rest) else none

/-! ## Fields -/

def padded (field : FormatField) (text : List Char) : List Char :=
  let blanks := List.replicate (field.width - text.length) ' '
  if field.left then text ++ blanks else blanks ++ text

/-- Digits with a sign in front, filled up between the two if that is asked
for. -/
def numeric (field : FormatField) (zeros : Bool) (sign digits : List Char) : List Char :=
  let fill := if zeros && !field.left then
    List.replicate (field.width - sign.length - digits.length) '0' else []
  field.padded (sign ++ fill ++ digits)

def signOf (field : FormatField) (negative : Bool) : List Char :=
  if negative then ['-']
  else if field.signed then ['+']
  else if field.spaced then [' ']
  else []

/-- Whole numbers have at least as many digits as are asked for. -/
def whole (field : FormatField) (base : Nat) (sign : List Char) (value : Nat) : List Char :=
  let digits := if value = 0 then [] else Nat.toDigits base value
  let digits := List.replicate (field.digits.getD 1 - digits.length) '0' ++ digits
  let digits := if field.alternate ∧ base = 8 ∧ digits.head? ≠ some '0' then '0' :: digits
    else digits
  let sign := if field.alternate ∧ base = 16 ∧ value ≠ 0 then sign ++ ['0', 'x'] else sign
  field.numeric (field.zeros && field.digits.isNone) sign digits

def upperCase (text : List Char) : List Char := text.map Char.toUpper

/-- Fixed places, an exponent, or whatever is shorter. -/
def real (field : FormatField) (number : Number) : List Char :=
  let count := field.digits.getD 6
  match number.value with
  | .finite negative rank =>
      let digits := match field.kind with
        | 'f' => (Decimal.fixed count rank).plain
        | 'e' | 'E' => (Decimal.significant (count + 1) rank).withExponent (count + 1)
        | _ => Decimal.general count rank
      field.numeric field.zeros (field.signOf negative)
        (if field.kind.isUpper then upperCase digits else digits)
  | .infinite negative => field.numeric false (field.signOf negative) "inf".toList
  | .notANumber => field.numeric false (field.signOf (!number.isPlain)) "nan".toList

/-- A number is the code of a character, and a text gives its first one. -/
def character (value : Value) : Char :=
  match value, value.isNumeric with
  | .number _, _ | .input _, true => Char.ofNat (value.toInt % 256).toNat
  | value, _ => value.toText.headD '\x00'

/-- The text of a value in a field. -/
def apply (field : FormatField) (textOf : Value → List Char) (value : Value) : List Char :=
  let unsigned := value.toNumber.unsignedWord
  match field.kind with
  | 'd' | 'i' => field.whole 10 (field.signOf (value.toInt < 0)) value.toInt.natAbs
  | 'u' => field.whole 10 [] unsigned
  | 'o' => field.whole 8 [] unsigned
  | 'x' => field.whole 16 [] unsigned
  | 'X' => upperCase (field.whole 16 [] unsigned)
  | 'c' => field.padded [character value]
  | 's' =>
      let text := textOf value
      field.padded (match field.digits with
        | some count => text.take count
        | none => text)
  | _ => field.real value.toNumber

end FormatField

/-- A format with its fields filled, of which `number` have been passed.
`fuel` bounds the number of characters. -/
def formatFrom (textOf : Value → List Char) :
    (fuel number : Nat) → List Value → List Char → Except FormatError (List Char)
  | 0, _, _, _ | _, _, _, [] => .ok []
  | fuel + 1, number, values, '%' :: '%' :: rest => do
      return '%' :: (← formatFrom textOf fuel (number + 1) values rest)
  | fuel + 1, number, values, '%' :: rest => do
      let (field, values, rest) ← FormatField.readSizes values rest
      match values, FormatField.readKind? rest with
      | [], _ => .error .tooFewValues
      | _, none => .error (.improper (number + 1))
      | value :: values, some (kind, rest) =>
          let filled := { field with kind }.apply textOf value
          return filled ++ (← formatFrom textOf fuel (number + 1) values rest)
  | fuel + 1, number, values, char :: rest => do
      return char :: (← formatFrom textOf fuel number values rest)

def formatWith (textOf : Value → List Char) (text : List Char) (values : List Value) :
    Except FormatError (List Char) :=
  formatFrom textOf (text.length + 1) 0 values text

def format (text : List Char) (values : List Value) : Except FormatError (List Char) :=
  formatWith Value.toText text values

example : (format "%03d|%-4s|%.2f%%".toList [.ofNat 7, .text ['a'], .ofNat 2]).toOption =
    some "007|a   |2.00%".toList := by decide +kernel

end Dilemma.Awk
