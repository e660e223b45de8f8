import Dilemma.Command.LogFile

/-! # Moments

A moment is a number of seconds since the beginning of 1970, in universal
time. -/

namespace Dilemma.Awk

/-- The number of a day in the calendar, counted as in `Day.ofNumber`. The
month can be outside of its year, and the day outside of its month. -/
def dayNumber (year month day : Int) : Int :=
  let months := 12 * year + (month - 3)
  let shifted := months / 12
  let marchMonth := months % 12
  let yearOfEra := shifted % 400
  146097 * (shifted / 400) + 365 * yearOfEra + yearOfEra / 4 - yearOfEra / 100 +
    (153 * marchMonth + 2) / 5 + day - 1 - 719468

example : dayNumber 1999 14 29 = 11016 := rfl

namespace Moment

/-- No clock is read: it is always this moment. -/
def now : Int := 1700000000

def isSpace (char : Char) : Bool := char = ' ' || char = '\t' || char = '\n'

/-- Whole numbers at the front of a text, with blanks in front of each. `count`
bounds their number. -/
def leadingNumbers : (count : Nat) → List Char → List Int
  | 0, _ => []
  | count + 1, text =>
      let (negative, unsigned) := match text.dropWhile isSpace with
        | '-' :: rest => (true, rest)
        | '+' :: rest => (false, rest)
        | rest => (false, rest)
      let digits := unsigned.takeWhile Char.isDigit
      match Text.digits? digits with
      | some value =>
          (if negative then -(value : Int) else value) ::
            leadingNumbers count (unsigned.drop digits.length)
      | none => []

/-- A year, a month, a day, and a time of the day in hours, minutes and
seconds. Behind them a positive number tells that the clock is an hour ahead. -/
def read? (text : List Char) : Option Int :=
  match leadingNumbers 7 text with
  | year :: month :: day :: hours :: minutes :: seconds :: ahead =>
      let hours := if ahead.any (0 < ·) then hours - 1 else hours
      some (86400 * dayNumber year month day + 3600 * hours + 60 * minutes + seconds)
  | _ => none

example : read? "2024 13 31 12 30 15 1".toList = some 1738323015 := by decide +kernel

/-! ## Layouts -/

def weekdays : List String :=
  ["Sunday", "Monday", "Tuesday", "Wednesday", "Thursday", "Friday", "Saturday"]

def months : List String :=
  ["January", "February", "March", "April", "May", "June", "July", "August", "September",
   "October", "November", "December"]

def filled (fill : Char) (width : Nat) (value : Nat) : List Char :=
  let digits := Text.natural value
  List.replicate (width - digits.length) fill ++ digits

/-- What a letter stands for, if it is not a whole layout. -/
def part? (moment : Int) (letter : Char) : Option (List Char) :=
  let number := moment / 86400
  let date := Day.ofNumber number
  let time := (moment % 86400).toNat
  let weekday := ((number + 4) % 7).toNat
  let dayOfYear := (number - dayNumber date.year 1 1).toNat
  let hour := time / 3600
  let weekdayName := (weekdays[weekday]?.getD "").toList
  let monthName := (months[date.month - 1]?.getD "").toList
  match letter with
  | 'a' => some (weekdayName.take 3)
  | 'A' => some weekdayName
  | 'b' | 'h' => some (monthName.take 3)
  | 'B' => some monthName
  | 'C' => some (filled '0' 2 (date.year / 100).toNat)
  | 'd' => some (filled '0' 2 date.day)
  | 'e' => some (filled ' ' 2 date.day)
  | 'H' => some (filled '0' 2 hour)
  | 'I' => some (filled '0' 2 ((hour + 11) % 12 + 1))
  | 'j' => some (filled '0' 3 (dayOfYear + 1))
  | 'm' => some (filled '0' 2 date.month)
  | 'M' => some (filled '0' 2 (time / 60 % 60))
  | 'n' => some ['\n']
  | 'p' => some (if hour < 12 then "AM" else "PM").toList
  | 's' => some (Text.integer moment)
  | 'S' => some (filled '0' 2 (time % 60))
  | 't' => some ['\t']
  | 'u' => some (Text.natural (if weekday = 0 then 7 else weekday))
  | 'U' => some (filled '0' 2 ((dayOfYear + 7 - weekday) / 7))
  | 'w' => some (Text.natural weekday)
  | 'W' => some (filled '0' 2 ((dayOfYear + 7 - (weekday + 6) % 7) / 7))
  | 'y' => some (filled '0' 2 (date.year % 100).toNat)
  | 'Y' => some (Text.integer date.year)
  | 'z' => some "+0000".toList
  | 'Z' => some "GMT".toList
  | '%' => some ['%']
  | _ => none

/-- The letters that stand for whole layouts. -/
def layoutOf? : Char → Option String
  | 'c' => some "%a %b %e %H:%M:%S %Y"
  | 'D' | 'x' => some "%m/%d/%y"
  | 'F' => some "%Y-%m-%d"
  | 'r' => some "%I:%M:%S %p"
  | 'R' => some "%H:%M"
  | 'T' | 'X' => some "%H:%M:%S"
  | _ => none

/-- A moment in a layout without letters for layouts. A letter that means
nothing stays. -/
def writePlain (moment : Int) : List Char → List Char
  | '%' :: letter :: rest =>
      (part? moment letter).getD ['%', letter] ++ writePlain moment rest
  | char :: rest => char :: writePlain moment rest
  | [] => []

/-- Letters for layouts are put in first. -/
def expanded : List Char → List Char
  | '%' :: letter :: rest =>
      (layoutOf? letter).elim ['%', letter] String.toList ++ expanded rest
  | char :: rest => char :: expanded rest
  | [] => []

def write (moment : Int) (layout : List Char) : List Char := writePlain moment (expanded layout)

end Moment

end Dilemma.Awk
