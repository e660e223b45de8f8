import Dilemma.Text.Integer

/-! # Names of log files

A log file is named after the second in which the program was started, in
universal time. -/

namespace Dilemma

/-- A day of the calendar. -/
structure Day where
  year : Int
  month : Nat
  day : Nat
  deriving DecidableEq, Repr

/-- The day so many days after the first of January 1970. Years are counted
from the first of March, so that a leap day is the last of its year, in eras
of four hundred years. -/
def Day.ofNumber (number : Int) : Day :=
  let shifted := number + 719468
  let era := shifted / 146097
  let dayOfEra := (shifted % 146097).toNat
  let yearOfEra :=
    (dayOfEra - dayOfEra / 1460 + dayOfEra / 36524 - dayOfEra / 146096) / 365
  let dayOfYear := dayOfEra - (365 * yearOfEra + yearOfEra / 4 - yearOfEra / 100)
  let marchMonth := (5 * dayOfYear + 2) / 153
  let month := if marchMonth < 10 then marchMonth + 3 else marchMonth - 9
  let year := era * 400 + yearOfEra
  ⟨if month ≤ 2 then year + 1 else year, month, dayOfYear - (153 * marchMonth + 2) / 5 + 1⟩

example : Day.ofNumber 0 = ⟨1970, 1, 1⟩ := rfl
example : Day.ofNumber 11016 = ⟨2000, 2, 29⟩ := rfl

namespace LogFile

def twoDigits (value : Nat) : String :=
  String.ofList (List.replicate (2 - (Text.natural value).length) '0' ++ Text.natural value)

/-- `seconds` are counted from the beginning of 1970. -/
def name (seconds : Int) : String :=
  let date := Day.ofNumber (seconds / 86400)
  let time := (seconds % 86400).toNat
  String.intercalate "-" [toString date.year, twoDigits date.month, twoDigits date.day] ++ "_" ++
    String.intercalate "-"
      [twoDigits (time / 3600), twoDigits (time / 60 % 60), twoDigits (time % 60)] ++
    "_arena.log"

example : name 1700000000 = "2023-11-14_22-13-20_arena.log" := by decide +kernel

end LogFile

end Dilemma
