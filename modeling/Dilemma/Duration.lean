import Dilemma.Number.Power
import Dilemma.Text.Integer

/-! # Spans of time

Durations are whole nanoseconds. Their text uses the largest unit of which
there is at least one, and drops zeros from the end of the fraction. -/

namespace Dilemma

structure Duration where
  nanoseconds : Nat
  deriving DecidableEq, Repr

namespace Duration

def ofMilliseconds (count : Nat) : Duration := ⟨count * 1000000⟩
def ofSeconds (count : Nat) : Duration := ⟨count * 1000000000⟩

/-- Exactly `places` digits of a fraction without the zeros at its end. -/
def fraction (places value : Nat) : List Char :=
  let digits := Text.natural value
  let padded := List.replicate (places - digits.length) '0' ++ digits
  (padded.reverse.dropWhile (· = '0')).reverse

/-- A count of units of `10 ^ places` nanoseconds. -/
def inUnits (places : Nat) (unit : String) (nanoseconds : Nat) : String :=
  let whole := Text.natural (nanoseconds / tenTo places)
  match fraction places (nanoseconds % tenTo places) with
  | [] => String.ofList whole ++ unit
  | rest => String.ofList (whole ++ '.' :: rest) ++ unit

def text (duration : Duration) : String :=
  let count := duration.nanoseconds
  if 1000000000 ≤ count then inUnits 9 "s" count
  else if 1000000 ≤ count then inUnits 6 "ms" count
  else if 1000 ≤ count then inUnits 3 "µs" count
  else inUnits 0 "ns" count

example : [⟨0⟩, ⟨1001⟩, ofMilliseconds 250, ⟨1500000000⟩, ofSeconds 61].map text =
    ["0ns", "1.001µs", "250ms", "1.5s", "61s"] := by decide +kernel

end Duration

end Dilemma
