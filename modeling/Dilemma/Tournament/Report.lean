import Dilemma.Tournament.NameMap
import Dilemma.Tournament.Standing

/-! # Reports

A report grows match by match. It starts with empty standings and is valid at
any time, so whoever stops early has a report on the matches recorded. -/

namespace Dilemma

structure Report where
  roundsPerMatch : UInt32
  payoff : Payoff
  standings : NameMap Standing
  played : List Match
  deriving DecidableEq

namespace Report

/-- The report before any match. -/
def start (competitors : List Competitor) (rounds : UInt32) (payoff : Payoff) : Report :=
  ⟨rounds, payoff,
    .ofList (competitors.map fun competitor => (competitor.name, .start competitor)), []⟩

def absorbSeat (game : Match) (standings : NameMap Standing) (seat : Seat) :
    NameMap Standing :=
  standings.modify (game.player seat) (.absorb game seat)

/-- Add a match. Players without a standing are kept in the match but score
nowhere. -/
def record (report : Report) (game : Match) : Report :=
  { report with
    standings := [Seat.a, Seat.b].foldl (absorbSeat game) report.standings
    played := report.played ++ [game] }

/-! ## Views -/

def scores (report : Report) : List (String × Int) :=
  report.standings.entries.map fun (name, standing) => (name, standing.totalScore)

def standing? (report : Report) (name : String) : Option Standing := report.standings.get? name

def score? (report : Report) (name : String) : Option Int :=
  (report.standing? name).map (·.totalScore)

/-- Higher totals come first, equal totals in the order of names. -/
def ranksBefore (left right : Standing) : Bool :=
  right.totalScore < left.totalScore ||
    (left.totalScore = right.totalScore && left.name ≤ right.name)

def leaderboard (report : Report) : List Standing :=
  report.standings.values.mergeSort ranksBefore

def anomalies (report : Report) : List Anomaly := report.played.flatMap (·.anomalies)

/-- Who played the fallback. -/
def degraded (report : Report) : List Standing := report.standings.values.filter (·.degraded)

def matchCount (report : Report) : Nat := report.played.length

end Report

end Dilemma
