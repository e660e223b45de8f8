import Dilemma.Number.Decimal
import Dilemma.Text.Padding
import Dilemma.Tournament.Report

/-! # The printed table

Two lines of heading, one row for each standing, and then, only where there
are any, the degraded standings and the anomalies. -/

namespace Dilemma.Table

def tenths (value : Binary64) : String := String.ofList value.tenthsText

def percent : Option Binary64 → String
  | some rate => tenths (rate.multiply (Binary64.ofNat 100)) ++ "%"
  | none => "-"

/-- Seven columns, the second and the last aligned to the left. -/
def columns (rank name score normalized cooperation anomalies source : String) : String :=
  Text.padLeft 4 rank ++ "  " ++ Text.padRight 20 name ++ " " ++ Text.padLeft 8 score ++ " " ++
    Text.padLeft 9 normalized ++ " " ++ Text.padLeft 8 cooperation ++ " " ++
    Text.padLeft 7 anomalies ++ "  " ++ source

/-- A fallback that came from the cache is told apart from a fresh one. -/
def source (standing : Standing) : String :=
  if standing.degraded ∧ standing.provenance ≠ .fallback then "cached fallback"
  else standing.provenance.label

def row (rank : Nat) (standing : Standing) : String :=
  columns (toString rank) standing.name (toString standing.totalScore)
    (tenths standing.normalizedScore) (percent standing.cooperationRate)
    (toString standing.anomalies) (source standing)

/-- Rows with their ranks. -/
def rows : (rank : Nat) → List Standing → List String
  | _, [] => []
  | rank, standing :: rest => row rank standing :: rows (rank + 1) rest

def headings (report : Report) : List String :=
  let payoff := report.payoff
  [s!"{report.matchCount} matches, {report.roundsPerMatch} rounds each " ++
      s!"(T={payoff.temptation} R={payoff.reward} P={payoff.punishment} S={payoff.sucker})",
   columns "rank" "strategy" "score" "per 100" "coop" "anom" "source"]

/-- A heading after an empty line, unless there is nothing below it. -/
def titled (title : String) : List String → List String
  | [] => []
  | lines => "" :: title :: lines

def degradedLine (standing : Standing) : String :=
  s!"  {standing.name}: " ++ standing.fallbackReason.getD "same text failed earlier"

def anomalyLine (anomaly : Anomaly) : String := "  " ++ anomaly.text

def lines (report : Report) : List String :=
  headings report ++ rows 1 report.leaderboard ++
    titled "playing the fallback:" (report.degraded.map degradedLine) ++
    titled "runtime anomalies:" (report.anomalies.map anomalyLine)

/-- Every line ends with a line feed. -/
def render (report : Report) : String :=
  String.join ((lines report).map (· ++ "\n"))

end Dilemma.Table
