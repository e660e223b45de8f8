import Dilemma.Play.Match

/-! # Standings

What the matches recorded so far add up to for one competitor. -/

namespace Dilemma

structure Standing where
  name : String
  totalScore : Int
  matchesPlayed : Nat
  roundsPlayed : Nat
  cooperations : Nat
  anomalies : Nat
  provenance : Provenance
  /-- The fallback plays in place of its own logic. -/
  degraded : Bool
  fallbackReason : Option String
  logic : String
  deriving DecidableEq, Repr

namespace Standing

def start (competitor : Competitor) : Standing :=
  { name := competitor.name
    totalScore := 0
    matchesPlayed := 0
    roundsPlayed := 0
    cooperations := 0
    anomalies := 0
    provenance := competitor.provenance
    degraded := competitor.isDegraded
    fallbackReason := competitor.fallbackReason
    logic := competitor.logic.description }

/-- Count a match from one seat. -/
def absorb (game : Match) (seat : Seat) (standing : Standing) : Standing :=
  { standing with
    totalScore := standing.totalScore + game.total seat
    matchesPlayed := standing.matchesPlayed + 1
    roundsPlayed := standing.roundsPlayed + game.roundCount
    cooperations := standing.cooperations + game.cooperations seat
    anomalies := standing.anomalies + (game.anomaliesOf seat).length }

/-! ## Rates -/

/-- A share of the rounds, if any was played. -/
def perRound (standing : Standing) (amount : Int) : Option Binary64 :=
  if standing.roundsPlayed = 0 then none
  else some ((Binary64.ofInt amount).divide (Binary64.ofNat standing.roundsPlayed))

def cooperationRate (standing : Standing) : Option Binary64 :=
  standing.perRound standing.cooperations

def averageScore (standing : Standing) : Option Binary64 :=
  standing.perRound standing.totalScore

/-- The score scaled to one hundred rounds. -/
def normalizedScore (standing : Standing) : Binary64 :=
  match standing.averageScore with
  | some average => average.multiply (Binary64.ofNat 100)
  | none => Binary64.zero

end Standing

end Dilemma
