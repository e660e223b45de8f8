import Dilemma.Strategy.Competitor

/-! # One round

Both sides decide on the same information. A side whose decision fails is
scored as if it had defected, and the failure is noted. -/

namespace Dilemma

/-- A failed decision. -/
structure Anomaly where
  round : UInt32
  seat : Seat
  strategy : String
  message : String
  deriving DecidableEq, Repr

def Anomaly.text (anomaly : Anomaly) : String :=
  s!"round {anomaly.round}: strategy `{anomaly.strategy}` (seat {anomaly.seat.name}) " ++
    s!"failed: {anomaly.message}"

structure Round where
  round : UInt32
  moveA : Move
  moveB : Move
  scoreA : Int32
  scoreB : Int32
  anomalies : List Anomaly
  deriving DecidableEq, Repr

namespace Round

def move (round : Round) : Seat → Move
  | .a => round.moveA
  | .b => round.moveB

def score (round : Round) : Seat → Int32
  | .a => round.scoreA
  | .b => round.scoreB

/-- The move of a seat, and the anomaly if its decision failed. -/
def choose (competitor : Competitor) (seat : Seat) (situation : Situation) :
    Move × List Anomaly :=
  match (competitor.decide situation).toExcept with
  | .ok move => (move, [])
  | .error error =>
      (.defect, [⟨situation.round, seat, competitor.name, error.message⟩])

def play (payoff : Payoff) (a b : Competitor) (movesA movesB : List Move)
    (round : UInt32) : Round :=
  let (moveA, anomaliesA) := choose a .a ⟨movesA, movesB, round, payoff⟩
  let (moveB, anomaliesB) := choose b .b ⟨movesB, movesA, round, payoff⟩
  { round, moveA, moveB,
    scoreA := payoff.score moveA moveB
    scoreB := payoff.score moveB moveA
    anomalies := anomaliesA ++ anomaliesB }

end Round

end Dilemma
