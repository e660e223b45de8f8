import Dilemma.Game.Payoff
import Dilemma.Number.Binary64

/-! # What a player sees

Before each round a player is shown the moves of both sides so far, in play
order, the number of the round and the payoff table. -/

namespace Dilemma

/-- Whose moves or scores are meant, as seen by the player who decides. -/
inductive Side where
  | own
  | opponent
  deriving DecidableEq, Repr

structure Situation where
  own : List Move
  opponent : List Move
  round : UInt32
  payoff : Payoff

/-- How many of the moves are this one. -/
def countMoves (move : Move) (moves : List Move) : Nat := moves.count move

/-- The share of cooperation. It counts as full before any move. -/
def cooperationRate (moves : List Move) : Binary64 :=
  if moves.isEmpty then Binary64.ofNat 1
  else (Binary64.ofNat (countMoves .cooperate moves)).divide (Binary64.ofNat moves.length)

namespace Situation

def moves (situation : Situation) : Side → List Move
  | .own => situation.own
  | .opponent => situation.opponent

def lastMove (situation : Situation) (side : Side) : Option Move :=
  (situation.moves side).getLast?

def rate (situation : Situation) (side : Side) : Binary64 :=
  cooperationRate (situation.moves side)

def total (situation : Situation) : Side → Int
  | .own => situation.payoff.totalScore situation.own situation.opponent
  | .opponent => situation.payoff.totalScore situation.opponent situation.own

end Situation

end Dilemma
