import Dilemma.Play.Round

/-! # Matches

A match is the list of its rounds. Every round is played on the moves of all
rounds before it. -/

namespace Dilemma

structure Match where
  playerA : String
  playerB : String
  rounds : List Round
  deriving DecidableEq, Repr

namespace Match

def player (game : Match) : Seat → String
  | .a => game.playerA
  | .b => game.playerB

/-! ## Summaries of rounds -/

def moves (seat : Seat) (rounds : List Round) : List Move := rounds.map (·.move seat)

def scores (seat : Seat) (rounds : List Round) : List Int :=
  rounds.map fun round => (round.score seat).toInt

/-- The running totals that follow a total. -/
def runningTotals (total : Int) : List Int → List Int
  | [] => []
  | score :: rest => (total + score) :: runningTotals (total + score) rest

def total (game : Match) (seat : Seat) : Int := (scores seat game.rounds).foldr (· + ·) 0

/-- The total after each round. -/
def cumulative (game : Match) (seat : Seat) : List Int :=
  runningTotals 0 (scores seat game.rounds)

def roundCount (game : Match) : Nat := game.rounds.length

def cooperations (game : Match) (seat : Seat) : Nat :=
  countMoves .cooperate (moves seat game.rounds)

def defections (game : Match) (seat : Seat) : Nat :=
  game.roundCount - game.cooperations seat

/-- The share of cooperation, if there was any round. -/
def cooperationRate (game : Match) (seat : Seat) : Option Binary64 :=
  if game.rounds.isEmpty then none
  else some ((Binary64.ofNat (game.cooperations seat)).divide (Binary64.ofNat game.roundCount))

/-- The seat with the higher total. -/
def winningSeat (game : Match) : Option Seat :=
  if game.total .b < game.total .a then some .a
  else if game.total .a < game.total .b then some .b
  else none

def winner (game : Match) : Option String := game.winningSeat.map game.player

def anomalies (game : Match) : List Anomaly := game.rounds.flatMap (·.anomalies)

def anomaliesOf (game : Match) (seat : Seat) : List Anomaly :=
  game.anomalies.filter (·.seat = seat)

/-! ## Play -/

/-- The first `count` rounds. -/
def playRounds (payoff : Payoff) (a b : Competitor) : (count : Nat) → List Round
  | 0 => []
  | count + 1 =>
      let played := playRounds payoff a b count
      played ++ [Round.play payoff a b (moves .a played) (moves .b played) (UInt32.ofNat count)]

theorem length_playRounds (payoff : Payoff) (a b : Competitor) (count : Nat) :
    (playRounds payoff a b count).length = count := by
  induction count with
  | zero => rfl
  | succ count length => simp [playRounds, length]

def play (payoff : Payoff) (a b : Competitor) (rounds : UInt32) : Match :=
  ⟨a.name, b.name, playRounds payoff a b rounds.toNat⟩

theorem roundCount_play (payoff : Payoff) (a b : Competitor) (rounds : UInt32) :
    (play payoff a b rounds).roundCount = rounds.toNat :=
  length_playRounds payoff a b rounds.toNat

end Match

end Dilemma
