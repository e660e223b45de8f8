import Dilemma.Chance.Stream
import Dilemma.Game.Situation

/-! # Strategy templates

The built-in ways of playing. All but one ignore their seed. -/

namespace Dilemma

inductive Template where
  | titForTat
  | alwaysDefect
  | alwaysCooperate
  | grimTrigger
  | pavlov
  | suspiciousTitForTat
  | titForTwoTats
  | gradual
  | random
  deriving DecidableEq, Repr

namespace Template

def all : List Template :=
  [titForTat, alwaysDefect, alwaysCooperate, grimTrigger, pavlov, suspiciousTitForTat,
   titForTwoTats, gradual, random]

/-- The name by which answers refer to a template. -/
def name : Template → String
  | titForTat => "tit_for_tat"
  | alwaysDefect => "always_defect"
  | alwaysCooperate => "always_cooperate"
  | grimTrigger => "grim_trigger"
  | pavlov => "pavlov"
  | suspiciousTitForTat => "suspicious_tit_for_tat"
  | titForTwoTats => "tit_for_two_tats"
  | gradual => "gradual"
  | random => "random"

/-- The name as a heading, shown where a template stands in for a strategy. -/
def title : Template → String
  | titForTat => "TitForTat"
  | alwaysDefect => "AlwaysDefect"
  | alwaysCooperate => "AlwaysCooperate"
  | grimTrigger => "GrimTrigger"
  | pavlov => "Pavlov"
  | suspiciousTitForTat => "SuspiciousTitForTat"
  | titForTwoTats => "TitForTwoTats"
  | gradual => "Gradual"
  | random => "Random"

def description : Template → String
  | titForTat => "Copies opponent's last move. Starts by cooperating."
  | alwaysDefect => "Never cooperates. Always defects."
  | alwaysCooperate => "Never defects. Always cooperates."
  | grimTrigger => "Cooperates until betrayed, then always defects."
  | pavlov => "Repeats move if outcome was good, switches if bad."
  | suspiciousTitForTat => "Like Tit-for-Tat, but starts with defect."
  | titForTwoTats => "Only retaliates after two consecutive defections."
  | gradual => "Retaliates with increasing severity, then forgives."
  | random => "Cooperates or defects with equal odds, reproducibly."

def ofName? (name : String) : Option Template :=
  all.find? (·.name = name)

theorem ofName?_name (template : Template) : ofName? template.name = some template := by
  cases template <;> rfl

/-! ## Play -/

/-- Stay with a move that earned at least the reward, else switch. -/
def playPavlov (situation : Situation) : Move :=
  match situation.lastMove .own, situation.lastMove .opponent with
  | some own, some opponent =>
      if situation.payoff.reward ≤ situation.payoff.score own opponent then own else own.flip
  | _, _ => .cooperate

/-- Defect only after two defections in a row. -/
def playTwoTats (opponent : List Move) : Move :=
  match opponent.reverse with
  | .defect :: .defect :: _ => .defect
  | _ => .cooperate

/-- The defections owed after so many defections of the opponent: one for the
first, two more for the second, and so on. -/
def owed (defections : Nat) : Nat := defections * (defections + 1) / 2

def play (template : Template) (seed : UInt64) (situation : Situation) : Move :=
  match template with
  | titForTat => (situation.lastMove .opponent).getD .cooperate
  | alwaysDefect => .defect
  | alwaysCooperate => .cooperate
  | grimTrigger =>
      if 0 < countMoves .defect situation.opponent then .defect else .cooperate
  | pavlov => playPavlov situation
  | suspiciousTitForTat => (situation.lastMove .opponent).getD .defect
  | titForTwoTats => playTwoTats situation.opponent
  | gradual =>
      if countMoves .defect situation.own < owed (countMoves .defect situation.opponent) then
        .defect
      else .cooperate
  | random => if RandomStream.coin seed situation.round then .cooperate else .defect

end Template

end Dilemma
