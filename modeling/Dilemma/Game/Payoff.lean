import Dilemma.Game.Move

/-! # Payoff tables

The four outcomes of a round: temptation for defecting on a cooperator, reward
for mutual cooperation, punishment for mutual defection, and the sucker's
payoff. A table is a dilemma only in that strict order. -/

namespace Dilemma

structure Payoff where
  temptation : Int32
  reward : Int32
  punishment : Int32
  sucker : Int32
  reward_lt_temptation : reward < temptation
  punishment_lt_reward : punishment < reward
  sucker_lt_punishment : sucker < punishment
  deriving DecidableEq

/-- Four values that are not in the order of a dilemma. -/
structure PayoffError where
  temptation : Int32
  reward : Int32
  punishment : Int32
  sucker : Int32
  deriving DecidableEq

def PayoffError.message (error : PayoffError) : String :=
  s!"payoffs must satisfy T > R > P > S (got T={error.temptation}, R={error.reward}, " ++
    s!"P={error.punishment}, S={error.sucker})"

namespace Payoff

def ofValues (temptation reward punishment sucker : Int32) : Except PayoffError Payoff :=
  if ordered : reward < temptation ∧ punishment < reward ∧ sucker < punishment then
    .ok ⟨temptation, reward, punishment, sucker, ordered.1, ordered.2.1, ordered.2.2⟩
  else .error ⟨temptation, reward, punishment, sucker⟩

/-- The table used unless another is given. -/
def classic : Payoff := ⟨5, 3, 1, 0, by decide, by decide, by decide⟩

/-- What the first move earns against the second. -/
def score (payoff : Payoff) : Move → Move → Int32
  | .cooperate, .cooperate => payoff.reward
  | .cooperate, .defect => payoff.sucker
  | .defect, .cooperate => payoff.temptation
  | .defect, .defect => payoff.punishment

/-- What a sequence of moves earns against another, over the rounds that both
have. -/
def totalScore (payoff : Payoff) : List Move → List Move → Int
  | own :: owns, other :: others =>
      (payoff.score own other).toInt + payoff.totalScore owns others
  | _, _ => 0

example : classic.totalScore [.cooperate, .defect, .defect] [.cooperate, .cooperate] = 8 := rfl

end Payoff

end Dilemma
