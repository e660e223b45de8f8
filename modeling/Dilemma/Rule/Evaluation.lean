import Dilemma.Rule.Text
import Dilemma.Strategy.Decision

/-! # Playing by a rule

A rule is evaluated in order: clauses from the first to the last, operands
from left to right, and conjunctions and disjunctions only as far as needed.
A remainder by zero ends the evaluation wherever it is met; nothing else can
go wrong. -/

namespace Dilemma

def NumberTerm.value (situation : Situation) :
    NumberTerm → Except DecisionError Binary64
  | .measure asked => .ok (asked.value situation)
  | .literal value => .ok value
  | .arithmetic operator left right => do
      let leftValue ← left.value situation
      let rightValue ← right.value situation
      match operator.result? leftValue rightValue with
      | some value => .ok value
      | none => .error (.divisionByZero (arithmetic operator left right).text)

/-- There is no last move before the first round. -/
def MoveTerm.value (situation : Situation) : MoveTerm → Option Move
  | lastMove side => situation.lastMove side
  | literal move => some move

mutual

def Condition.holds (situation : Situation) : Condition → Except DecisionError Bool
  | .all parts => Condition.allHold situation parts
  | .any parts => Condition.anyHolds situation parts
  | .negation inner => do return !(← inner.holds situation)
  | .numbers left comparison right => do
      let leftValue ← left.value situation
      let rightValue ← right.value situation
      return comparison.holds leftValue rightValue
  | .moves left equal right =>
      .ok ((left.value situation == right.value situation) == equal)

/-- Stops at the first part that does not hold. -/
def Condition.allHold (situation : Situation) : List Condition → Except DecisionError Bool
  | [] => .ok true
  | part :: rest => do
      if ← part.holds situation then Condition.allHold situation rest else return false

/-- Stops at the first part that holds. -/
def Condition.anyHolds (situation : Situation) : List Condition → Except DecisionError Bool
  | [] => .ok false
  | part :: rest => do
      if ← part.holds situation then return true else Condition.anyHolds situation rest

end

/-- The action of the first clause that applies. -/
def Rule.action (situation : Situation) (otherwise : Action) :
    List Clause → Except DecisionError Action
  | [] => .ok otherwise
  | clause :: rest => do
      if ← clause.condition.holds situation then return clause.action
      else Rule.action situation otherwise rest

def Rule.play (rule : Rule) (situation : Situation) : Except DecisionError Move := do
  let action ← Rule.action situation rule.otherwise rule.clauses
  return action.move rule.seed situation.round

end Dilemma
