import Dilemma.Rule.Evaluation
import Dilemma.Strategy.Template

/-! # The logic behind a strategy -/

namespace Dilemma

inductive Logic where
  | template (template : Template) (seed : UInt64)
  | rule (rule : Rule)
  /-- Stands in for a strategy that could not be interpreted. -/
  | fallback (function : DecisionFunction)

namespace Logic

/-- Fallbacks are the same only if they are one and the same function. -/
def same : Logic → Logic → Bool
  | template left leftSeed, template right rightSeed => left = right && leftSeed = rightSeed
  | rule left, rule right => left.same right
  | fallback left, fallback right => left.identity = right.identity
  | _, _ => false

def description : Logic → String
  | template chosen _ => chosen.name ++ ": " ++ chosen.description
  | rule checked => checked.text
  | fallback function => s!"fallback ({function.title})"

def decide (situation : Situation) : Logic → Decision
  | template chosen seed => .plays (chosen.play seed situation)
  | rule checked => .ofExcept (checked.play situation)
  | fallback function => function.decide situation

def isFallback : Logic → Bool
  | fallback _ => true
  | _ => false

/-- The seed of random moves. A fallback has none of its own. -/
def seed? : Logic → Option UInt64
  | template _ seed => some seed
  | rule checked => some checked.seed
  | fallback _ => none

end Logic

/-- A template that serves as a fallback plays with seed zero. -/
def Template.asFunction (template : Template) (identity : Nat) : DecisionFunction :=
  ⟨identity, template.title, fun situation => .plays (template.play 0 situation)⟩

end Dilemma
