import Dilemma.Rule.Vocabulary

/-! # Checked rules

Once a rule has been checked, its operands are sorted by type: terms that are
numbers and terms that are moves. No tree of these types compares a number
with a move or asks which of two moves is the greater one. -/

namespace Dilemma

inductive NumberTerm where
  | measure (measure : Measure)
  | literal (value : Binary64)
  | arithmetic (operator : Arithmetic) (left right : NumberTerm)
  deriving DecidableEq, Repr

inductive MoveTerm where
  | lastMove (side : Side)
  | literal (move : Move)
  deriving DecidableEq, Repr

inductive Condition where
  | all (parts : List Condition)
  | any (parts : List Condition)
  | negation (inner : Condition)
  | numbers (left : NumberTerm) (comparison : Comparison) (right : NumberTerm)
  /-- Two moves are equal, or unequal if that is asked. -/
  | moves (left : MoveTerm) (equal : Bool) (right : MoveTerm)
  deriving Repr

structure Clause where
  condition : Condition
  action : Action
  deriving Repr

/-- The first clause whose condition holds gives the action. The seed drives
random actions. -/
structure Rule where
  clauses : List Clause
  otherwise : Action
  seed : UInt64
  deriving Repr

/-! ## Sameness

Two rules are the same if they have the same shape and equal literals. Literals
are compared as numbers, so the sign of a zero does not count. -/

def NumberTerm.same : NumberTerm → NumberTerm → Bool
  | .measure left, .measure right => left = right
  | .literal left, .literal right => left.equal right
  | .arithmetic operator left right, .arithmetic operator' left' right' =>
      operator = operator' && left.same left' && right.same right'
  | _, _ => false

mutual

def Condition.same : Condition → Condition → Bool
  | .all left, .all right => Condition.sameParts left right
  | .any left, .any right => Condition.sameParts left right
  | .negation left, .negation right => left.same right
  | .numbers left comparison right, .numbers left' comparison' right' =>
      left.same left' && comparison = comparison' && right.same right'
  | .moves left equal right, .moves left' equal' right' =>
      left = left' && equal = equal' && right = right'
  | _, _ => false

def Condition.sameParts : List Condition → List Condition → Bool
  | [], [] => true
  | left :: lefts, right :: rights => left.same right && Condition.sameParts lefts rights
  | _, _ => false

end

def Clause.same (left right : Clause) : Bool :=
  left.condition.same right.condition && left.action = right.action

def Clause.sameAll : List Clause → List Clause → Bool
  | [], [] => true
  | left :: lefts, right :: rights => left.same right && Clause.sameAll lefts rights
  | _, _ => false

def Rule.same (left right : Rule) : Bool :=
  Clause.sameAll left.clauses right.clauses && left.otherwise = right.otherwise &&
    left.seed = right.seed

end Dilemma
