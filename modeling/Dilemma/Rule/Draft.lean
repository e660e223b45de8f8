import Dilemma.Number.Binary64

/-! # Rule drafts

A rule as a translator writes it: clauses that pair a condition with an
action, and the action for all other cases. Names and operators are still
plain texts and nothing has been checked. -/

namespace Dilemma

inductive OperandDraft where
  | predicate (name : String)
  | number (value : Binary64)
  | move (name : String)
  | arithmetic (operator : String) (left right : OperandDraft)
  deriving DecidableEq, Repr, Inhabited

inductive ConditionDraft where
  | all (parts : List ConditionDraft)
  | any (parts : List ConditionDraft)
  | negation (inner : ConditionDraft)
  | comparison (left : OperandDraft) (operator : String) (right : OperandDraft)
  deriving Repr, Inhabited

structure ClauseDraft where
  condition : ConditionDraft
  action : String
  deriving Repr

structure RuleDraft where
  clauses : List ClauseDraft
  otherwise : String
  deriving Repr

end Dilemma
