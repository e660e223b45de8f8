import Dilemma.Proofs.Number.Whole
import Dilemma.Proofs.Rule.Acceptance
import Dilemma.Proofs.Rule.Meaning

/-! # Rules that never fail

A rule can only fail with a remainder by zero. If every remainder in a safe draft is by a
number literal that is not zero, then the draft becomes a rule, and the rule plays in every
situation. -/

namespace Dilemma

/-- Whatever is computed has a number literal on the right that is not zero. -/
def DraftNode.DividesByLiteral : DraftNode → Prop
  | .operand (.arithmetic _ _ (.number value)) => value.isZero = false
  | .operand (.arithmetic ..) => False
  | _ => True

structure RuleDraft.Reliable (draft : RuleDraft) : Prop where
  safe : draft.Safe
  divisors : ∀ node ∈ draft.nodes, node.2.DividesByLiteral

/-- All that a clause has to be like, apart from how many nodes there are in all. -/
structure ClauseDraft.Reliable (clause : ClauseDraft) : Prop where
  action : clause.action ∈ Action.names
  nodes : ∀ node ∈ clause.condition.nodes 1,
    node.1 ≤ 8 ∧ node.2.IsSound ∧ node.2.DividesByLiteral

namespace RuleDraft

variable {draft : RuleDraft}

theorem reliable_of_clauses (few : draft.clauses.length ≤ 16) (small : draft.nodes.length ≤ 64)
    (reliable : ∀ clause ∈ draft.clauses, clause.Reliable)
    (otherwise : draft.otherwise ∈ Action.names) : draft.Reliable := by
  have nodes : ∀ node ∈ draft.nodes,
      node.1 ≤ 8 ∧ node.2.IsSound ∧ node.2.DividesByLiteral := by
    intro node member
    rcases List.mem_flatMap.mp member with ⟨clause, among, inside⟩
    exact (reliable clause among).nodes node inside
  have actions : ∀ clause ∈ draft.clauses, clause.action ∈ Action.names :=
    fun clause among => (reliable clause among).action
  exact ⟨⟨few, small, fun node member => (nodes node member).1,
    fun node member => (nodes node member).2.1, actions, otherwise⟩,
    fun node member => (nodes node member).2.2⟩

theorem Reliable.not_dividesByZero (reliable : draft.Reliable) (situation : Situation)
    (error : DecisionError) : ¬ DividesByZero situation draft.nodes error := by
  rintro ⟨depth, name, left, right, dividend, divisor, member, _, _, rightValue, zero, _⟩
  have literal := reliable.divisors _ member
  cases right with
  | number value =>
      have nonzero : value.isZero = false := literal
      cases rightValue
      rw [nonzero] at zero
      cases zero
  | _ => cases literal

theorem Reliable.exists_check (reliable : draft.Reliable) (seed : UInt64) :
    ∃ rule, draft.check seed = .ok rule :=
  exists_check_eq_ok_iff.mpr reliable.safe

theorem Reliable.plays (reliable : draft.Reliable) {seed : UInt64} {rule : Rule}
    (accepted : draft.check seed = .ok rule) (situation : Situation) :
    ∃ move, rule.play situation = .ok move := by
  cases played : rule.play situation with
  | ok move => exact ⟨move, rfl⟩
  | error error =>
      exact absurd (dividesByZero_of_play accepted played)
        (reliable.not_dividesByZero situation error)

end RuleDraft

end Dilemma
