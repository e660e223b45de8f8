import Dilemma.Proofs.Rule.Acceptance
import Dilemma.Strategy.Logic

/-! # Sameness

Sameness compares literals as numbers, and one value of the format is not equal
to itself. The check lets no such literal through, so a logic that the program
can make is always the same as itself. -/

namespace Dilemma

theorem Binary64.equal_self {value : Binary64} (finite : value.isFinite = true) :
    value.equal value = true := by
  cases value with
  | finite negative rank => simp [equal, compareWith, position]
  | infinite negative => cases finite
  | notANumber => cases finite

theorem OperandDraft.Lowers.same_self {draft : OperandDraft} {term : Term} {depth : Nat}
    (lowers : draft.Lowers term) (sound : ∀ node ∈ draft.nodes depth, node.2.IsSound) :
    ∀ number, term = .number number → number.same number = true := by
  induction lowers generalizing depth with
  | predicate known kind =>
      rename_i asked term
      rintro number rfl
      cases asked with
      | lastMove side => cases kind
      | measure measure =>
          cases kind
          simp [NumberTerm.same]
  | number =>
      rintro _ ⟨⟩
      exact Binary64.equal_self (sound _ (.head _))
  | move known =>
      rintro _ ⟨⟩
  | arithmetic known left right leftInduction rightInduction =>
      rintro _ ⟨⟩
      have leftSame := leftInduction (fun node member =>
        sound node (.tail _ (List.mem_append_left _ member))) _ rfl
      have rightSame := rightInduction (fun node member =>
        sound node (.tail _ (List.mem_append_right _ member))) _ rfl
      simp [NumberTerm.same, leftSame, rightSame]

mutual

theorem ConditionDraft.Lowers.same_self : ∀ {draft : ConditionDraft} {condition : Condition}
    {depth : Nat} (_ : draft.Lowers condition)
    (_ : ∀ node ∈ draft.nodes depth, node.2.IsSound), condition.same condition = true
  | _, _, _, .all parts, sound => by
      rw [Condition.same]
      exact ConditionDraft.PartsLower.same_self parts fun node member =>
        sound node (.tail _ member)
  | _, _, _, .any parts, sound => by
      rw [Condition.same]
      exact ConditionDraft.PartsLower.same_self parts fun node member =>
        sound node (.tail _ member)
  | _, _, _, .negation inner, sound => by
      rw [Condition.same]
      exact ConditionDraft.Lowers.same_self inner fun node member =>
        sound node (.tail _ member)
  | _, _, _, .numbers _ left right, sound => by
      have leftSame := left.same_self (fun node member =>
        sound node (.tail _ (List.mem_append_left _ member))) _ rfl
      have rightSame := right.same_self (fun node member =>
        sound node (.tail _ (List.mem_append_right _ member))) _ rfl
      simp [Condition.same, leftSame, rightSame]
  | _, _, _, .moves _ left right, sound => by
      simp [Condition.same]

theorem ConditionDraft.PartsLower.same_self : ∀ {drafts : List ConditionDraft}
    {conditions : List Condition} {depth : Nat}
    (_ : ConditionDraft.PartsLower drafts conditions)
    (_ : ∀ node ∈ ConditionDraft.partNodes depth drafts, node.2.IsSound),
    Condition.sameParts conditions conditions = true
  | _, _, _, .nil, _ => rfl
  | _, _, _, .cons part rest, sound => by
      have partSame := ConditionDraft.Lowers.same_self part fun node member =>
        sound node (List.mem_append_left _ member)
      have restSame := ConditionDraft.PartsLower.same_self rest fun node member =>
        sound node (List.mem_append_right _ member)
      rw [Condition.sameParts, partSame, restSame]
      rfl

end

theorem ClauseDraft.AllLower.same_self {drafts : List ClauseDraft} {clauses : List Clause}
    (lower : ClauseDraft.AllLower drafts clauses)
    (sound : ∀ node ∈ drafts.flatMap (·.condition.nodes 1), node.2.IsSound) :
    Clause.sameAll clauses clauses = true := by
  induction lower with
  | nil => rfl
  | cons condition action rest induction =>
      rw [List.flatMap_cons] at sound
      have conditionSame := condition.same_self fun node member =>
        sound node (List.mem_append_left _ member)
      have restSame := induction fun node member =>
        sound node (List.mem_append_right _ member)
      simp [Clause.sameAll, Clause.same, conditionSame, restSame]

theorem RuleDraft.same_self_of_check {draft : RuleDraft} {seed : UInt64} {rule : Rule}
    (accepted : draft.check seed = .ok rule) : rule.same rule = true := by
  rcases RuleDraft.check_eq_ok.mp accepted with ⟨_, ⟨_, admits⟩, lowers, _⟩
  have clauses := lowers.clauses.same_self fun node member => (admits.fits node member).2
  simp [Rule.same, clauses]

end Dilemma
