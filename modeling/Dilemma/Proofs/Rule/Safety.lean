import Dilemma.Proofs.Number.Binary64
import Dilemma.Proofs.Rule.Lowering

/-! # Safe drafts

Which drafts become rules, said without any order of checks: a bound on the
clauses, a bound on all nodes together, a bound on the depth of each node, and a
condition on each node by itself. Main statement: the check accepts exactly the
safe drafts, and the rule has the size and the shape of its draft. -/

namespace Dilemma

/-! ## Vocabulary -/

def Predicate.moveNames : List String := ["own_last_move", "opponent_last_move"]

def Predicate.numberNames : List String :=
  ["round_index", "own_cooperation_rate", "opponent_cooperation_rate", "own_total_score",
   "opponent_total_score"]

def Comparison.equalityNames : List String := ["eq", "==", "ne", "!="]

def Comparison.orderNames : List String := ["lt", "<", "le", "<=", "gt", ">", "ge", ">="]

def Arithmetic.moduloNames : List String := ["mod", "%"]

def Arithmetic.names : List String := ["add", "+", "sub", "-", "mul", "*"] ++ moduloNames

def Move.names : List String := ["cooperate", "defect"]

def Action.names : List String := ["cooperate", "defect", "random"]

theorem Predicate.name_of_ofName? {name : String} {asked : Predicate}
    (known : ofName? name = some asked) : asked.name = name := by
  simpa using List.find?_some known

theorem Predicate.exists_ofName? {name : String} :
    (∃ asked, ofName? name = some asked) ↔ name ∈ moveNames ∨ name ∈ numberNames := by
  rw [← Option.isSome_iff_exists, ofName?, List.find?_isSome]
  simp [all, Predicate.name, moveNames, numberNames, eq_comm, or_assoc]

theorem Comparison.exists_ofName? {name : String} :
    (∃ comparison, ofName? name = some comparison) ↔
      name ∈ equalityNames ∨ name ∈ orderNames := by
  unfold ofName?
  split <;> simp_all [equalityNames, orderNames]

theorem Comparison.exists_ofName?_moves {name : String} :
    (∃ equal, ofName? name = some (moveComparison equal)) ↔ name ∈ equalityNames := by
  unfold ofName?
  split <;> simp_all [equalityNames, moveComparison]

theorem Arithmetic.exists_ofName? {name : String} :
    (∃ operator, ofName? name = some operator) ↔ name ∈ names := by
  unfold ofName?
  split <;> simp_all [names, moduloNames]

theorem Arithmetic.ofName?_modulo {name : String} :
    ofName? name = some modulo ↔ name ∈ moduloNames := by
  unfold ofName?
  split <;> simp_all [moduloNames]

theorem Move.exists_ofName? {name : String} :
    (∃ move, ofName? name = some move) ↔ name ∈ names := by
  unfold ofName?
  split <;> simp_all [names]

theorem Action.exists_ofName? {name : String} :
    (∃ action, ofName? name = some action) ↔ name ∈ names := by
  unfold ofName?
  split
  · simp_all [names]
  · unfold Move.ofName?
    split <;> simp_all [names]

/-! ## Nodes -/

/-- A condition or an operand somewhere in a draft. -/
inductive DraftNode where
  | condition (condition : ConditionDraft)
  | operand (operand : OperandDraft)

/-- All nodes of an operand that itself has the given depth. -/
def OperandDraft.nodes (depth : Nat) : OperandDraft → List (Nat × DraftNode)
  | predicate name => [(depth, .operand (.predicate name))]
  | number value => [(depth, .operand (.number value))]
  | move name => [(depth, .operand (.move name))]
  | arithmetic name left right =>
      (depth, .operand (.arithmetic name left right)) ::
        (left.nodes (depth + 1) ++ right.nodes (depth + 1))

mutual

def ConditionDraft.nodes (depth : Nat) : ConditionDraft → List (Nat × DraftNode)
  | .all parts =>
      (depth, .condition (.all parts)) :: ConditionDraft.partNodes (depth + 1) parts
  | .any parts =>
      (depth, .condition (.any parts)) :: ConditionDraft.partNodes (depth + 1) parts
  | .negation inner => (depth, .condition (.negation inner)) :: inner.nodes (depth + 1)
  | .comparison left name right =>
      (depth, .condition (.comparison left name right)) ::
        (left.nodes (depth + 1) ++ right.nodes (depth + 1))

def ConditionDraft.partNodes (depth : Nat) : List ConditionDraft → List (Nat × DraftNode)
  | [] => []
  | part :: rest => part.nodes depth ++ ConditionDraft.partNodes depth rest

end

/-- The nodes of all clauses together. The condition of a clause has depth one. -/
def RuleDraft.nodes (draft : RuleDraft) : List (Nat × DraftNode) :=
  draft.clauses.flatMap (·.condition.nodes 1)

/-! ## Soundness of a single node -/

/-- The type that can be read off an operand. A name outside the vocabulary has
none. -/
def OperandDraft.type? : OperandDraft → Option TermType
  | predicate name =>
      if name ∈ Predicate.moveNames then some .move
      else if name ∈ Predicate.numberNames then some .number
      else none
  | number _ => some .number
  | move _ => some .move
  | arithmetic .. => some .number

/-- The number literal zero, of either sign. -/
def OperandDraft.IsZero (operand : OperandDraft) : Prop :=
  ∃ negative, operand = .number (Binary64.ofRank negative 0)

def OperandDraft.IsSound : OperandDraft → Prop
  | predicate name => name ∈ Predicate.moveNames ∨ name ∈ Predicate.numberNames
  | number value => value.isFinite
  | move name => name ∈ Move.names
  | arithmetic name left right =>
      name ∈ Arithmetic.names ∧ left.type? = some .number ∧ right.type? = some .number ∧
        (name ∈ Arithmetic.moduloNames → ¬right.IsZero)

def ConditionDraft.IsSound : ConditionDraft → Prop
  | .all parts => parts ≠ []
  | .any parts => parts ≠ []
  | .negation _ => True
  | .comparison left name right =>
      (name ∈ Comparison.equalityNames ∨ name ∈ Comparison.orderNames) ∧
        left.type? = right.type? ∧
        (left.type? = some .move → name ∈ Comparison.equalityNames)

def DraftNode.IsSound : DraftNode → Prop
  | .condition inner => inner.IsSound
  | .operand inner => inner.IsSound

/-- What a draft has to be like to become a rule. No part of it looks at two
nodes at once, except that the nodes are counted. -/
structure RuleDraft.Safe (draft : RuleDraft) : Prop where
  clauses : draft.clauses.length ≤ 16
  size : draft.nodes.length ≤ 64
  depth : ∀ node ∈ draft.nodes, node.1 ≤ 8
  sound : ∀ node ∈ draft.nodes, node.2.IsSound
  actions : ∀ clause ∈ draft.clauses, clause.action ∈ Action.names
  otherwise : draft.otherwise ∈ Action.names

/-! ## Soundness and lowering

Sound nodes can be lowered, and what is lowered has the type that its draft
shows. -/

theorem Term.type_eq_number {term : Term} (type : term.type = .number) :
    ∃ inner, term = .number inner := by
  cases term with
  | number inner => exact ⟨inner, rfl⟩
  | move inner => cases type

theorem Term.type_eq_move {term : Term} (type : term.type = .move) :
    ∃ inner, term = .move inner := by
  cases term with
  | number inner => cases type
  | move inner => exact ⟨inner, rfl⟩

theorem OperandDraft.Lowers.type?_eq {draft : OperandDraft} {term : Term}
    (lowers : draft.Lowers term) : draft.type? = some term.type := by
  cases lowers with
  | predicate known kind =>
      rename_i asked
      subst kind
      rw [← Predicate.name_of_ofName? known]
      rcases asked with (_ | _) | (_ | (_ | _) | (_ | _)) <;> rfl
  | number => rfl
  | move known => rfl
  | arithmetic known left right => rfl

/-- Lowering neither makes a zero literal nor hides one. -/
theorem OperandDraft.Lowers.isZeroLiteral_iff {draft : OperandDraft} {term : NumberTerm}
    (lowers : draft.Lowers (.number term)) : term.isZeroLiteral = true ↔ draft.IsZero := by
  cases lowers with
  | predicate known kind =>
      rename_i asked
      cases asked with
      | lastMove side => cases kind
      | measure measure =>
          cases kind
          simp [NumberTerm.isZeroLiteral, OperandDraft.IsZero]
  | number => simp [NumberTerm.isZeroLiteral, Binary64.isZero_iff, OperandDraft.IsZero]
  | arithmetic known left right => simp [NumberTerm.isZeroLiteral, OperandDraft.IsZero]

theorem OperandDraft.exists_lowers {draft : OperandDraft} {depth : Nat}
    (sound : ∀ node ∈ draft.nodes depth, node.2.IsSound) : ∃ term, draft.Lowers term := by
  induction draft generalizing depth with
  | predicate name =>
      have known : (DraftNode.operand (.predicate name)).IsSound := sound _ (.head _)
      rcases Predicate.exists_ofName?.mpr known with ⟨asked, known⟩
      exact ⟨.ofPredicate asked, .predicate known rfl⟩
  | number value => exact ⟨.number (.literal value), .number⟩
  | move name =>
      have known : (DraftNode.operand (.move name)).IsSound := sound _ (.head _)
      rcases Move.exists_ofName?.mpr known with ⟨meant, known⟩
      exact ⟨.move (.literal meant), .move known⟩
  | arithmetic name left right leftInduction rightInduction =>
      have here : (DraftNode.operand (.arithmetic name left right)).IsSound :=
        sound _ (.head _)
      rcases here with ⟨known, leftType, rightType, _⟩
      rcases Arithmetic.exists_ofName?.mpr known with ⟨operator, known⟩
      rcases leftInduction fun node member =>
        sound node (.tail _ (List.mem_append_left _ member)) with ⟨leftTerm, leftLowers⟩
      rcases rightInduction fun node member =>
        sound node (.tail _ (List.mem_append_right _ member)) with ⟨rightTerm, rightLowers⟩
      rw [leftLowers.type?_eq, Option.some.injEq] at leftType
      rw [rightLowers.type?_eq, Option.some.injEq] at rightType
      rcases Term.type_eq_number leftType with ⟨_, rfl⟩
      rcases Term.type_eq_number rightType with ⟨_, rfl⟩
      exact ⟨_, .arithmetic known leftLowers rightLowers⟩

/-- A sound comparison of operands that can be lowered can be lowered itself. -/
theorem ConditionDraft.exists_lowers_comparison {left right : OperandDraft} {name : String}
    {leftTerm rightTerm : Term} (sound : (comparison left name right).IsSound)
    (leftLowers : left.Lowers leftTerm) (rightLowers : right.Lowers rightTerm) :
    ∃ condition, (comparison left name right).Lowers condition := by
  rcases sound with ⟨known, sameType, onMoves⟩
  rw [leftLowers.type?_eq, rightLowers.type?_eq, Option.some.injEq] at sameType
  rw [leftLowers.type?_eq, Option.some.injEq] at onMoves
  cases leftTerm with
  | number leftTerm =>
      rcases Term.type_eq_number sameType.symm with ⟨rightTerm, rfl⟩
      rcases Comparison.exists_ofName?.mpr known with ⟨comparison, known⟩
      exact ⟨_, .numbers known leftLowers rightLowers⟩
  | move leftTerm =>
      rcases Term.type_eq_move sameType.symm with ⟨rightTerm, rfl⟩
      rcases Comparison.exists_ofName?_moves.mpr (onMoves rfl) with ⟨equal, known⟩
      exact ⟨_, .moves known leftLowers rightLowers⟩

mutual

theorem ConditionDraft.exists_lowers : ∀ (draft : ConditionDraft) {depth : Nat},
    (∀ node ∈ draft.nodes depth, node.2.IsSound) → ∃ condition, draft.Lowers condition
  | .all parts, _, sound => by
      rcases ConditionDraft.exists_partsLower parts fun node member =>
        sound node (.tail _ member) with ⟨conditions, lower⟩
      exact ⟨_, .all lower⟩
  | .any parts, _, sound => by
      rcases ConditionDraft.exists_partsLower parts fun node member =>
        sound node (.tail _ member) with ⟨conditions, lower⟩
      exact ⟨_, .any lower⟩
  | .negation inner, _, sound => by
      rcases ConditionDraft.exists_lowers inner fun node member =>
        sound node (.tail _ member) with ⟨condition, lowers⟩
      exact ⟨_, .negation lowers⟩
  | .comparison left name right, _, sound => by
      rcases OperandDraft.exists_lowers fun node member =>
        sound node (.tail _ (List.mem_append_left _ member)) with ⟨leftTerm, leftLowers⟩
      rcases OperandDraft.exists_lowers fun node member =>
        sound node (.tail _ (List.mem_append_right _ member)) with ⟨rightTerm, rightLowers⟩
      exact ConditionDraft.exists_lowers_comparison (sound _ (.head _)) leftLowers rightLowers

theorem ConditionDraft.exists_partsLower : ∀ (drafts : List ConditionDraft) {depth : Nat},
    (∀ node ∈ ConditionDraft.partNodes depth drafts, node.2.IsSound) →
      ∃ conditions, ConditionDraft.PartsLower drafts conditions
  | [], _, _ => ⟨[], .nil⟩
  | draft :: drafts, _, sound => by
      rcases ConditionDraft.exists_lowers draft fun node member =>
        sound node (List.mem_append_left _ member) with ⟨condition, lowers⟩
      rcases ConditionDraft.exists_partsLower drafts fun node member =>
        sound node (List.mem_append_right _ member) with ⟨conditions, lower⟩
      exact ⟨_, .cons lowers lower⟩

end

end Dilemma
