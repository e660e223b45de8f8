import Dilemma.Rule.Checking
import Dilemma.Rule.Text

/-! # Lowering

What a checked rule has to do with its draft. Every node of the draft becomes one
node of the rule: a name becomes what it stands for, and nothing is added,
dropped or moved. The relation says nothing about limits and knows no order of
checks. -/

namespace Dilemma

/-! ## Steps of a check -/

theorem bind_eq_ok {ε α β : Type} {step : Except ε α} {next : α → Except ε β} {result : β} :
    (step >>= next) = .ok result ↔ ∃ value, step = .ok value ∧ next value = .ok result := by
  cases step with
  | error => simp [bind, Except.bind]
  | ok value => simp [bind, Except.bind]

theorem pure_eq_ok {ε α : Type} {value result : α} :
    (pure value : Except ε α) = .ok result ↔ value = result := by
  simp [pure, Except.pure]

theorem orError_eq_ok {α : Type} {error : RuleError} {known : Option α} {value : α} :
    orError error known = .ok value ↔ known = some value := by
  cases known <;> simp [orError]

theorem visit_eq_ok {depth visited after : Nat} :
    visit depth visited = .ok after ↔
      after = visited + 1 ∧ after ≤ Rule.maxNodes ∧ depth ≤ Rule.maxDepth := by
  unfold visit
  split
  · simp only [reduceCtorEq, false_iff]
    omega
  · split
    · simp only [reduceCtorEq, false_iff]
      omega
    · simp only [Except.ok.injEq]
      omega

theorem combine_eq_ok {operator : Arithmetic} {left right : Term} {result : NumberTerm} :
    combine operator left right = .ok result ↔
      ∃ leftTerm rightTerm, left = .number leftTerm ∧ right = .number rightTerm ∧
        ¬(operator = .modulo ∧ rightTerm.isZeroLiteral) ∧
        result = .arithmetic operator leftTerm rightTerm := by
  cases left with
  | move leftTerm => simp [combine]
  | number leftTerm =>
      cases right with
      | move rightTerm => simp [combine]
      | number rightTerm =>
          by_cases zero : operator = .modulo ∧ rightTerm.isZeroLiteral
          · simp [combine, zero]
          · simp only [combine, zero, if_false, Except.ok.injEq, Term.number.injEq]
            constructor
            · intro equal
              exact ⟨leftTerm, rightTerm, rfl, rfl, zero, equal.symm⟩
            · rintro ⟨_, _, rfl, rfl, _, equal⟩
              exact equal.symm

/-- Two numbers may be compared in any way, two moves only for equality. -/
theorem compareTerms_eq_ok {comparison : Comparison} {left right : Term}
    {condition : Condition} :
    compareTerms comparison left right = .ok condition ↔
      (∃ leftTerm rightTerm, left = .number leftTerm ∧ right = .number rightTerm ∧
        condition = .numbers leftTerm comparison rightTerm) ∨
      ∃ leftTerm rightTerm equal, left = .move leftTerm ∧ right = .move rightTerm ∧
        comparison = moveComparison equal ∧ condition = .moves leftTerm equal rightTerm := by
  cases left with
  | number leftTerm => cases right <;> simp [compareTerms, eq_comm]
  | move leftTerm =>
      cases right with
      | number rightTerm => simp [compareTerms]
      | move rightTerm =>
          cases comparison <;> simp [compareTerms, moveComparison, eq_comm]

theorem requireParts_eq_ok {parts : List ConditionDraft} {result : Unit} :
    requireParts parts = .ok result ↔ parts ≠ [] := by
  cases parts <;> simp [requireParts]

/-! ## Lowered trees -/

inductive OperandDraft.Lowers : OperandDraft → Term → Prop
  | predicate {name : String} {asked : Predicate} {term : Term}
      (known : Predicate.ofName? name = some asked) (kind : term = .ofPredicate asked) :
      Lowers (.predicate name) term
  | number {value : Binary64} : Lowers (.number value) (.number (.literal value))
  | move {name : String} {meant : Move} (known : Move.ofName? name = some meant) :
      Lowers (.move name) (.move (.literal meant))
  | arithmetic {name : String} {operator : Arithmetic} {left right : OperandDraft}
      {leftTerm rightTerm : NumberTerm} (known : Arithmetic.ofName? name = some operator)
      (leftLowers : Lowers left (.number leftTerm))
      (rightLowers : Lowers right (.number rightTerm)) :
      Lowers (.arithmetic name left right)
        (.number (.arithmetic operator leftTerm rightTerm))

mutual

inductive ConditionDraft.Lowers : ConditionDraft → Condition → Prop
  | all {drafts : List ConditionDraft} {conditions : List Condition}
      (parts : ConditionDraft.PartsLower drafts conditions) :
      Lowers (.all drafts) (.all conditions)
  | any {drafts : List ConditionDraft} {conditions : List Condition}
      (parts : ConditionDraft.PartsLower drafts conditions) :
      Lowers (.any drafts) (.any conditions)
  | negation {draft : ConditionDraft} {condition : Condition}
      (inner : ConditionDraft.Lowers draft condition) :
      Lowers (.negation draft) (.negation condition)
  | numbers {name : String} {comparison : Comparison} {left right : OperandDraft}
      {leftTerm rightTerm : NumberTerm} (known : Comparison.ofName? name = some comparison)
      (leftLowers : left.Lowers (.number leftTerm))
      (rightLowers : right.Lowers (.number rightTerm)) :
      Lowers (.comparison left name right) (.numbers leftTerm comparison rightTerm)
  | moves {name : String} {equal : Bool} {left right : OperandDraft}
      {leftTerm rightTerm : MoveTerm}
      (known : Comparison.ofName? name = some (moveComparison equal))
      (leftLowers : left.Lowers (.move leftTerm))
      (rightLowers : right.Lowers (.move rightTerm)) :
      Lowers (.comparison left name right) (.moves leftTerm equal rightTerm)

inductive ConditionDraft.PartsLower : List ConditionDraft → List Condition → Prop
  | nil : PartsLower [] []
  | cons {draft : ConditionDraft} {drafts : List ConditionDraft} {condition : Condition}
      {conditions : List Condition} (part : ConditionDraft.Lowers draft condition)
      (rest : ConditionDraft.PartsLower drafts conditions) :
      PartsLower (draft :: drafts) (condition :: conditions)

end

inductive ClauseDraft.AllLower : List ClauseDraft → List Clause → Prop
  | nil : AllLower [] []
  | cons {draft : ClauseDraft} {drafts : List ClauseDraft} {clause : Clause}
      {clauses : List Clause} (condition : draft.condition.Lowers clause.condition)
      (action : Action.ofName? draft.action = some clause.action)
      (rest : ClauseDraft.AllLower drafts clauses) :
      AllLower (draft :: drafts) (clause :: clauses)

structure RuleDraft.Lowers (draft : RuleDraft) (rule : Rule) : Prop where
  clauses : ClauseDraft.AllLower draft.clauses rule.clauses
  otherwise : Action.ofName? draft.otherwise = some rule.otherwise

end Dilemma
