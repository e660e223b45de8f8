import Dilemma.Proofs.Rule.Acceptance
import Dilemma.Rule.Evaluation

/-! # The meaning of drafts

A draft read as it stands. Names are looked up only when they are met, numbers
and moves are told apart only when they are used, and a connective looks at the
outcomes of all its parts and takes the first that decides. Main statement: a
checked rule plays what its draft means, and the only thing that can go wrong is
a remainder by zero. -/

namespace Dilemma

/-- What an operand stands for. There is no last move before the first round. -/
inductive DraftValue where
  | number (value : Binary64)
  | move (value : Option Move)
  deriving DecidableEq

/-! ## Operands -/

def operatorSign : String → String
  | "add" | "+" => "+"
  | "sub" | "-" => "-"
  | "mul" | "*" => "*"
  | _ => "mod"

/-- Every operator is shown by its sign, however it was spelled. -/
def OperandDraft.chars : OperandDraft → List Char
  | predicate name => name.toList
  | number value => value.plainText
  | move name => name.toList
  | arithmetic name left right =>
      '(' :: (left.chars ++ ' ' :: ((operatorSign name).toList ++ ' ' :: (right.chars ++ [')'])))

def OperandDraft.text (operand : OperandDraft) : String := String.ofList operand.chars

def unknownName (name : String) : DecisionError := .other s!"unknown name `{name}`"

def Situation.ask (situation : Situation) : String → Except DecisionError DraftValue
  | "own_last_move" => .ok (.move situation.own.getLast?)
  | "opponent_last_move" => .ok (.move situation.opponent.getLast?)
  | "round_index" => .ok (.number (Binary64.ofNat situation.round.toNat))
  | "own_cooperation_rate" => .ok (.number (cooperationRate situation.own))
  | "opponent_cooperation_rate" => .ok (.number (cooperationRate situation.opponent))
  | "own_total_score" =>
      .ok (.number (Binary64.ofInt
        (situation.payoff.totalScore situation.own situation.opponent)))
  | "opponent_total_score" =>
      .ok (.number (Binary64.ofInt
        (situation.payoff.totalScore situation.opponent situation.own)))
  | name => .error (unknownName name)

def moveMeant : String → Except DecisionError DraftValue
  | "cooperate" => .ok (.move (some .cooperate))
  | "defect" => .ok (.move (some .defect))
  | name => .error (unknownName name)

/-- `whole` is the text to blame if the divisor is zero. -/
def compute (name whole : String) (left right : Binary64) : Except DecisionError DraftValue :=
  match name with
  | "add" | "+" => .ok (.number (left.add right))
  | "sub" | "-" => .ok (.number (left.subtract right))
  | "mul" | "*" => .ok (.number (left.multiply right))
  | "mod" | "%" =>
      if right.isZero then .error (.divisionByZero whole)
      else .ok (.number (left.modulo right))
  | name => .error (unknownName name)

def OperandDraft.evaluate (situation : Situation) : OperandDraft → Except DecisionError DraftValue
  | predicate name => situation.ask name
  | number value => .ok (.number value)
  | move name => moveMeant name
  | arithmetic name left right => do
      let leftValue ← left.evaluate situation
      let rightValue ← right.evaluate situation
      match leftValue, rightValue with
      | .number leftValue, .number rightValue =>
          compute name (arithmetic name left right).text leftValue rightValue
      | _, _ => .error (.other s!"`{operatorSign name}` on a move")

/-! ## Conditions -/

def compareNumbers (name : String) (left right : Binary64) : Except DecisionError Bool :=
  match name with
  | "eq" | "==" => .ok (left.equal right)
  | "ne" | "!=" => .ok (!left.equal right)
  | "lt" | "<" => .ok (left.less right)
  | "le" | "<=" => .ok (left.atMost right)
  | "gt" | ">" => .ok (right.less left)
  | "ge" | ">=" => .ok (right.atMost left)
  | name => .error (unknownName name)

def compareMoves (name : String) (left right : Option Move) : Except DecisionError Bool :=
  match name with
  | "eq" | "==" => .ok (left == right)
  | "ne" | "!=" => .ok (left != right)
  | "lt" | "<" => .error (.other "ordering on moves (<)")
  | "le" | "<=" => .error (.other "ordering on moves (<=)")
  | "gt" | ">" => .error (.other "ordering on moves (>)")
  | "ge" | ">=" => .error (.other "ordering on moves (>=)")
  | name => .error (unknownName name)

def compareValues (name : String) : DraftValue → DraftValue → Except DecisionError Bool
  | .number left, .number right => compareNumbers name left right
  | .move left, .move right => compareMoves name left right
  | _, _ => .error (.other "compared values of different types")

/-- The outcome is not the one with which the search goes on. An error always
decides. -/
def decides (goesOn : Bool) : Except DecisionError Bool → Bool
  | .ok holds => holds != goesOn
  | .error _ => true

def firstDeciding (goesOn : Bool) (outcomes : List (Except DecisionError Bool)) :
    Except DecisionError Bool :=
  (outcomes.find? (decides goesOn)).getD (.ok goesOn)

mutual

def ConditionDraft.evaluate (situation : Situation) : ConditionDraft → Except DecisionError Bool
  | .all parts => firstDeciding true (ConditionDraft.outcomes situation parts)
  | .any parts => firstDeciding false (ConditionDraft.outcomes situation parts)
  | .negation inner => do return !(← inner.evaluate situation)
  | .comparison left name right => do
      let leftValue ← left.evaluate situation
      let rightValue ← right.evaluate situation
      compareValues name leftValue rightValue

def ConditionDraft.outcomes (situation : Situation) :
    List ConditionDraft → List (Except DecisionError Bool)
  | [] => []
  | part :: rest => part.evaluate situation :: ConditionDraft.outcomes situation rest

end

/-! ## Rules -/

/-- Chance sees the seed and the number of the round, and nothing else. -/
def actionMeant (seed : UInt64) (round : UInt32) : String → Except DecisionError Move
  | "cooperate" => .ok .cooperate
  | "defect" => .ok .defect
  | "random" => .ok (if RandomStream.coin seed round then .cooperate else .defect)
  | name => .error (unknownName name)

/-- The first clause whose condition is not found to fail. -/
def RuleDraft.deciding? (draft : RuleDraft) (situation : Situation) : Option ClauseDraft :=
  draft.clauses.find? fun clause => decides false (clause.condition.evaluate situation)

def RuleDraft.evaluate (draft : RuleDraft) (seed : UInt64) (situation : Situation) :
    Except DecisionError Move :=
  match draft.deciding? situation with
  | none => actionMeant seed situation.round draft.otherwise
  | some clause => do
      let _ ← clause.condition.evaluate situation
      actionMeant seed situation.round clause.action

/-! ## Agreement of operands -/

def Term.evaluate (situation : Situation) : Term → Except DecisionError DraftValue
  | number term => do return .number (← term.value situation)
  | move term => .ok (.move (term.value situation))

theorem Situation.ask_eq {name : String} {asked : Predicate}
    (known : Predicate.ofName? name = some asked) (situation : Situation) :
    situation.ask name = (Term.ofPredicate asked).evaluate situation := by
  rw [← Predicate.name_of_ofName? known]
  rcases asked with (_ | _) | (_ | (_ | _) | (_ | _)) <;> rfl

theorem NumberTerm.value_arithmetic {situation : Situation} {left right : NumberTerm}
    {leftValue rightValue : Binary64} (operator : Arithmetic)
    (leftHas : left.value situation = .ok leftValue)
    (rightHas : right.value situation = .ok rightValue) :
    (arithmetic operator left right).value situation =
      match operator.result? leftValue rightValue with
      | some value => .ok value
      | none => .error (.divisionByZero (arithmetic operator left right).text) := by
  rw [value, leftHas, rightHas]
  rfl

theorem operatorSign_eq {name : String} {operator : Arithmetic}
    (known : Arithmetic.ofName? name = some operator) : operatorSign name = operator.sign := by
  unfold Arithmetic.ofName? at known
  split at known <;> cases known <;> rfl

theorem compute_eq {name : String} {operator : Arithmetic}
    (known : Arithmetic.ofName? name = some operator) (whole : String)
    (left right : Binary64) :
    compute name whole left right = match operator.result? left right with
      | some value => .ok (.number value)
      | none => .error (.divisionByZero whole) := by
  unfold Arithmetic.ofName? at known
  split at known <;> cases known
  case h_7 | h_8 =>
    simp only [compute, Arithmetic.result?]
    split <;> rfl
  all_goals rfl

/-- The text to blame does not change when an operand is lowered. -/
theorem OperandDraft.Lowers.chars_eq {draft : OperandDraft} {term : Term}
    (lowers : draft.Lowers term) {number : NumberTerm} (numeric : term = .number number) :
    draft.chars = number.chars := by
  induction lowers generalizing number with
  | predicate known kind =>
      rename_i asked _
      subst kind
      cases asked with
      | lastMove side => cases numeric
      | measure measure =>
          cases numeric
          rw [chars, ← Predicate.name_of_ofName? known, NumberTerm.chars]
  | number =>
      cases numeric
      rfl
  | move known => cases numeric
  | arithmetic known left right leftInduction rightInduction =>
      cases numeric
      rw [chars, NumberTerm.chars, leftInduction rfl, rightInduction rfl,
        operatorSign_eq known]

theorem OperandDraft.Lowers.evaluate_eq {draft : OperandDraft} {term : Term}
    (lowers : draft.Lowers term) (situation : Situation) :
    draft.evaluate situation = term.evaluate situation := by
  induction lowers with
  | predicate known kind =>
      rw [evaluate, Situation.ask_eq known, kind]
  | number => rfl
  | move known =>
      unfold Move.ofName? at known
      split at known <;> cases known <;> rfl
  | arithmetic known left right leftInduction rightInduction =>
      rename_i name operator _ _ leftTerm rightTerm
      have whole := (arithmetic known left right).chars_eq rfl
      rw [evaluate, leftInduction, rightInduction, Term.evaluate, Term.evaluate, Term.evaluate]
      cases leftHas : leftTerm.value situation with
      | error error =>
          rw [NumberTerm.value, leftHas]
          rfl
      | ok leftValue =>
          cases rightHas : rightTerm.value situation with
          | error error =>
              rw [NumberTerm.value, leftHas, rightHas]
              rfl
          | ok rightValue =>
              change compute name _ leftValue rightValue = _
              rw [compute_eq known, NumberTerm.value_arithmetic operator leftHas rightHas, text,
                whole]
              cases operator.result? leftValue rightValue <;> rfl

/-! ## Agreement of conditions -/

theorem compareNumbers_eq {name : String} {comparison : Comparison}
    (known : Comparison.ofName? name = some comparison) (left right : Binary64) :
    compareNumbers name left right = .ok (comparison.holds left right) := by
  unfold Comparison.ofName? at known
  split at known <;> cases known <;> rfl

theorem compareMoves_eq {name : String} {equal : Bool}
    (known : Comparison.ofName? name = some (moveComparison equal)) (left right : Option Move) :
    compareMoves name left right = .ok ((left == right) == equal) := by
  unfold Comparison.ofName? at known
  cases equal with
  | true => split at known <;> cases known <;> simp [compareMoves]
  | false => split at known <;> cases known <;> simp [compareMoves, bne]

theorem firstDeciding_cons (goesOn : Bool) (outcome : Except DecisionError Bool)
    (rest : List (Except DecisionError Bool)) :
    firstDeciding goesOn (outcome :: rest) =
      if decides goesOn outcome then outcome else firstDeciding goesOn rest := by
  rw [firstDeciding, List.find?_cons]
  cases decides goesOn outcome <;> rfl

mutual

theorem ConditionDraft.Lowers.evaluate_eq : ∀ {draft : ConditionDraft} {condition : Condition}
    (_ : draft.Lowers condition) (situation : Situation),
    draft.evaluate situation = condition.holds situation
  | _, _, .all parts, situation =>
      (ConditionDraft.PartsLower.outcomes_eq parts situation).1
  | _, _, .any parts, situation =>
      (ConditionDraft.PartsLower.outcomes_eq parts situation).2
  | _, _, .negation inner, situation => by
      rw [ConditionDraft.evaluate, Condition.holds,
        ConditionDraft.Lowers.evaluate_eq inner situation]
  | _, _, .numbers known left right, situation => by
      rename_i leftTerm rightTerm
      rw [ConditionDraft.evaluate, Condition.holds, left.evaluate_eq, right.evaluate_eq,
        Term.evaluate, Term.evaluate]
      cases leftTerm.value situation with
      | error error => rfl
      | ok leftValue =>
          cases rightTerm.value situation with
          | error error => rfl
          | ok rightValue => exact compareNumbers_eq known leftValue rightValue
  | _, _, .moves known left right, situation => by
      rw [ConditionDraft.evaluate, Condition.holds, left.evaluate_eq, right.evaluate_eq]
      exact compareMoves_eq known _ _

theorem ConditionDraft.PartsLower.outcomes_eq : ∀ {drafts : List ConditionDraft}
    {conditions : List Condition} (_ : ConditionDraft.PartsLower drafts conditions)
    (situation : Situation),
    firstDeciding true (ConditionDraft.outcomes situation drafts) =
        Condition.allHold situation conditions ∧
      firstDeciding false (ConditionDraft.outcomes situation drafts) =
        Condition.anyHolds situation conditions
  | _, _, .nil, _ => ⟨rfl, rfl⟩
  | _, _, .cons part rest, situation => by
      rename_i condition _
      have induction := ConditionDraft.PartsLower.outcomes_eq rest situation
      rw [ConditionDraft.outcomes, firstDeciding_cons, firstDeciding_cons,
        ConditionDraft.Lowers.evaluate_eq part situation, induction.1, induction.2,
        Condition.allHold, Condition.anyHolds]
      rcases condition.holds situation with _ | (_ | _)
      · exact ⟨rfl, rfl⟩
      · exact ⟨rfl, rfl⟩
      · exact ⟨rfl, rfl⟩

end

/-! ## Blame -/

/-- The error tells of a remainder by zero at one of these nodes. -/
def DividesByZero (situation : Situation) (nodes : List (Nat × DraftNode))
    (error : DecisionError) : Prop :=
  ∃ depth name left right dividend divisor,
    (depth, DraftNode.operand (.arithmetic name left right)) ∈ nodes ∧
      name ∈ Arithmetic.moduloNames ∧
      left.evaluate situation = .ok (.number dividend) ∧
      right.evaluate situation = .ok (.number divisor) ∧ divisor.isZero = true ∧
      error = .divisionByZero (OperandDraft.arithmetic name left right).text

theorem DividesByZero.mono {situation : Situation} {nodes more : List (Nat × DraftNode)}
    {error : DecisionError} (blame : DividesByZero situation nodes error)
    (included : ∀ node ∈ nodes, node ∈ more) : DividesByZero situation more error := by
  rcases blame with ⟨depth, name, left, right, dividend, divisor, member, facts⟩
  exact ⟨depth, name, left, right, dividend, divisor, included _ member, facts⟩

theorem Arithmetic.result?_eq_none {operator : Arithmetic} {left right : Binary64}
    (missing : operator.result? left right = none) :
    operator = modulo ∧ right.isZero = true := by
  cases operator with
  | modulo => simpa [result?] using missing
  | _ => cases missing

/-- What is lowered to a number has a number for its value, if it has one. -/
theorem OperandDraft.Lowers.number_of_evaluate {draft : OperandDraft} {term : NumberTerm}
    (lowers : draft.Lowers (.number term)) {situation : Situation} {value : DraftValue}
    (has : draft.evaluate situation = .ok value) : ∃ number, value = .number number := by
  rw [lowers.evaluate_eq, Term.evaluate] at has
  rcases bind_eq_ok.mp has with ⟨number, _, equal⟩
  cases equal
  exact ⟨number, rfl⟩

theorem OperandDraft.Lowers.dividesByZero {draft : OperandDraft} {term : Term}
    (lowers : draft.Lowers term) (situation : Situation) {depth : Nat} {error : DecisionError}
    (fails : draft.evaluate situation = .error error) :
    DividesByZero situation (draft.nodes depth) error := by
  induction lowers generalizing depth with
  | predicate known kind =>
      rename_i asked _
      rw [evaluate, Situation.ask_eq known] at fails
      cases asked <;> cases fails
  | number => cases fails
  | move known =>
      rw [(Lowers.move known).evaluate_eq] at fails
      cases fails
  | arithmetic known left right leftInduction rightInduction =>
      rename_i name operator leftDraft rightDraft leftTerm rightTerm
      cases leftHas : leftDraft.evaluate situation with
      | error leftError =>
          rw [evaluate, leftHas] at fails
          cases fails
          exact (leftInduction leftHas).mono fun node member =>
            .tail _ (List.mem_append_left _ member)
      | ok leftValue =>
          cases rightHas : rightDraft.evaluate situation with
          | error rightError =>
              rw [evaluate, leftHas, rightHas] at fails
              cases fails
              exact (rightInduction rightHas).mono fun node member =>
                .tail _ (List.mem_append_right _ member)
          | ok rightValue =>
              rcases left.number_of_evaluate leftHas with ⟨dividend, rfl⟩
              rcases right.number_of_evaluate rightHas with ⟨divisor, rfl⟩
              rw [evaluate, leftHas, rightHas] at fails
              change compute name _ dividend divisor = _ at fails
              rw [compute_eq known] at fails
              split at fails
              · cases fails
              · rename_i missing
                cases fails
                rcases Arithmetic.result?_eq_none missing with ⟨rfl, zero⟩
                exact ⟨depth, name, leftDraft, rightDraft, dividend, divisor, .head _,
                  Arithmetic.ofName?_modulo.mp known, leftHas, rightHas, zero, rfl⟩

theorem ConditionDraft.Lowers.compareValues_ok {left right : OperandDraft} {name : String}
    {condition : Condition} (lowers : (comparison left name right).Lowers condition)
    {situation : Situation} {leftValue rightValue : DraftValue}
    (leftHas : left.evaluate situation = .ok leftValue)
    (rightHas : right.evaluate situation = .ok rightValue) :
    ∃ holds, compareValues name leftValue rightValue = .ok holds := by
  cases lowers with
  | numbers known leftLowers rightLowers =>
      rcases leftLowers.number_of_evaluate leftHas with ⟨leftNumber, rfl⟩
      rcases rightLowers.number_of_evaluate rightHas with ⟨rightNumber, rfl⟩
      exact ⟨_, compareNumbers_eq known leftNumber rightNumber⟩
  | moves known leftLowers rightLowers =>
      rw [leftLowers.evaluate_eq] at leftHas
      rw [rightLowers.evaluate_eq] at rightHas
      cases leftHas
      cases rightHas
      exact ⟨_, compareMoves_eq known _ _⟩

theorem ConditionDraft.Lowers.comparison_dividesByZero {left right : OperandDraft}
    {name : String} {condition : Condition}
    (lowers : (comparison left name right).Lowers condition) (situation : Situation)
    {depth : Nat} {error : DecisionError}
    (fails : (comparison left name right).evaluate situation = .error error) :
    DividesByZero situation (left.nodes depth ++ right.nodes depth) error := by
  rcases lowers.exists_compareTerms with
    ⟨_, leftTerm, rightTerm, _, leftLowers, rightLowers, _⟩
  cases leftHas : left.evaluate situation with
  | error leftError =>
      rw [evaluate, leftHas] at fails
      cases fails
      exact (leftLowers.dividesByZero situation leftHas).mono fun _ =>
        List.mem_append_left _
  | ok leftValue =>
      cases rightHas : right.evaluate situation with
      | error rightError =>
          rw [evaluate, leftHas, rightHas] at fails
          cases fails
          exact (rightLowers.dividesByZero situation rightHas).mono fun _ =>
            List.mem_append_right _
      | ok rightValue =>
          rcases lowers.compareValues_ok leftHas rightHas with ⟨holds, compared⟩
          rw [evaluate, leftHas, rightHas] at fails
          change compareValues name leftValue rightValue = _ at fails
          rw [compared] at fails
          cases fails

theorem firstDeciding_mem {goesOn : Bool} {outcomes : List (Except DecisionError Bool)}
    {error : DecisionError} (fails : firstDeciding goesOn outcomes = .error error) :
    .error error ∈ outcomes := by
  unfold firstDeciding at fails
  cases found : outcomes.find? (decides goesOn) with
  | none =>
      rw [found] at fails
      cases fails
  | some outcome =>
      rw [found] at fails
      rw [← fails]
      exact List.mem_of_find?_eq_some found

mutual

theorem ConditionDraft.Lowers.dividesByZero : ∀ {draft : ConditionDraft}
    {condition : Condition} (_ : draft.Lowers condition) (situation : Situation) {depth : Nat}
    {error : DecisionError}, draft.evaluate situation = .error error →
    DividesByZero situation (draft.nodes depth) error
  | _, _, .all parts, situation, _, _, fails => by
      have failed := firstDeciding_mem fails
      exact (ConditionDraft.PartsLower.dividesByZero parts situation failed).mono fun _ =>
        .tail _
  | _, _, .any parts, situation, _, _, fails => by
      have failed := firstDeciding_mem fails
      exact (ConditionDraft.PartsLower.dividesByZero parts situation failed).mono fun _ =>
        .tail _
  | .negation draft, _, .negation inner, situation, _, _, fails => by
      cases innerHas : draft.evaluate situation with
      | error error =>
          rw [ConditionDraft.evaluate, innerHas] at fails
          cases fails
          exact (ConditionDraft.Lowers.dividesByZero inner situation innerHas).mono fun _ =>
            .tail _
      | ok holds =>
          rw [ConditionDraft.evaluate, innerHas] at fails
          cases fails
  | _, _, .numbers known left right, situation, _, _, fails => by
      have lowers := ConditionDraft.Lowers.numbers known left right
      exact (lowers.comparison_dividesByZero situation fails).mono fun _ => .tail _
  | _, _, .moves known left right, situation, _, _, fails => by
      have lowers := ConditionDraft.Lowers.moves known left right
      exact (lowers.comparison_dividesByZero situation fails).mono fun _ => .tail _

theorem ConditionDraft.PartsLower.dividesByZero : ∀ {drafts : List ConditionDraft}
    {conditions : List Condition} (_ : ConditionDraft.PartsLower drafts conditions)
    (situation : Situation) {depth : Nat} {error : DecisionError},
    .error error ∈ ConditionDraft.outcomes situation drafts →
    DividesByZero situation (ConditionDraft.partNodes depth drafts) error
  | _, _, .nil, _, _, _, member => by cases member
  | _, _, .cons part rest, situation, _, _, member => by
      rw [ConditionDraft.outcomes] at member
      rcases List.mem_cons.mp member with fails | member
      · exact (ConditionDraft.Lowers.dividesByZero part situation fails.symm).mono fun _ =>
          List.mem_append_left _
      · exact (ConditionDraft.PartsLower.dividesByZero rest situation member).mono fun _ =>
          List.mem_append_right _

end

/-! ## Whole rules -/

theorem actionMeant_eq {name : String} {action : Action}
    (known : Action.ofName? name = some action) (seed : UInt64) (round : UInt32) :
    actionMeant seed round name = .ok (action.move seed round) := by
  unfold Action.ofName? at known
  split at known
  · rename_i random
    cases known
    rw [random]
    rfl
  · unfold Move.ofName? at known
    split at known <;> cases known <;> rfl

theorem RuleDraft.evaluate_nil (otherwise : String) (seed : UInt64) (situation : Situation) :
    (RuleDraft.mk [] otherwise).evaluate seed situation =
      actionMeant seed situation.round otherwise := rfl

theorem RuleDraft.evaluate_cons (clause : ClauseDraft) (rest : List ClauseDraft)
    (otherwise : String) (seed : UInt64) (situation : Situation) :
    (RuleDraft.mk (clause :: rest) otherwise).evaluate seed situation =
      match clause.condition.evaluate situation with
      | .error error => .error error
      | .ok true => actionMeant seed situation.round clause.action
      | .ok false => (RuleDraft.mk rest otherwise).evaluate seed situation := by
  have search : (RuleDraft.mk (clause :: rest) otherwise).deciding? situation =
      if decides false (clause.condition.evaluate situation) then some clause
      else (RuleDraft.mk rest otherwise).deciding? situation := by
    rw [deciding?, List.find?_cons]
    cases decides false (clause.condition.evaluate situation) <;> rfl
  unfold evaluate
  rw [search]
  rcases outcome : clause.condition.evaluate situation with error | (_ | _)
  · simp only [decides, if_true, outcome]
    rfl
  · simp only [decides, bne_self_eq_false, Bool.false_eq_true, if_false]
  · simp only [decides, Bool.bne_false, if_true, outcome]
    rfl

theorem ClauseDraft.AllLower.evaluate_eq {drafts : List ClauseDraft} {clauses : List Clause}
    (lower : ClauseDraft.AllLower drafts clauses) {name : String} {otherwise : Action}
    (known : Action.ofName? name = some otherwise) (seed : UInt64) (situation : Situation) :
    (RuleDraft.mk drafts name).evaluate seed situation =
      (Rule.mk clauses otherwise seed).play situation := by
  induction lower with
  | nil => rw [RuleDraft.evaluate_nil, actionMeant_eq known]; rfl
  | cons condition action rest induction =>
      rename_i draft drafts clause clauses
      rw [RuleDraft.evaluate_cons, condition.evaluate_eq, induction, actionMeant_eq action]
      simp only [Rule.play, Rule.action]
      rcases clause.condition.holds situation with _ | (_ | _) <;> rfl

theorem ClauseDraft.AllLower.dividesByZero {drafts : List ClauseDraft} {clauses : List Clause}
    (lower : ClauseDraft.AllLower drafts clauses) {name : String} {otherwise : Action}
    (known : Action.ofName? name = some otherwise) (seed : UInt64) (situation : Situation)
    {error : DecisionError}
    (fails : (RuleDraft.mk drafts name).evaluate seed situation = .error error) :
    DividesByZero situation (drafts.flatMap (·.condition.nodes 1)) error := by
  induction lower with
  | nil =>
      rw [RuleDraft.evaluate_nil, actionMeant_eq known] at fails
      cases fails
  | cons condition action rest induction =>
      rename_i draft drafts clause clauses
      rw [RuleDraft.evaluate_cons, actionMeant_eq action] at fails
      rw [List.flatMap_cons]
      rcases outcome : draft.condition.evaluate situation with conditionError | (_ | _)
      · rw [outcome] at fails
        cases fails
        exact (condition.dividesByZero situation outcome).mono fun _ =>
          List.mem_append_left _
      · rw [outcome] at fails
        exact (induction fails).mono fun _ => List.mem_append_right _
      · rw [outcome] at fails
        cases fails

theorem RuleDraft.dividesByZero_of_play {draft : RuleDraft} {seed : UInt64} {rule : Rule}
    (accepted : draft.check seed = .ok rule) {situation : Situation} {error : DecisionError}
    (fails : rule.play situation = .error error) :
    DividesByZero situation draft.nodes error := by
  rcases check_eq_ok.mp accepted with ⟨_, _, lowers, rfl⟩
  have agrees := lowers.clauses.evaluate_eq lowers.otherwise rule.seed situation
  exact lowers.clauses.dividesByZero lowers.otherwise rule.seed situation (agrees.trans fails)

/-- A checked rule plays what its draft means, and fails only with the remainder
by zero at some node of the draft. -/
theorem RuleDraft.play_eq_evaluate {draft : RuleDraft} {seed : UInt64} {rule : Rule}
    (accepted : draft.check seed = .ok rule) (situation : Situation) :
    rule.play situation = draft.evaluate seed situation ∧
      ∀ error, rule.play situation = .error error →
        DividesByZero situation draft.nodes error := by
  rcases check_eq_ok.mp accepted with ⟨_, _, lowers, rfl⟩
  have agrees := lowers.clauses.evaluate_eq lowers.otherwise rule.seed situation
  refine ⟨agrees.symm, ?_⟩
  intro error fails
  exact lowers.clauses.dividesByZero lowers.otherwise rule.seed situation (agrees.trans fails)

/-- Before the first round the total is zero: the second part of the condition
divides by it, and the clause after it is not reached. -/
theorem RuleDraft.play_divides_by_total :
    let draft : RuleDraft :=
      ⟨[⟨.any [.comparison (.predicate "opponent_last_move") "ne" (.predicate "own_last_move"),
          .comparison
            (.arithmetic "%" (.predicate "round_index") (.predicate "own_total_score"))
            "lt" (.predicate "own_cooperation_rate")], "defect"⟩,
        ⟨.comparison (.predicate "round_index") "==" (.predicate "round_index"), "random"⟩],
        "cooperate"⟩
    let situation : Situation := ⟨[], [], 0, .classic⟩
    ∃ rule error, draft.check 7 = .ok rule ∧ rule.play situation = .error error ∧
      DividesByZero situation draft.nodes error := by
  intro draft situation
  have accepts : (draft.check 7).toOption.isSome = true := by decide +kernel
  have stops : (draft.evaluate 7 situation).toOption.isNone = true := by decide +kernel
  rcases accepted : draft.check 7 with error | rule
  · rw [accepted] at accepts
    cases accepts
  · have agreement := play_eq_evaluate accepted situation
    rw [← agreement.1] at stops
    rcases played : rule.play situation with error | move
    · exact ⟨rule, error, rfl, played, agreement.2 error played⟩
    · rw [played] at stops
      cases stops

end Dilemma
