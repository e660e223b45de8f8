import Dilemma.Rule.Basic
import Dilemma.Rule.Draft

/-! # Checking rules

A draft becomes a rule only as a whole. Names have to be in the vocabulary,
types have to agree, and the size is limited. Errors are found in reading
order: a node is counted before it is looked at, an operator comes before its
operands, and a clause's condition before its action. -/

namespace Dilemma

inductive TermType where
  | move
  | number
  deriving DecidableEq, Repr

def TermType.name : TermType → String
  | move => "Move"
  | number => "Number"

inductive TypeMismatch where
  | comparing (left right : TermType)
  | ordering (comparison : Comparison)
  | computing (operator : Arithmetic)
  deriving DecidableEq, Repr

def TypeMismatch.detail : TypeMismatch → String
  | comparing left right => s!"cannot compare {left.name} with {right.name}"
  | ordering comparison => s!"moves only support == and !=, got {comparison.sign}"
  | computing operator => s!"`{operator.sign}` needs numeric operands"

namespace Rule

def maxClauses : Nat := 16

/-- Conditions and operands in all clauses together. -/
def maxNodes : Nat := 64

/-- A clause's condition has depth one, its parts have depth two. -/
def maxDepth : Nat := 8

end Rule

inductive RuleError where
  | unknownPredicate (name : String)
  | unknownOperator (name : String)
  | unknownAction (name : String)
  | unknownMove (name : String)
  | unknownTemplate (name : String)
  | typeMismatch (mismatch : TypeMismatch)
  | nonFiniteLiteral
  | zeroDivisor
  | emptyConnective
  | tooManyClauses (count : Nat)
  | tooManyNodes
  | tooDeep
  deriving DecidableEq, Repr

def RuleError.message : RuleError → String
  | unknownPredicate name => s!"predicate `{name}` is not in the allowed vocabulary"
  | unknownOperator name => s!"unknown operator `{name}`"
  | unknownAction name => s!"unknown action `{name}`"
  | unknownMove name => s!"unknown move literal `{name}`"
  | unknownTemplate name => s!"unknown template `{name}`"
  | typeMismatch mismatch => s!"type mismatch: {mismatch.detail}"
  | nonFiniteLiteral => "numeric literal must be finite"
  | zeroDivisor => "modulo by literal zero"
  | emptyConnective => "`all`/`any` needs at least one condition"
  | tooManyClauses count => s!"rule has {count} clauses, limit is {Rule.maxClauses}"
  | tooManyNodes => s!"rule exceeds {Rule.maxNodes} nodes"
  | tooDeep => s!"condition nesting exceeds depth {Rule.maxDepth}"

/-- The error if there is no value. -/
def orError {α : Type} (error : RuleError) : Option α → Except RuleError α
  | some value => .ok value
  | none => .error error

/-- A checked operand of either type. -/
inductive Term where
  | number (term : NumberTerm)
  | move (term : MoveTerm)
  deriving DecidableEq, Repr

def Term.type : Term → TermType
  | number _ => .number
  | move _ => .move

def Term.ofPredicate : Predicate → Term
  | .lastMove side => .move (.lastMove side)
  | .measure measure => .number (.measure measure)

/-- The term is a zero literal of either sign. -/
def NumberTerm.isZeroLiteral : NumberTerm → Bool
  | literal value => value.isZero
  | _ => false

/-- Count one more node. -/
def visit (depth visited : Nat) : Except RuleError Nat :=
  if Rule.maxNodes < visited + 1 then .error .tooManyNodes
  else if Rule.maxDepth < depth then .error .tooDeep
  else .ok (visited + 1)

/-- Both operands have to be numbers, and a literal divisor is not zero. -/
def combine (operator : Arithmetic) : Term → Term → Except RuleError NumberTerm
  | .number left, .number right =>
      if operator = .modulo ∧ right.isZeroLiteral then .error .zeroDivisor
      else .ok (.arithmetic operator left right)
  | _, _ => .error (.typeMismatch (.computing operator))

def OperandDraft.check (depth visited : Nat) : OperandDraft → Except RuleError (Term × Nat)
  | predicate name => do
      let visited ← visit depth visited
      let predicate ← orError (.unknownPredicate name) (Predicate.ofName? name)
      return (Term.ofPredicate predicate, visited)
  | number value => do
      let visited ← visit depth visited
      if value.isFinite then return (.number (.literal value), visited)
      else throw .nonFiniteLiteral
  | move name => do
      let visited ← visit depth visited
      let move ← orError (.unknownMove name) (Move.ofName? name)
      return (.move (.literal move), visited)
  | arithmetic name left right => do
      let visited ← visit depth visited
      let operator ← orError (.unknownOperator name) (Arithmetic.ofName? name)
      let (left, visited) ← left.check (depth + 1) visited
      let (right, visited) ← right.check (depth + 1) visited
      let term ← combine operator left right
      return (.number term, visited)

/-- Both sides have to be of one type, and moves have no order. -/
def compareTerms (comparison : Comparison) : Term → Term → Except RuleError Condition
  | .number left, .number right => .ok (.numbers left comparison right)
  | .move left, .move right =>
      match comparison with
      | .equal => .ok (.moves left true right)
      | .unequal => .ok (.moves left false right)
      | comparison => .error (.typeMismatch (.ordering comparison))
  | left, right => .error (.typeMismatch (.comparing left.type right.type))

/-- A conjunction or disjunction has at least one part. -/
def requireParts (parts : List ConditionDraft) : Except RuleError Unit :=
  if parts.isEmpty then .error .emptyConnective else .ok ()

mutual

def ConditionDraft.check (depth visited : Nat) :
    ConditionDraft → Except RuleError (Condition × Nat)
  | .all parts => do
      let visited ← visit depth visited
      requireParts parts
      let (parts, visited) ← ConditionDraft.checkParts (depth + 1) visited parts
      return (.all parts, visited)
  | .any parts => do
      let visited ← visit depth visited
      requireParts parts
      let (parts, visited) ← ConditionDraft.checkParts (depth + 1) visited parts
      return (.any parts, visited)
  | .negation inner => do
      let visited ← visit depth visited
      let (inner, visited) ← inner.check (depth + 1) visited
      return (.negation inner, visited)
  | .comparison left name right => do
      let visited ← visit depth visited
      let comparison ← orError (.unknownOperator name) (Comparison.ofName? name)
      let (left, visited) ← left.check (depth + 1) visited
      let (right, visited) ← right.check (depth + 1) visited
      let condition ← compareTerms comparison left right
      return (condition, visited)

def ConditionDraft.checkParts (depth visited : Nat) :
    List ConditionDraft → Except RuleError (List Condition × Nat)
  | [] => return ([], visited)
  | part :: rest => do
      let (part, visited) ← part.check depth visited
      let (rest, visited) ← ConditionDraft.checkParts depth visited rest
      return (part :: rest, visited)

end

def checkAction (name : String) : Except RuleError Action :=
  orError (.unknownAction name) (Action.ofName? name)

def ClauseDraft.checkAll (visited : Nat) : List ClauseDraft → Except RuleError (List Clause)
  | [] => return []
  | clause :: rest => do
      let (condition, visited) ← clause.condition.check 1 visited
      let action ← checkAction clause.action
      let rest ← ClauseDraft.checkAll visited rest
      return ⟨condition, action⟩ :: rest

/-- The rule of a draft, with the seed for its random actions. -/
def RuleDraft.check (draft : RuleDraft) (seed : UInt64) : Except RuleError Rule := do
  if Rule.maxClauses < draft.clauses.length then
    throw (.tooManyClauses draft.clauses.length)
  let clauses ← ClauseDraft.checkAll 0 draft.clauses
  let otherwise ← checkAction draft.otherwise
  return ⟨clauses, otherwise, seed⟩

end Dilemma
