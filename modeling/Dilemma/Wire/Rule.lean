import Dilemma.Json.Reader
import Dilemma.Rule.Draft

/-! # Rule drafts in JSON

Conditions and operands are objects with one member that names the kind of
node. Reading stops at the nesting limit: `room` counts the brackets that may
still be opened. -/

namespace Dilemma

/-! ## Writing -/

def OperandDraft.toJson : OperandDraft → Json
  | .predicate name => .object [("predicate", .text name)]
  | .number value => .object [("number", .real value)]
  | .move name => .object [("move", .text name)]
  | .arithmetic operator left right =>
      .object [("arith", .object
        [("op", .text operator), ("left", left.toJson), ("right", right.toJson)])]

mutual

def ConditionDraft.toJson : ConditionDraft → Json
  | .all parts => .object [("all", .array (ConditionDraft.partsToJson parts))]
  | .any parts => .object [("any", .array (ConditionDraft.partsToJson parts))]
  | .negation inner => .object [("not", inner.toJson)]
  | .comparison left operator right =>
      .object [("compare", .object
        [("left", left.toJson), ("op", .text operator), ("right", right.toJson)])]

def ConditionDraft.partsToJson : List ConditionDraft → List Json
  | [] => []
  | part :: rest => part.toJson :: ConditionDraft.partsToJson rest

end

def ClauseDraft.toJson (clause : ClauseDraft) : Json :=
  .object [("when", clause.condition.toJson), ("then", .text clause.action)]

def RuleDraft.toJson (draft : RuleDraft) : Json :=
  .object [("clauses", .array (draft.clauses.map ClauseDraft.toJson)),
    ("otherwise", .text draft.otherwise)]

/-! ## Reading -/

def OperandDraft.ofJson? : (room : Nat) → Json → Option OperandDraft
  | 0, _ => none
  | 1, json => do
      match ← json.alternative? with
      | ("predicate", contents) => return .predicate (← contents.text?)
      | ("number", contents) => return .number (← contents.real?)
      | ("move", contents) => return .move (← contents.text?)
      | _ => none
  | room + 2, json => do
      match ← json.alternative? with
      | ("predicate", contents) => return .predicate (← contents.text?)
      | ("number", contents) => return .number (← contents.real?)
      | ("move", contents) => return .move (← contents.text?)
      | ("arith", contents) =>
          match ← contents.fields? ["op", "left", "right"] with
          | [some operator, some left, some right] =>
              return .arithmetic (← operator.text?) (← OperandDraft.ofJson? room left)
                (← OperandDraft.ofJson? room right)
          | _ => none
      | _ => none

def ConditionDraft.ofJson? : (room : Nat) → Json → Option ConditionDraft
  | 0, _ | 1, _ => none
  | room + 2, json => do
      match ← json.alternative? with
      | ("all", contents) => return .all (← contents.list? (ConditionDraft.ofJson? room))
      | ("any", contents) => return .any (← contents.list? (ConditionDraft.ofJson? room))
      | ("not", contents) => return .negation (← ConditionDraft.ofJson? (room + 1) contents)
      | ("compare", contents) =>
          match ← contents.fields? ["left", "op", "right"] with
          | [some left, some operator, some right] =>
              return .comparison (← OperandDraft.ofJson? room left) (← operator.text?)
                (← OperandDraft.ofJson? room right)
          | _ => none
      | _ => none

def ClauseDraft.ofJson? (room : Nat) (json : Json) : Option ClauseDraft := do
  match ← json.fields? ["when", "then"] with
  | [some condition, some action] =>
      return ⟨← ConditionDraft.ofJson? (room - 1) condition, ← action.text?⟩
  | _ => none

/-- Without clauses there is only the action for all cases. -/
def RuleDraft.ofJson? (room : Nat) (json : Json) : Option RuleDraft := do
  match ← json.fields? ["clauses", "otherwise"] with
  | [some clauses, some otherwise] =>
      return ⟨← clauses.list? (ClauseDraft.ofJson? (room - 2)), ← otherwise.text?⟩
  | [none, some otherwise] => return ⟨[], ← otherwise.text?⟩
  | _ => none

/-- A draft that stands alone. -/
def RuleDraft.parse? (numbers : Json.NumberReader) (text : String) : Option RuleDraft := do
  ofJson? Json.nestingLimit (← Json.parse? numbers text)

end Dilemma
