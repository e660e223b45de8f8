import Dilemma.Number.Decimal
import Dilemma.Rule.Basic

/-! # The text of a rule

Rules are shown as a sentence of clauses. Arithmetic, conjunctions and
disjunctions stand in parentheses. -/

namespace Dilemma

/-- Separate neighbours. -/
def joined (separator : List Char) : List (List Char) → List Char
  | [] => []
  | [text] => text
  | text :: next :: rest => text ++ separator ++ joined separator (next :: rest)

def NumberTerm.chars : NumberTerm → List Char
  | .measure asked => (Predicate.measure asked).name.toList
  | .literal value => value.plainText
  | .arithmetic operator left right =>
      '(' :: (left.chars ++ ' ' :: (operator.sign.toList ++ ' ' :: (right.chars ++ [')'])))

def NumberTerm.text (term : NumberTerm) : String := String.ofList term.chars

def MoveTerm.chars : MoveTerm → List Char
  | lastMove side => (Predicate.lastMove side).name.toList
  | literal move => move.name.toList

/-- Moves can only be compared for equality. -/
def moveComparison (equal : Bool) : Comparison := if equal then .equal else .unequal

mutual

def Condition.chars : Condition → List Char
  | .all parts => '(' :: (joined " and ".toList (Condition.partsChars parts) ++ [')'])
  | .any parts => '(' :: (joined " or ".toList (Condition.partsChars parts) ++ [')'])
  | .negation inner => "not ".toList ++ inner.chars
  | .numbers left comparison right =>
      left.chars ++ ' ' :: (comparison.sign.toList ++ ' ' :: right.chars)
  | .moves left equal right =>
      left.chars ++ ' ' :: ((moveComparison equal).sign.toList ++ ' ' :: right.chars)

def Condition.partsChars : List Condition → List (List Char)
  | [] => []
  | part :: rest => part.chars :: Condition.partsChars rest

end

def Clause.chars (clause : Clause) : List Char :=
  "if ".toList ++ clause.condition.chars ++ " then ".toList ++ clause.action.name.toList ++
    "; ".toList

def Rule.chars (rule : Rule) : List Char :=
  rule.clauses.flatMap Clause.chars ++ "otherwise ".toList ++ rule.otherwise.name.toList

def Rule.text (rule : Rule) : String := String.ofList rule.chars

example :
    Rule.text ⟨[⟨.any [.moves (.lastMove .opponent) true (.literal .defect),
        .numbers (.measure .roundIndex) .less (.literal (Binary64.ofNat 2))], .random⟩],
      .play .cooperate, 0⟩ =
    "if (opponent_last_move == defect or round_index < 2) then random; otherwise cooperate" := by
  decide +kernel

end Dilemma
