import Dilemma.Proofs.Rule.Tokens

/-! # Reading rules back

What a condition is can be told from the tokens with which it begins. Only an opening
parenthesis leaves it open: a group of conditions begins with one, and so does a
computation. There the sign after the first number decides, as no sign both compares
and computes. -/

namespace Dilemma

open Rule (Token)

/-! ## Words apart -/

theorem Binary64.plainText_ne (value : Binary64) {word : List Char} {letter : Char}
    (member : letter ∈ word) (unlike : letter.isDigit = false ∧ letter ∉ "-.infNa".toList) :
    value.plainText ≠ word := by
  rintro rfl
  rcases mem_plainText member with digit | sign
  · rw [unlike.1] at digit
    cases digit
  · exact unlike.2 sign

theorem Measure.name_inj {left right : Measure}
    (same : (Predicate.measure left).name.toList = (Predicate.measure right).name.toList) :
    left = right := by
  have predicates := congrArg Predicate.ofName? (String.toList_injective same)
  rw [Predicate.ofName?_name, Predicate.ofName?_name] at predicates
  exact Predicate.measure.inj (Option.some.inj predicates)

/-- Every measure has two words or more in its name. -/
theorem Measure.underscore_mem (asked : Measure) : '_' ∈ (Predicate.measure asked).name.toList := by
  rcases asked with _ | (_ | _) | (_ | _) <;> decide

theorem Arithmetic.sign_inj {left right : Arithmetic}
    (same : left.sign.toList = right.sign.toList) : left = right := by
  cases left <;> cases right <;> first | rfl | exact absurd same (by decide)

theorem Comparison.sign_inj {left right : Comparison}
    (same : left.sign.toList = right.sign.toList) : left = right := by
  cases left <;> cases right <;> first | rfl | exact absurd same (by decide)

theorem Comparison.sign_ne (comparison : Comparison) (operator : Arithmetic) :
    comparison.sign.toList ≠ operator.sign.toList := by
  cases comparison <;> cases operator <;> decide

theorem Action.name_inj {left right : Action} (same : left.name.toList = right.name.toList) :
    left = right := by
  have actions := congrArg Action.ofName? (String.toList_injective same)
  rw [Action.ofName?_name, Action.ofName?_name] at actions
  exact Option.some.inj actions

theorem MoveTerm.chars_inj {left right : MoveTerm} (same : left.chars = right.chars) :
    left = right := by
  rcases left with (_ | _) | (_ | _) <;> rcases right with (_ | _) | (_ | _) <;>
    first | rfl | exact absurd same (by decide)

theorem moveComparison_inj {left right : Bool} (same : moveComparison left = moveComparison right) :
    left = right := by
  cases left <;> cases right <;> first | rfl | cases same

/-! ## Numbers -/

theorem Binary64.plainText_ne_name (value : Binary64) (asked : Measure) :
    value.plainText ≠ (Predicate.measure asked).name.toList :=
  value.plainText_ne asked.underscore_mem (by decide)

namespace NumberTerm

/-- Where a number ends can be told from its tokens. -/
theorem tokens_inj {left right : NumberTerm} {rest other : List Token}
    (same : left.tokens ++ rest = right.tokens ++ other) : left = right ∧ rest = other := by
  induction left generalizing right rest other with
  | measure asked =>
      cases right with
      | measure asked' =>
          injection same with word tail
          rw [Measure.name_inj (Token.word.inj word)]
          exact ⟨rfl, tail⟩
      | literal value =>
          injection same with word
          exact absurd (Token.word.inj word).symm (value.plainText_ne_name asked)
      | arithmetic operator first second => cases same
  | literal value =>
      cases right with
      | measure asked =>
          injection same with word
          exact absurd (Token.word.inj word) (value.plainText_ne_name asked)
      | literal value' =>
          injection same with word tail
          rw [Binary64.plainText_injective (Token.word.inj word)]
          exact ⟨rfl, tail⟩
      | arithmetic operator first second => cases same
  | arithmetic operator first second firstInduction secondInduction =>
      cases right with
      | measure asked => cases same
      | literal value => cases same
      | arithmetic operator' first' second' =>
          simp only [tokens, List.cons_append, List.append_assoc, List.nil_append, List.cons.injEq,
            true_and] at same
          rcases firstInduction same with ⟨rfl, signs⟩
          injection signs with sign seconds
          rcases secondInduction seconds with ⟨rfl, closings⟩
          injection closings with _ tail
          rw [Arithmetic.sign_inj (Token.word.inj sign)]
          exact ⟨rfl, tail⟩

end NumberTerm

/-! ## How a condition begins -/

namespace Condition

/-- After a comparison with a number on its left there is no sign of a computation. -/
theorem numbers_ne_operand (left term : NumberTerm) (comparison : Comparison)
    (operator : Arithmetic) (rest other : List Token) :
    left.tokens ++ .word comparison.sign.toList :: rest ≠
      term.tokens ++ .word operator.sign.toList :: other := by
  intro same
  rcases NumberTerm.tokens_inj same with ⟨_, signs⟩
  injection signs with sign
  exact comparison.sign_ne operator (Token.word.inj sign)

theorem tokens_ne_word (condition : Condition) (term : NumberTerm) {word : List Char}
    (single : term.tokens = [.word word]) (different : "not".toList ≠ word)
    (operator : Arithmetic) (rest other : List Token) :
    condition.tokens ++ rest ≠ term.tokens ++ .word operator.sign.toList :: other := by
  intro same
  cases condition with
  | numbers left comparison right =>
      rw [tokens, List.append_assoc] at same
      exact numbers_ne_operand left term comparison operator _ _ same
  | moves left equal right =>
      rw [single] at same
      injection same with _ signs
      injection signs with sign
      exact Comparison.sign_ne _ operator (Token.word.inj sign)
  | negation inner =>
      rw [single] at same
      injection same with first
      exact different (Token.word.inj first)
  | all parts =>
      rw [single] at same
      cases same
  | any parts =>
      rw [single] at same
      cases same

theorem not_ne_name (asked : Measure) :
    "not".toList ≠ (Predicate.measure asked).name.toList := by
  intro same
  have underscore := asked.underscore_mem
  rw [← same] at underscore
  exact absurd underscore (by decide)

theorem not_ne_plainText (value : Binary64) : "not".toList ≠ value.plainText :=
  Ne.symm (value.plainText_ne (List.mem_cons_of_mem _ (List.mem_cons_self ..)) (by decide))

theorem not_ne_move (move : MoveTerm) : "not".toList ≠ move.chars := by
  rcases move with (_ | _) | (_ | _) <;> decide

/-- No condition begins with a number and the sign of a computation. -/
theorem tokens_ne_operand (condition : Condition) (term : NumberTerm) (operator : Arithmetic)
    (rest other : List Token) :
    condition.tokens ++ rest ≠ term.tokens ++ .word operator.sign.toList :: other := by
  induction term generalizing condition operator rest other with
  | measure asked => exact condition.tokens_ne_word _ rfl (not_ne_name asked) operator rest other
  | literal value =>
      exact condition.tokens_ne_word _ rfl (not_ne_plainText value) operator rest other
  | arithmetic inner first second induction _ =>
      -- Behind the parenthesis of a group the same question returns for its first part.
      have group (connective : List Char) (parts : List Condition) (rest other : List Token) :
          groupTokens connective parts ++ rest ≠
            first.tokens ++ .word inner.sign.toList :: other := by
        cases parts with
        | nil => cases first <;> exact fun same => by cases same
        | cons part parts =>
            rw [groupTokens, List.append_assoc]
            exact induction part inner _ _
      intro same
      cases condition with
      | numbers left comparison right =>
          rw [tokens, List.append_assoc] at same
          exact numbers_ne_operand left _ comparison operator _ _ same
      | moves left equal right => cases same
      | negation inner => cases same
      | all parts =>
          rw [tokens, NumberTerm.tokens, List.cons_append, List.cons_append] at same
          injection same with _ inside
          rw [List.append_assoc] at inside
          exact group _ _ _ _ inside
      | any parts =>
          rw [tokens, NumberTerm.tokens, List.cons_append, List.cons_append] at same
          injection same with _ inside
          rw [List.append_assoc] at inside
          exact group _ _ _ _ inside

/-! ## What a beginning leads to -/

/-- A conjunction or a disjunction. -/
def group (conjunctive : Bool) (parts : List Condition) : Condition :=
  if conjunctive then .all parts else .any parts

def connective (conjunctive : Bool) : List Char :=
  if conjunctive then "and".toList else "or".toList

theorem tokens_group (conjunctive : Bool) (parts : List Condition) :
    (group conjunctive parts).tokens = .opening :: groupTokens (connective conjunctive) parts := by
  cases conjunctive <;> rfl

variable {condition : Condition} {rest other : List Token}

theorem closing_ne (condition : Condition) : .closing :: rest ≠ condition.tokens ++ other := by
  intro same
  cases condition with
  | numbers left comparison right => cases left <;> cases same
  | _ => cases same

theorem not_ne_number (term : NumberTerm) : .word "not".toList :: rest ≠ term.tokens ++ other := by
  intro same
  cases term with
  | measure asked =>
      injection same with first
      exact not_ne_name asked (Token.word.inj first)
  | literal value =>
      injection same with first
      exact not_ne_plainText value (Token.word.inj first)
  | arithmetic operator first second => cases same

theorem move_ne_number (move : MoveTerm) (term : NumberTerm) :
    .word move.chars :: rest ≠ term.tokens ++ other := by
  intro same
  cases term with
  | measure asked =>
      injection same with first
      have names := Token.word.inj first
      rcases asked with _ | (_ | _) | (_ | _) <;> rcases move with (_ | _) | (_ | _) <;>
        exact absurd names (by decide)
  | literal value =>
      injection same with first
      have letter : 't' ∈ move.chars := by
        rcases move with (_ | _) | (_ | _) <;> decide
      exact value.plainText_ne letter (by decide) (Token.word.inj first).symm
  | arithmetic operator first second => cases same

theorem opening_ne_number (part : Condition) (term : NumberTerm) :
    .opening :: (part.tokens ++ rest) ≠ term.tokens ++ other := by
  intro same
  cases term with
  | measure asked => cases same
  | literal value => cases same
  | arithmetic operator first second =>
      rw [NumberTerm.tokens, List.cons_append, List.append_assoc] at same
      injection same with _ inside
      exact part.tokens_ne_operand first operator _ _ inside

theorem group_ne_number (conjunctive : Bool) (parts : List Condition) (term : NumberTerm) :
    (group conjunctive parts).tokens ++ rest ≠ term.tokens ++ other := by
  rw [tokens_group]
  cases parts with
  | nil =>
      intro same
      cases term with
      | arithmetic operator first second => cases first <;> cases same
      | _ => cases same
  | cons part parts =>
      rw [groupTokens, List.cons_append, List.append_assoc]
      exact opening_ne_number part term

theorem eq_negation (same : .word "not".toList :: rest = condition.tokens ++ other) :
    ∃ inner, condition = .negation inner ∧ rest = inner.tokens ++ other := by
  cases condition with
  | negation inner =>
      injection same with _ tail
      exact ⟨inner, rfl, tail⟩
  | numbers left comparison right =>
      rw [tokens, List.append_assoc] at same
      exact absurd same (not_ne_number left)
  | moves left equal right =>
      injection same with first
      exact absurd (Token.word.inj first) (not_ne_move left)
  | all parts => cases same
  | any parts => cases same

theorem eq_numbers {left : NumberTerm} {comparison : Comparison}
    (same : left.tokens ++ .word comparison.sign.toList :: rest = condition.tokens ++ other) :
    ∃ right, condition = .numbers left comparison right ∧ rest = right.tokens ++ other := by
  cases condition with
  | numbers left' comparison' right =>
      rw [tokens, List.append_assoc] at same
      rcases NumberTerm.tokens_inj same with ⟨rfl, signs⟩
      injection signs with sign tail
      rw [Comparison.sign_inj (Token.word.inj sign)]
      exact ⟨right, rfl, tail⟩
  | negation inner => exact absurd same.symm (not_ne_number left)
  | moves left' equal right => exact absurd same.symm (move_ne_number left' left)
  | all parts => exact absurd same.symm (group_ne_number true parts left)
  | any parts => exact absurd same.symm (group_ne_number false parts left)

theorem eq_moves {left right : MoveTerm} {equal : Bool}
    (same : (moves left equal right).tokens ++ rest = condition.tokens ++ other) :
    condition = .moves left equal right ∧ rest = other := by
  cases condition with
  | moves left' equal' right' =>
      injection same with first later
      injection later with sign later
      injection later with second tail
      rw [MoveTerm.chars_inj (Token.word.inj first), MoveTerm.chars_inj (Token.word.inj second),
        moveComparison_inj (Comparison.sign_inj (Token.word.inj sign))]
      exact ⟨rfl, tail⟩
  | numbers left' comparison right' =>
      rw [tokens, tokens, List.append_assoc] at same
      exact absurd same (move_ne_number left left')
  | negation inner =>
      injection same with first
      exact absurd (Token.word.inj first).symm (not_ne_move left)
  | all parts => cases same
  | any parts => cases same

theorem eq_group {part : Condition}
    (same : .opening :: (part.tokens ++ rest) = condition.tokens ++ other) :
    ∃ conjunctive first later, condition = group conjunctive (first :: later) ∧
      part.tokens ++ rest =
        first.tokens ++ (laterTokens (connective conjunctive) later ++ other) := by
  have grouped (conjunctive : Bool) (parts : List Condition)
      (is : condition = group conjunctive parts) :
      ∃ conjunctive first later, condition = group conjunctive (first :: later) ∧
        part.tokens ++ rest =
          first.tokens ++ (laterTokens (connective conjunctive) later ++ other) := by
    rw [is, tokens_group] at same
    injection same with _ inside
    cases parts with
    | nil => exact absurd inside.symm part.closing_ne
    | cons first later =>
        rw [groupTokens, List.append_eq, List.append_assoc] at inside
        exact ⟨conjunctive, first, later, is, inside⟩
  cases condition with
  | all parts => exact grouped true parts rfl
  | any parts => exact grouped false parts rfl
  | numbers left comparison right =>
      rw [tokens, List.append_assoc] at same
      exact absurd same (opening_ne_number part left)
  | negation inner => cases same
  | moves left equal right => cases same

end Condition

end Dilemma
