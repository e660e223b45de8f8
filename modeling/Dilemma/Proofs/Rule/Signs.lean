import Dilemma.Proofs.Number.Signs
import Dilemma.Proofs.Rule.Sameness
import Dilemma.Rule.Evaluation

/-! # Rules up to the sign of zero

Two rules are the same exactly if they are equal once no zero literal in them is negative. A rule
plays in any situation as it does without these signs, since neither comparisons nor arithmetic
show them. Only the text of a failure can tell such rules apart. -/

namespace Dilemma

open Binary64 (position)

/-! ## Rules without negative zeros -/

def NumberTerm.unsigned : NumberTerm → NumberTerm
  | .measure asked => .measure asked
  | .literal value => .literal value.unsigned
  | .arithmetic operator left right => .arithmetic operator left.unsigned right.unsigned

mutual

def Condition.unsigned : Condition → Condition
  | .all parts => .all (Condition.unsignedParts parts)
  | .any parts => .any (Condition.unsignedParts parts)
  | .negation inner => .negation inner.unsigned
  | .numbers left comparison right => .numbers left.unsigned comparison right.unsigned
  | .moves left equal right => .moves left equal right

def Condition.unsignedParts : List Condition → List Condition
  | [] => []
  | part :: rest => part.unsigned :: Condition.unsignedParts rest

end

def Clause.unsigned (clause : Clause) : Clause := ⟨clause.condition.unsigned, clause.action⟩

def Rule.unsigned (rule : Rule) : Rule :=
  ⟨rule.clauses.map Clause.unsigned, rule.otherwise, rule.seed⟩

/-! ## Sameness

What is not the same as itself has a literal that is no number, and is the same as nothing. -/

theorem NumberTerm.same_iff {left right : NumberTerm} (sound : left.same left = true) :
    left.same right = true ↔ left.unsigned = right.unsigned := by
  induction left generalizing right with
  | measure asked => cases right <;> simp [same, unsigned]
  | literal value =>
      cases right with
      | literal other => simp [same, unsigned, Binary64.equal_iff sound]
      | _ => simp [same, unsigned]
  | arithmetic operator first second firstInduction secondInduction =>
      simp only [same, decide_true, Bool.true_and, Bool.and_eq_true] at sound
      cases right with
      | arithmetic other left right =>
          simp [same, unsigned, firstInduction sound.1, secondInduction sound.2, and_assoc]
      | _ => simp [same, unsigned]

mutual

theorem Condition.same_iff : ∀ {left right : Condition} (_ : left.same left = true),
    left.same right = true ↔ left.unsigned = right.unsigned
  | .all parts, right, sound => by
      rw [same] at sound
      cases right with
      | all others => simp [same, unsigned, Condition.sameParts_iff sound]
      | _ => simp [same, unsigned]
  | .any parts, right, sound => by
      rw [same] at sound
      cases right with
      | any others => simp [same, unsigned, Condition.sameParts_iff sound]
      | _ => simp [same, unsigned]
  | .negation inner, right, sound => by
      rw [same] at sound
      cases right with
      | negation other => simp [same, unsigned, Condition.same_iff sound]
      | _ => simp [same, unsigned]
  | .numbers first comparison second, right, sound => by
      simp only [same, decide_true, Bool.and_true, Bool.and_eq_true] at sound
      cases right with
      | numbers left other right =>
          simp [same, unsigned, NumberTerm.same_iff sound.1, NumberTerm.same_iff sound.2, and_assoc]
      | _ => simp [same, unsigned]
  | .moves first equal second, right, _ => by
      cases right with
      | moves left other right => simp [same, unsigned, and_assoc]
      | _ => simp [same, unsigned]

theorem Condition.sameParts_iff : ∀ {left right : List Condition}
    (_ : Condition.sameParts left left = true), Condition.sameParts left right = true ↔
      Condition.unsignedParts left = Condition.unsignedParts right
  | [], right, _ => by
      cases right <;> simp [sameParts, unsignedParts]
  | part :: rest, right, sound => by
      rw [sameParts, Bool.and_eq_true] at sound
      cases right with
      | nil => simp [sameParts, unsignedParts]
      | cons other others =>
          simp [sameParts, unsignedParts, Condition.same_iff sound.1,
            Condition.sameParts_iff sound.2]

end

theorem Clause.sameAll_iff {left right : List Clause} (sound : Clause.sameAll left left = true) :
    Clause.sameAll left right = true ↔ left.map unsigned = right.map unsigned := by
  induction left generalizing right with
  | nil => cases right <;> simp [sameAll]
  | cons clause rest induction =>
      simp only [sameAll, same, decide_true, Bool.and_true, Bool.and_eq_true] at sound
      cases right with
      | nil => simp [sameAll]
      | cons other others =>
          simp [sameAll, same, unsigned, Condition.same_iff sound.1, induction sound.2]

theorem Rule.same_iff {left right : Rule} (sound : left.same left = true) :
    left.same right = true ↔ left.unsigned = right.unsigned := by
  simp only [same, decide_true, Bool.and_true] at sound
  simp [same, unsigned, Clause.sameAll_iff sound, and_assoc]

/-! ## Outcomes -/

/-- What went wrong, without the texts. -/
inductive DecisionError.Kind where
  | divisionByZero
  | crashed
  | other
  deriving DecidableEq, Repr

def DecisionError.kind : DecisionError → Kind
  | divisionByZero _ => .divisionByZero
  | crashed _ => .crashed
  | other _ => .other

section Outcome

variable {α β γ δ : Type}

/-- What comes of an evaluation, as far as it can be told by `view`. -/
def outcome (view : α → β) : Except DecisionError α → Except DecisionError.Kind β
  | .ok value => .ok (view value)
  | .error error => .error error.kind

/-- Evaluations with one outcome go on alike if all that follows asks for nothing else. -/
theorem outcome_bind {seen : α → β} {view : γ → δ} {step other : Except DecisionError α}
    {next after : α → Except DecisionError γ} (steps : outcome seen step = outcome seen other)
    (follow : ∀ value another, seen value = seen another →
      outcome view (next value) = outcome view (after another)) :
    outcome view (step >>= next) = outcome view (other >>= after) := by
  cases step with
  | ok value =>
      cases other with
      | ok another => exact follow value another (Except.ok.inj steps)
      | error error => cases steps
  | error error =>
      cases other with
      | ok another => cases steps
      | error another => exact congrArg Except.error (Except.error.inj steps)

end Outcome

/-! ## Evaluation -/

variable (situation : Situation)

theorem NumberTerm.outcome_unsigned (term : NumberTerm) :
    outcome position (term.unsigned.value situation) = outcome position (term.value situation) := by
  induction term with
  | measure asked => rfl
  | literal value => exact congrArg Except.ok (Binary64.position_unsigned value)
  | arithmetic operator left right leftInduction rightInduction =>
      refine outcome_bind leftInduction fun first other firstSame => ?_
      refine outcome_bind rightInduction fun second another secondSame => ?_
      have results := operator.result?_congr firstSame secondSame
      cases here : operator.result? first second <;>
        cases there : operator.result? other another <;>
          rw [here, there] at results
      · rfl
      · cases results
      · cases results
      · exact congrArg Except.ok (Option.some.inj results)

mutual

theorem Condition.outcome_unsigned : ∀ condition : Condition,
    outcome id (condition.unsigned.holds situation) = outcome id (condition.holds situation)
  | .all parts => by
      rw [unsigned, holds, holds]
      exact (Condition.outcome_unsignedParts parts).1
  | .any parts => by
      rw [unsigned, holds, holds]
      exact (Condition.outcome_unsignedParts parts).2
  | .negation inner => by
      rw [unsigned, holds, holds]
      refine outcome_bind (Condition.outcome_unsigned inner) fun value other same => ?_
      rw [show value = other from same]
  | .numbers left comparison right => by
      rw [unsigned, holds, holds]
      refine outcome_bind (left.outcome_unsigned situation) fun first other firstSame => ?_
      refine outcome_bind (right.outcome_unsigned situation) fun second another secondSame => ?_
      rw [comparison.holds_congr firstSame secondSame]
  | .moves left equal right => rfl

theorem Condition.outcome_unsignedParts : ∀ parts : List Condition,
    outcome id (Condition.allHold situation (Condition.unsignedParts parts)) =
        outcome id (Condition.allHold situation parts) ∧
      outcome id (Condition.anyHolds situation (Condition.unsignedParts parts)) =
        outcome id (Condition.anyHolds situation parts)
  | [] => ⟨rfl, rfl⟩
  | part :: rest => by
      have first := Condition.outcome_unsigned part
      have others := Condition.outcome_unsignedParts rest
      rw [unsignedParts, allHold, allHold, anyHolds, anyHolds]
      constructor
      · refine outcome_bind first fun value other same => ?_
        rw [show value = other from same]
        split
        · exact others.1
        · rfl
      · refine outcome_bind first fun value other same => ?_
        rw [show value = other from same]
        split
        · rfl
        · exact others.2

end

theorem Rule.outcome_action (otherwise : Action) (clauses : List Clause) :
    outcome id (Rule.action situation otherwise (clauses.map Clause.unsigned)) =
      outcome id (Rule.action situation otherwise clauses) := by
  induction clauses with
  | nil => rfl
  | cons clause rest induction =>
      rw [List.map_cons, action, action]
      refine outcome_bind (clause.condition.outcome_unsigned situation) fun value other same => ?_
      rw [show value = other from same]
      split
      · rfl
      · exact induction

theorem Rule.outcome_unsigned (rule : Rule) :
    outcome id (rule.unsigned.play situation) = outcome id (rule.play situation) := by
  rw [play, play]
  refine outcome_bind (Rule.outcome_action situation rule.otherwise rule.clauses) ?_
  intro first other same
  rw [show first = other from same]
  rfl

/-- The same rules have the same outcomes. -/
theorem Rule.outcome_of_same {left right : Rule} (sound : left.same left = true)
    (same : left.same right = true) :
    outcome id (left.play situation) = outcome id (right.play situation) := by
  rw [← left.outcome_unsigned, (Rule.same_iff sound).mp same, right.outcome_unsigned]

end Dilemma
