import Mathlib.Data.List.Forall2
import Dilemma.Proofs.Rule.Acceptance
import Dilemma.Proofs.Rule.Reading
import Dilemma.Rule.Evaluation

/-! # Rules that look alike

The text of a rule tells all about it except one thing: a conjunction of a single part
looks like a disjunction of that part. Since both hold when the part does, rules with
one text do the same. -/

namespace Dilemma

open Rule (Token)

/-! ## Likeness -/

mutual

/-- The same, up to exchanging conjunctions and disjunctions of a single part. -/
inductive Condition.Alike : Condition → Condition → Prop
  | all {left right : List Condition} (parts : Condition.PartsAlike left right) :
      Alike (.all left) (.all right)
  | any {left right : List Condition} (parts : Condition.PartsAlike left right) :
      Alike (.any left) (.any right)
  | allAny {left right : Condition} (part : Condition.Alike left right) :
      Alike (.all [left]) (.any [right])
  | anyAll {left right : Condition} (part : Condition.Alike left right) :
      Alike (.any [left]) (.all [right])
  | negation {left right : Condition} (inner : Condition.Alike left right) :
      Alike (.negation left) (.negation right)
  | numbers (left : NumberTerm) (comparison : Comparison) (right : NumberTerm) :
      Alike (.numbers left comparison right) (.numbers left comparison right)
  | moves (left : MoveTerm) (equal : Bool) (right : MoveTerm) :
      Alike (.moves left equal right) (.moves left equal right)

inductive Condition.PartsAlike : List Condition → List Condition → Prop
  | nil : PartsAlike [] []
  | cons {left right : Condition} {lefts rights : List Condition}
      (part : Condition.Alike left right) (rest : Condition.PartsAlike lefts rights) :
      PartsAlike (left :: lefts) (right :: rights)

end

structure Clause.Alike (left right : Clause) : Prop where
  condition : left.condition.Alike right.condition
  action : left.action = right.action

structure Rule.Alike (left right : Rule) : Prop where
  clauses : List.Forall₂ Clause.Alike left.clauses right.clauses
  otherwise : left.otherwise = right.otherwise
  seed : left.seed = right.seed

/-! ## What is alike does the same -/

namespace Condition

theorem holds_single (situation : Situation) (part : Condition) :
    (Condition.all [part]).holds situation = part.holds situation ∧
      (Condition.any [part]).holds situation = part.holds situation := by
  simp only [holds, allHold, anyHolds]
  rcases part.holds situation with error | (_ | _)
  · exact ⟨rfl, rfl⟩
  · exact ⟨rfl, rfl⟩
  · exact ⟨rfl, rfl⟩

mutual

theorem Alike.holds_eq : ∀ {left right : Condition} (_ : left.Alike right)
    (situation : Situation), left.holds situation = right.holds situation
  | _, _, .all parts, situation => (PartsAlike.hold_eq parts situation).1
  | _, _, .any parts, situation => (PartsAlike.hold_eq parts situation).2
  | _, _, .allAny part, situation => by
      rw [(holds_single situation _).1, (holds_single situation _).2,
        Alike.holds_eq part situation]
  | _, _, .anyAll part, situation => by
      rw [(holds_single situation _).1, (holds_single situation _).2,
        Alike.holds_eq part situation]
  | _, _, .negation inner, situation => by
      rw [holds, holds, Alike.holds_eq inner situation]
  | _, _, .numbers _ _ _, _ => rfl
  | _, _, .moves _ _ _, _ => rfl

theorem PartsAlike.hold_eq : ∀ {left right : List Condition} (_ : PartsAlike left right)
    (situation : Situation), allHold situation left = allHold situation right ∧
      anyHolds situation left = anyHolds situation right
  | _, _, .nil, _ => ⟨rfl, rfl⟩
  | _, _, .cons part rest, situation => by
      have later := PartsAlike.hold_eq rest situation
      rw [allHold, allHold, anyHolds, anyHolds, Alike.holds_eq part situation, later.1, later.2]
      exact ⟨rfl, rfl⟩

end

mutual

theorem Alike.chars_eq : ∀ {left right : Condition} (_ : left.Alike right), left.chars = right.chars
  | _, _, .all parts => by
      rw [chars, chars, PartsAlike.chars_eq parts]
  | _, _, .any parts => by
      rw [chars, chars, PartsAlike.chars_eq parts]
  | _, _, .allAny part => by
      rw [chars, chars, partsChars, partsChars, Alike.chars_eq part]
      rfl
  | _, _, .anyAll part => by
      rw [chars, chars, partsChars, partsChars, Alike.chars_eq part]
      rfl
  | _, _, .negation inner => by
      rw [chars, chars, Alike.chars_eq inner]
  | _, _, .numbers _ _ _ => rfl
  | _, _, .moves _ _ _ => rfl

theorem PartsAlike.chars_eq : ∀ {left right : List Condition} (_ : PartsAlike left right),
    partsChars left = partsChars right
  | _, _, .nil => rfl
  | _, _, .cons part rest => by
      rw [partsChars, partsChars, Alike.chars_eq part, PartsAlike.chars_eq rest]

end

end Condition

namespace Rule

variable {left right : Rule}

theorem Alike.text_eq (alike : left.Alike right) : left.text = right.text := by
  have clauses {lefts rights : List Clause} (alike : List.Forall₂ Clause.Alike lefts rights) :
      lefts.flatMap Clause.chars = rights.flatMap Clause.chars := by
    induction alike with
    | nil => rfl
    | cons clause rest induction =>
        rw [List.flatMap_cons, List.flatMap_cons, induction, Clause.chars, Clause.chars,
          clause.condition.chars_eq, clause.action]
  rw [text, text, chars, chars, clauses alike.clauses, alike.otherwise]

theorem Alike.play_eq (alike : left.Alike right) (situation : Situation) :
    left.play situation = right.play situation := by
  have actions {lefts rights : List Clause} (alike : List.Forall₂ Clause.Alike lefts rights)
      (otherwise : Action) :
      action situation otherwise lefts = action situation otherwise rights := by
    induction alike with
    | nil => rfl
    | cons clause rest induction =>
        rw [action, action, clause.condition.holds_eq, clause.action, induction]
  rw [play, play, actions alike.clauses, alike.otherwise, alike.seed]

end Rule

/-! ## What looks the same is alike

Both token lists are followed at once, the left one along its tree. Empty groups are left
out: they say nothing about their connective, and it decides whether they hold. -/

mutual

/-- No conjunction and no disjunction is empty. -/
def Condition.Filled : Condition → Prop
  | .all parts => parts ≠ [] ∧ Condition.AllFilled parts
  | .any parts => parts ≠ [] ∧ Condition.AllFilled parts
  | .negation inner => inner.Filled
  | .numbers _ _ _ => True
  | .moves _ _ _ => True

def Condition.AllFilled : List Condition → Prop
  | [] => True
  | part :: rest => part.Filled ∧ Condition.AllFilled rest

end

namespace Condition

theorem connective_inj {left right : Bool} (same : connective left = connective right) :
    left = right := by
  cases left <;> cases right <;> first | rfl | exact absurd same (by decide)

/-- Of a single part, the connective does not matter. -/
theorem group_alike {first first' : Condition} {later later' : List Condition}
    {conjunctive conjunctive' : Bool} (firstAlike : first.Alike first')
    (laterAlike : PartsAlike later later') (connectives : later = [] ∨ conjunctive = conjunctive') :
    (group conjunctive (first :: later)).Alike (group conjunctive' (first' :: later')) := by
  rcases connectives with rfl | rfl
  · cases laterAlike
    rcases conjunctive with _ | _ <;> rcases conjunctive' with _ | _
    · exact .any (.cons firstAlike .nil)
    · exact .anyAll firstAlike
    · exact .allAny firstAlike
    · exact .all (.cons firstAlike .nil)
  · rcases conjunctive with _ | _
    · exact .any (.cons firstAlike laterAlike)
    · exact .all (.cons firstAlike laterAlike)

mutual

theorem alike_of_tokens : ∀ (condition : Condition) {other : Condition} {rest tail : List Token}
    (_ : condition.Filled) (_ : condition.tokens ++ rest = other.tokens ++ tail),
    condition.Alike other ∧ rest = tail
  | .all parts, _, _, _, filled, same => alike_of_group parts true filled.1 filled.2 same
  | .any parts, _, _, _, filled, same => alike_of_group parts false filled.1 filled.2 same
  | .negation inner, _, _, _, filled, same => by
      rcases eq_negation same with ⟨inner', rfl, inside⟩
      rcases alike_of_tokens inner filled inside with ⟨alike, tails⟩
      exact ⟨.negation alike, tails⟩
  | .numbers left comparison right, _, _, _, _, same => by
      rw [tokens, List.append_assoc] at same
      rcases eq_numbers same with ⟨right', rfl, seconds⟩
      rcases NumberTerm.tokens_inj seconds with ⟨rfl, tails⟩
      exact ⟨.numbers left comparison right, tails⟩
  | .moves left equal right, _, _, _, _, same => by
      rcases eq_moves same with ⟨rfl, tails⟩
      exact ⟨.moves left equal right, tails⟩

theorem alike_of_group : ∀ (parts : List Condition) (conjunctive : Bool) {other : Condition}
    {rest tail : List Token} (_ : parts ≠ []) (_ : AllFilled parts)
    (_ : (group conjunctive parts).tokens ++ rest = other.tokens ++ tail),
    (group conjunctive parts).Alike other ∧ rest = tail
  | [], _, _, _, _, nonempty, _, _ => absurd rfl nonempty
  | part :: parts, conjunctive, _, _, _, _, filled, same => by
      rw [tokens_group, groupTokens, List.cons_append, List.append_assoc] at same
      rcases eq_group same with ⟨conjunctive', first, later, rfl, inside⟩
      rcases alike_of_tokens part filled.1 inside with ⟨firstAlike, afterwards⟩
      rcases alike_of_later parts filled.2 afterwards with ⟨laterAlike, tails, connectives⟩
      exact ⟨group_alike firstAlike laterAlike connectives, tails⟩

-- The connective is only seen between parts.
theorem alike_of_later : ∀ (parts : List Condition) {conjunctive conjunctive' : Bool}
    {later : List Condition} {rest tail : List Token} (_ : AllFilled parts)
    (_ : laterTokens (connective conjunctive) parts ++ rest =
      laterTokens (connective conjunctive') later ++ tail),
    PartsAlike parts later ∧ rest = tail ∧ (parts = [] ∨ conjunctive = conjunctive')
  | [], _, _, [], _, _, _, same => by
      injection same with _ tails
      exact ⟨.nil, tails, .inl rfl⟩
  | [], _, _, _ :: _, _, _, _, same => by cases same
  | _ :: _, _, _, [], _, _, _, same => by cases same
  | part :: parts, _, _, other :: later, _, _, filled, same => by
      rw [laterTokens, laterTokens, List.cons_append, List.cons_append, List.append_assoc,
        List.append_assoc] at same
      injection same with word parts'
      rcases alike_of_tokens part filled.1 parts' with ⟨partAlike, afterwards⟩
      rcases alike_of_later parts filled.2 afterwards with ⟨laterAlike, tails, _⟩
      exact ⟨.cons partAlike laterAlike, tails, .inr (connective_inj (Token.word.inj word))⟩

end

end Condition

theorem Clause.alike_of_tokens {clauses others : List Clause} {rest tail : List Token}
    (filled : ∀ clause ∈ clauses, clause.condition.Filled)
    (same : clauses.flatMap Clause.tokens ++ .word "otherwise".toList :: rest =
      others.flatMap Clause.tokens ++ .word "otherwise".toList :: tail) :
    List.Forall₂ Clause.Alike clauses others ∧ rest = tail := by
  induction clauses generalizing others with
  | nil =>
      cases others with
      | nil =>
          injection same with _ tails
          exact ⟨.nil, tails⟩
      | cons other others =>
          injection same with word
          exact absurd (Token.word.inj word) (by decide)
  | cons clause clauses induction =>
      rcases List.forall_mem_cons.mp filled with ⟨here, later⟩
      cases others with
      | nil =>
          injection same with word
          exact absurd (Token.word.inj word) (by decide)
      | cons other others =>
          simp only [List.flatMap_cons, tokens, List.cons_append, List.append_assoc,
            List.nil_append, List.cons.injEq, true_and] at same
          rcases clause.condition.alike_of_tokens here same with ⟨condition, afterwards⟩
          injection afterwards with _ actions
          injection actions with action clausesSame
          rcases induction later clausesSame with ⟨clausesAlike, tails⟩
          exact ⟨.cons ⟨condition, Action.name_inj (Token.word.inj action)⟩ clausesAlike, tails⟩

theorem Rule.alike_of_text_eq {left right : Rule}
    (filled : ∀ clause ∈ left.clauses, clause.condition.Filled) (seeds : left.seed = right.seed)
    (same : left.text = right.text) : left.Alike right := by
  rcases Clause.alike_of_tokens filled (tokens_eq_of_text_eq same) with ⟨clauses, otherwise⟩
  injection otherwise with name
  exact ⟨clauses, Action.name_inj (Token.word.inj name), seeds⟩

/-! ## Checked rules -/

theorem ConditionDraft.PartsLower.ne_nil {drafts : List ConditionDraft}
    {conditions : List Condition} (lower : ConditionDraft.PartsLower drafts conditions)
    (nonempty : drafts ≠ []) : conditions ≠ [] := by
  cases lower with
  | nil => exact absurd rfl nonempty
  | cons part rest => exact List.cons_ne_nil _ _

mutual

theorem ConditionDraft.Lowers.filled : ∀ {draft : ConditionDraft} {condition : Condition}
    {depth : Nat} (_ : draft.Lowers condition)
    (_ : ∀ node ∈ draft.nodes depth, node.2.IsSound), condition.Filled
  | _, _, _, .all parts, sound =>
      ⟨ConditionDraft.PartsLower.ne_nil parts (sound _ (.head _)),
        ConditionDraft.PartsLower.filled parts fun node member => sound node (.tail _ member)⟩
  | _, _, _, .any parts, sound =>
      ⟨ConditionDraft.PartsLower.ne_nil parts (sound _ (.head _)),
        ConditionDraft.PartsLower.filled parts fun node member => sound node (.tail _ member)⟩
  | _, _, _, .negation inner, sound => by
      rw [Condition.Filled]
      exact ConditionDraft.Lowers.filled inner fun node member => sound node (.tail _ member)
  | _, _, _, .numbers _ _ _, _ => trivial
  | _, _, _, .moves _ _ _, _ => trivial

theorem ConditionDraft.PartsLower.filled : ∀ {drafts : List ConditionDraft}
    {conditions : List Condition} {depth : Nat}
    (_ : ConditionDraft.PartsLower drafts conditions)
    (_ : ∀ node ∈ ConditionDraft.partNodes depth drafts, node.2.IsSound),
    Condition.AllFilled conditions
  | _, _, _, .nil, _ => trivial
  | _, _, _, .cons part rest, sound =>
      ⟨ConditionDraft.Lowers.filled part fun node member =>
          sound node (List.mem_append_left _ member),
        ConditionDraft.PartsLower.filled rest fun node member =>
          sound node (List.mem_append_right _ member)⟩

end

theorem ClauseDraft.AllLower.filled {drafts : List ClauseDraft} {clauses : List Clause}
    (lower : ClauseDraft.AllLower drafts clauses)
    (sound : ∀ node ∈ drafts.flatMap (·.condition.nodes 1), node.2.IsSound) :
    ∀ clause ∈ clauses, clause.condition.Filled := by
  induction lower with
  | nil => exact fun _ member => nomatch member
  | cons condition action rest induction =>
      rw [List.flatMap_cons] at sound
      exact List.forall_mem_cons.mpr
        ⟨condition.filled fun node member => sound node (List.mem_append_left _ member),
          induction fun node member => sound node (List.mem_append_right _ member)⟩

theorem RuleDraft.filled_of_check {draft : RuleDraft} {seed : UInt64} {rule : Rule}
    (accepted : draft.check seed = .ok rule) :
    rule.seed = seed ∧ ∀ clause ∈ rule.clauses, clause.condition.Filled := by
  rcases RuleDraft.check_eq_ok.mp accepted with ⟨_, ⟨_, admits⟩, lowers, seeded⟩
  exact ⟨seeded, lowers.clauses.filled fun node member => (admits.fits node member).2⟩

/-- What a checked rule does can be told from its text. -/
theorem RuleDraft.text_tells_play {draft other : RuleDraft} {seed : UInt64}
    {rule otherRule : Rule} (accepted : draft.check seed = .ok rule)
    (otherAccepted : other.check seed = .ok otherRule) :
    (rule.text = otherRule.text ↔ rule.Alike otherRule) ∧
      (rule.text = otherRule.text →
        ∀ situation, rule.play situation = otherRule.play situation) := by
  rcases filled_of_check accepted with ⟨seeded, filled⟩
  rcases filled_of_check otherAccepted with ⟨otherSeeded, _⟩
  have alike := Rule.alike_of_text_eq filled (seeded.trans otherSeeded.symm)
  exact ⟨⟨alike, Rule.Alike.text_eq⟩, fun same => (alike same).play_eq⟩

theorem RuleDraft.text_tells_play_single :
    let part : ConditionDraft :=
      .comparison (.arithmetic "%" (.predicate "round_index") (.number (Binary64.ofNat 3)))
        "lt" (.number (Binary64.ofNat 1))
    let draft : RuleDraft := ⟨[⟨.all [.negation (.any [part])], "random"⟩], "defect"⟩
    let other : RuleDraft := ⟨[⟨.any [.negation (.all [part])], "random"⟩], "defect"⟩
    ∃ rule otherRule, draft.check 7 = .ok rule ∧ other.check 7 = .ok otherRule ∧
      rule.same otherRule = false ∧ rule.text = otherRule.text ∧ rule.Alike otherRule ∧
      ∀ situation, rule.play situation = otherRule.play situation := by
  intro part draft other
  have different : ((draft.check 7).toOption.bind fun rule =>
      (other.check 7).toOption.map rule.same) = some false := by decide +kernel
  have same : (draft.check 7).toOption.map Rule.text = (other.check 7).toOption.map Rule.text := by
    decide +kernel
  rcases accepted : draft.check 7 with error | rule
  · rw [accepted] at different
    cases different
  rcases otherAccepted : other.check 7 with error | otherRule
  · rw [accepted, otherAccepted] at different
    cases different
  rw [accepted, otherAccepted] at different same
  have texts : rule.text = otherRule.text := Option.some.inj same
  have tells := text_tells_play accepted otherAccepted
  exact ⟨rule, otherRule, rfl, rfl, Option.some.inj different, texts, tells.1.mp texts,
    tells.2 texts⟩

end Dilemma
