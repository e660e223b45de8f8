import Dilemma.Proofs.Number.Decimal
import Dilemma.Rule.Text

/-! # Words and parentheses

The text of a rule falls into words and parentheses at its blanks, its semicolons and
its parentheses. No name, sign or number has one of these inside, so the tree can be
followed token by token. -/

namespace Dilemma

inductive Rule.Token where
  | opening
  | closing
  | word (text : List Char)
  deriving DecidableEq, Repr

namespace Rule.Token

/-! ## Splitting a text -/

/-- What stands between words. -/
def separators : List Char := ['(', ')', ' ', ';']

/-- A word that has come to its end. -/
def ended (word : List Char) (tokens : List Token) : List Token :=
  if word.isEmpty then tokens else .word word :: tokens

/-- The tokens of a text that goes on with a word begun before. -/
def scan (begun : List Char) : List Char → List Token
  | [] => ended begun []
  | char :: rest =>
      if char = '(' then ended begun (.opening :: scan [] rest)
      else if char = ')' then ended begun (.closing :: scan [] rest)
      else if char ∈ separators then ended begun (scan [] rest)
      else scan (begun ++ [char]) rest

/-- There is something in it, and nothing that separates. -/
structure IsWord (text : List Char) : Prop where
  nonempty : text ≠ []
  whole : ∀ char ∈ text, char ∉ separators

instance (text : List Char) : Decidable (IsWord text) :=
  decidable_of_iff (text ≠ [] ∧ text.all (· ∉ separators) = true) (by
    rw [List.all_eq_true]
    simp only [decide_eq_true_eq]
    exact ⟨fun both => ⟨both.1, both.2⟩, fun isWord => ⟨isWord.1, isWord.2⟩⟩)

/-- No word goes on here. -/
def Separated : List Char → Prop
  | [] => True
  | char :: _ => char ∈ separators

@[simp] theorem scan_opening (rest : List Char) :
    scan [] ('(' :: rest) = .opening :: scan [] rest := rfl

@[simp] theorem scan_closing (rest : List Char) :
    scan [] (')' :: rest) = .closing :: scan [] rest := rfl

@[simp] theorem scan_blank (rest : List Char) : scan [] (' ' :: rest) = scan [] rest := rfl

@[simp] theorem scan_semicolon (rest : List Char) : scan [] (';' :: rest) = scan [] rest := rfl

@[simp] theorem separated_closing (rest : List Char) : Separated (')' :: rest) := by
  simp [Separated, separators]

@[simp] theorem separated_blank (rest : List Char) : Separated (' ' :: rest) := by
  simp [Separated, separators]

@[simp] theorem separated_semicolon (rest : List Char) : Separated (';' :: rest) := by
  simp [Separated, separators]

theorem scan_ended {begun rest : List Char} (nonempty : begun ≠ []) (separated : Separated rest) :
    scan begun rest = .word begun :: scan [] rest := by
  have started (tokens : List Token) : ended begun tokens = .word begun :: tokens := by
    cases begun with
    | nil => exact absurd rfl nonempty
    | cons char more => rfl
  cases rest with
  | nil => exact started []
  | cons char rest =>
      have separates : char ∈ separators := separated
      rw [scan, scan, if_pos separates, if_pos separates]
      split
      · exact started _
      · split
        · exact started _
        · exact started _

theorem scan_whole {begun text : List Char} (whole : ∀ char ∈ text, char ∉ separators)
    (rest : List Char) : scan begun (text ++ rest) = scan (begun ++ text) rest := by
  induction text generalizing begun with
  | nil => rw [List.append_nil, List.nil_append]
  | cons char text induction =>
      rcases List.forall_mem_cons.mp whole with ⟨inside, others⟩
      have notOpening : char ≠ '(' := fun equal => inside (by rw [equal]; decide)
      have notClosing : char ≠ ')' := fun equal => inside (by rw [equal]; decide)
      rw [List.cons_append, scan, if_neg notOpening, if_neg notClosing, if_neg inside,
        induction others, List.append_assoc, List.singleton_append]

theorem scan_word {word rest : List Char} (isWord : IsWord word) (separated : Separated rest) :
    scan [] (word ++ rest) = .word word :: scan [] rest := by
  rw [scan_whole isWord.whole, List.nil_append, scan_ended isWord.nonempty separated]

end Rule.Token

open Rule (Token)
open Rule.Token

/-! ## The words of a rule -/

theorem Binary64.isWord_plainText (value : Binary64) : IsWord value.plainText := by
  refine ⟨plainText_ne_nil value, fun char member separates => ?_⟩
  have unlike : separators.all (fun char => !char.isDigit && char ∉ "-.infNa".toList) = true := by
    decide
  have apart := List.all_eq_true.mp unlike char separates
  rw [Bool.and_eq_true, Bool.not_eq_true', decide_eq_true_eq] at apart
  rcases mem_plainText member with digit | sign
  · rw [apart.1] at digit
    cases digit
  · exact apart.2 sign

theorem Predicate.isWord_name (predicate : Predicate) : IsWord predicate.name.toList := by
  rcases predicate with (_ | _) | (_ | (_ | _) | (_ | _)) <;> decide

theorem MoveTerm.isWord_chars (term : MoveTerm) : IsWord term.chars := by
  rcases term with (_ | _) | (_ | _) <;> decide

theorem Arithmetic.isWord_sign (operator : Arithmetic) : IsWord operator.sign.toList := by
  cases operator <;> decide

theorem Comparison.isWord_sign (comparison : Comparison) : IsWord comparison.sign.toList := by
  cases comparison <;> decide

theorem Action.isWord_name (action : Action) : IsWord action.name.toList := by
  rcases action with (_ | _) | _ <;> decide

/-! ## The tokens of a rule -/

def NumberTerm.tokens : NumberTerm → List Token
  | .measure asked => [.word (Predicate.measure asked).name.toList]
  | .literal value => [.word value.plainText]
  | .arithmetic operator left right =>
      .opening :: (left.tokens ++ .word operator.sign.toList :: (right.tokens ++ [.closing]))

mutual

def Condition.tokens : Condition → List Token
  | .all parts => .opening :: Condition.groupTokens "and".toList parts
  | .any parts => .opening :: Condition.groupTokens "or".toList parts
  | .negation inner => .word "not".toList :: inner.tokens
  | .numbers left comparison right =>
      left.tokens ++ .word comparison.sign.toList :: right.tokens
  | .moves left equal right =>
      [.word left.chars, .word (moveComparison equal).sign.toList, .word right.chars]

def Condition.groupTokens (connective : List Char) : List Condition → List Token
  | [] => [.closing]
  | part :: rest => part.tokens ++ Condition.laterTokens connective rest

/-- The parts after the first one. -/
def Condition.laterTokens (connective : List Char) : List Condition → List Token
  | [] => [.closing]
  | part :: rest => .word connective :: (part.tokens ++ Condition.laterTokens connective rest)

end

def Clause.tokens (clause : Clause) : List Token :=
  .word "if".toList :: (clause.condition.tokens ++
    [.word "then".toList, .word clause.action.name.toList])

def Rule.tokens (rule : Rule) : List Token :=
  rule.clauses.flatMap Clause.tokens ++
    [.word "otherwise".toList, .word rule.otherwise.name.toList]

/-! ## The text falls into these tokens -/

theorem NumberTerm.scan_chars (term : NumberTerm) {rest : List Char} (separated : Separated rest) :
    scan [] (term.chars ++ rest) = term.tokens ++ scan [] rest := by
  induction term generalizing rest with
  | measure asked => exact scan_word (Predicate.measure asked).isWord_name separated
  | literal value => exact scan_word value.isWord_plainText separated
  | arithmetic operator left right leftInduction rightInduction =>
      simp only [chars, tokens, List.cons_append, List.append_assoc, List.nil_append, scan_opening]
      rw [leftInduction (separated_blank _), scan_blank,
        scan_word operator.isWord_sign (separated_blank _), scan_blank,
        rightInduction (separated_closing _), scan_closing]

/-- The first text, and the others with a separator before each. -/
theorem joined_cons (separator text : List Char) (texts : List (List Char)) :
    joined separator (text :: texts) = text ++ texts.flatMap (separator ++ ·) := by
  induction texts generalizing text with
  | nil => simp [joined]
  | cons next rest induction =>
      rw [joined, induction, List.flatMap_cons, List.append_assoc, List.append_assoc]

theorem separated_later (connective rest : List Char) (texts : List (List Char)) :
    Separated (texts.flatMap (fun text => ' ' :: (connective ++ ' ' :: text)) ++ ')' :: rest) := by
  cases texts with
  | nil => exact separated_closing rest
  | cons text texts => exact separated_blank _

mutual

theorem Condition.scan_chars : ∀ (condition : Condition) {rest : List Char} (_ : Separated rest),
    scan [] (condition.chars ++ rest) = condition.tokens ++ scan [] rest
  | .all parts, rest, _ => by
      have group := Condition.scan_group parts (show IsWord "and".toList by decide) rest
      simp only [Condition.chars, Condition.tokens, List.cons_append, List.append_assoc,
        List.nil_append, scan_opening]
      exact congrArg (.opening :: ·) group
  | .any parts, rest, _ => by
      have group := Condition.scan_group parts (show IsWord "or".toList by decide) rest
      simp only [Condition.chars, Condition.tokens, List.cons_append, List.append_assoc,
        List.nil_append, scan_opening]
      exact congrArg (.opening :: ·) group
  | .negation inner, rest, separated => by
      have word := scan_word (show IsWord "not".toList by decide)
        (separated_blank (inner.chars ++ rest))
      rw [scan_blank, Condition.scan_chars inner separated] at word
      exact word
  | .numbers left comparison right, rest, separated => by
      simp only [Condition.chars, Condition.tokens, List.cons_append, List.append_assoc]
      rw [left.scan_chars (separated_blank _), scan_blank,
        scan_word comparison.isWord_sign (separated_blank _), scan_blank,
        right.scan_chars separated]
  | .moves left equal right, rest, separated => by
      simp only [Condition.chars, Condition.tokens, List.cons_append, List.append_assoc,
        List.nil_append]
      rw [scan_word left.isWord_chars (separated_blank _), scan_blank,
        scan_word (moveComparison equal).isWord_sign (separated_blank _), scan_blank,
        scan_word right.isWord_chars separated]

theorem Condition.scan_group : ∀ (parts : List Condition) {connective : List Char}
    (_ : IsWord connective) (rest : List Char),
    scan [] (joined (' ' :: (connective ++ [' '])) (Condition.partsChars parts) ++ ')' :: rest) =
      Condition.groupTokens connective parts ++ scan [] rest
  | [], _, _, _ => rfl
  | part :: parts, connective, isWord, rest => by
      have later := Condition.scan_later parts isWord rest
      simp only [Condition.partsChars, joined_cons, List.cons_append, List.append_assoc,
        List.nil_append]
      rw [Condition.scan_chars part (separated_later connective rest _), later,
        Condition.groupTokens, List.append_assoc]

theorem Condition.scan_later : ∀ (parts : List Condition) {connective : List Char}
    (_ : IsWord connective) (rest : List Char),
    scan [] ((Condition.partsChars parts).flatMap
        (fun text => ' ' :: (connective ++ ' ' :: text)) ++ ')' :: rest) =
      Condition.laterTokens connective parts ++ scan [] rest
  | [], _, _, _ => rfl
  | part :: parts, connective, isWord, rest => by
      have later := Condition.scan_later parts isWord rest
      rw [Condition.partsChars, List.flatMap_cons, Condition.laterTokens]
      simp only [List.cons_append, List.append_assoc]
      rw [scan_blank, scan_word isWord (separated_blank _), scan_blank,
        Condition.scan_chars part (separated_later connective rest _)]
      exact congrArg (fun tokens => .word connective :: (part.tokens ++ tokens)) later

end

theorem Clause.scan_chars (clause : Clause) (rest : List Char) :
    scan [] (clause.chars ++ rest) = clause.tokens ++ scan [] rest := by
  have condition := clause.condition.scan_chars
    (separated_blank ("then".toList ++ ' ' :: (clause.action.name.toList ++ ';' :: ' ' :: rest)))
  have text : clause.chars ++ rest = "if".toList ++ ' ' :: (clause.condition.chars ++
      ' ' :: ("then".toList ++ ' ' :: (clause.action.name.toList ++ ';' :: ' ' :: rest))) := by
    simp [chars]
  rw [text, scan_word (by decide) (separated_blank _), scan_blank, condition, scan_blank,
    scan_word (by decide) (separated_blank _), scan_blank,
    scan_word clause.action.isWord_name (separated_semicolon _), scan_semicolon, scan_blank]
  simp [tokens]

theorem Rule.scan_chars (rule : Rule) : scan [] rule.chars = rule.tokens := by
  have clauses (clauses : List Clause) (rest : List Char) :
      scan [] (clauses.flatMap Clause.chars ++ rest) =
        clauses.flatMap Clause.tokens ++ scan [] rest := by
    induction clauses with
    | nil => rfl
    | cons clause clauses induction =>
        rw [List.flatMap_cons, List.append_assoc, clause.scan_chars, induction, List.flatMap_cons,
          List.append_assoc]
  have last : scan [] rule.otherwise.name.toList = [.word rule.otherwise.name.toList] := by
    have word := scan_word rule.otherwise.isWord_name (show Separated [] from trivial)
    rw [List.append_nil] at word
    exact word
  have text : rule.chars = rule.clauses.flatMap Clause.chars ++
      ("otherwise".toList ++ ' ' :: rule.otherwise.name.toList) := by
    simp [chars]
  rw [text, clauses, scan_word (by decide) (separated_blank _), scan_blank, last, tokens]

/-- Rules with one text have the same tokens. -/
theorem Rule.tokens_eq_of_text_eq {left right : Rule} (same : left.text = right.text) :
    left.tokens = right.tokens := by
  have chars : left.chars = right.chars := String.ofList_injective same
  rw [← left.scan_chars, chars, right.scan_chars]

end Dilemma
