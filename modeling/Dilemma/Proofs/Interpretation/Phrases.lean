import Dilemma.Proofs.Interpretation.Recognition
import Dilemma.Proofs.Number.Counting

/-! # Phrases

Two phrases in a row ask for one move for some rounds and for the other move for some more.
What counts as a phrase is said here without a scanner: a move, perhaps "for", a number and
perhaps a unit. The scanner takes a unit wherever there is one, but a unit that it leaves over
would not lead to a second phrase either, so nothing depends on it.

The rule for two phrases compares a remainder with a number. All of these are natural numbers
of 32 bits, and the format has them as they are. -/

namespace Dilemma.Recognizer

/-! ## One phrase -/

/-- At most one token, and only one of these. -/
def Perhaps (allowed part : List String) : Prop := part = [] ∨ ∃ token ∈ allowed, part = [token]

/-- A move, perhaps "for", a number and perhaps a unit, and the tokens after these. -/
inductive Phrase (move : Move) (count : Nat) : List String → List String → Prop where
  | mk {action number : String} {preposition unit rest : List String}
      (named : move? action = some move) (perhapsFor : Perhaps ["for"] preposition)
      (counted : number? number = some count) (perhapsUnit : Perhaps units unit) :
      Phrase move count (action :: (preposition ++ number :: (unit ++ rest))) rest

theorem exists_perhaps_skipOne (allowed tokens : List String) :
    ∃ part, Perhaps allowed part ∧ tokens = part ++ skipOne allowed tokens := by
  cases tokens with
  | nil => exact ⟨[], .inl rfl, rfl⟩
  | cons token rest =>
      by_cases among : token ∈ allowed
      · refine ⟨[token], .inr ⟨token, among, rfl⟩, ?_⟩
        rw [skipOne, if_pos among]
        rfl
      · refine ⟨[], .inl rfl, ?_⟩
        rw [skipOne, if_neg among]
        rfl

theorem skipOne_perhaps {allowed part rest : List String} {next : String}
    (perhaps : Perhaps allowed part) (other : next ∉ allowed) :
    skipOne allowed (part ++ next :: rest) = next :: rest := by
  rcases perhaps with rfl | ⟨token, among, rfl⟩
  · exact if_neg other
  · exact if_pos among

/-- Where the part is missing, the next token may be taken for it. -/
theorem skipOne_append {allowed part : List String} (perhaps : Perhaps allowed part)
    (rest : List String) :
    skipOne allowed (part ++ rest) = rest ∨
      ∃ token ∈ allowed, rest = token :: skipOne allowed (part ++ rest) := by
  rcases perhaps with rfl | ⟨token, among, rfl⟩
  · cases rest with
    | nil => exact .inl rfl
    | cons token rest =>
        by_cases among : token ∈ allowed
        · exact .inr ⟨token, among, congrArg _ (if_pos among).symm⟩
        · exact .inl (if_neg among)
  · exact .inl (if_pos among)

variable {tokens rest later : List String} {move first second : Move} {count more : Nat}

theorem phrase_of_phrase? (found : phrase? tokens = some (move, count, rest)) :
    Phrase move count tokens rest := by
  cases tokens with
  | nil => cases found
  | cons action tokens =>
      rcases exists_perhaps_skipOne ["for"] tokens with ⟨preposition, perhapsFor, split⟩
      simp only [phrase?, Option.bind_eq_bind, Option.bind_eq_some_iff] at found
      rcases found with ⟨_, named, found⟩
      split at found
      · cases found
      · rename_i number after skipped
        rcases Option.bind_eq_some_iff.mp found with ⟨_, counted, equal⟩
        cases equal
        rcases exists_perhaps_skipOne units after with ⟨unit, perhapsUnit, again⟩
        have phrase : Phrase move count
            (action :: (preposition ++ number :: (unit ++ skipOne units after)))
            (skipOne units after) :=
          .mk named perhapsFor counted perhapsUnit
        rw [← again, ← skipped, ← split] at phrase
        exact phrase

theorem number?_for : number? "for" = none := by decide +kernel

theorem Phrase.exists_phrase? (phrase : Phrase move count tokens rest) :
    ∃ left, phrase? tokens = some (move, count, left) ∧
      (left = rest ∨ ∃ unit ∈ units, rest = unit :: left) := by
  cases phrase with
  | mk named perhapsFor counted perhapsUnit =>
      rename_i action number preposition unit
      have different : number ∉ ["for"] := by
        intro same
        rw [List.mem_singleton.mp same, number?_for] at counted
        cases counted
      refine ⟨skipOne units (unit ++ rest), ?_, skipOne_append perhapsUnit rest⟩
      rw [phrase?, named, skipOne_perhaps perhapsFor different]
      simp [counted]

theorem phrase?_eq_none_iff :
    phrase? tokens = none ↔ ∀ move count rest, ¬ Phrase move count tokens rest := by
  constructor
  · intro missing move count rest phrase
    rcases phrase.exists_phrase? with ⟨left, found, _⟩
    rw [missing] at found
    cases found
  · intro none
    rw [Option.eq_none_iff_forall_ne_some]
    rintro ⟨move, count, rest⟩ found
    exact none move count rest (phrase_of_phrase? found)

/-! ## Two phrases -/

theorem firstPhrase?_eq_some_iff {found : Move × Nat × List String} :
    firstPhrase? tokens = some found ↔
      ∃ position, phrase? (tokens.drop position) = some found ∧
        ∀ earlier < position, phrase? (tokens.drop earlier) = none := by
  induction tokens with
  | nil => simp [firstPhrase?, phrase?]
  | cons token tokens induction =>
      rw [firstPhrase?]
      cases here : phrase? (token :: tokens) with
      | some known =>
          constructor
          · intro same
            exact ⟨0, here.trans same, fun earlier less => absurd less (Nat.not_lt_zero _)⟩
          · rintro ⟨_ | position, there, before⟩
            · exact here.symm.trans there
            · have missing := here.symm.trans (before 0 (Nat.zero_lt_succ position))
              cases missing
      | none =>
          rw [induction]
          constructor
          · rintro ⟨position, there, before⟩
            refine ⟨position + 1, there, ?_⟩
            rintro (_ | earlier) less
            · exact here
            · exact before earlier (Nat.lt_of_succ_lt_succ less)
          · rintro ⟨_ | position, there, before⟩
            · cases here.symm.trans there
            · exact ⟨position, there, fun earlier less =>
                before (earlier + 1) (Nat.succ_lt_succ less)⟩

theorem not_isConnective_of_move? {token : String} (named : move? token = some move) :
    isConnective token = false := by
  rw [← Bool.not_eq_true]
  intro connective
  have among : token ∈ ["then", "and", "after", "that"] := of_decide_eq_true connective
  have unnamed : ∀ other ∈ ["then", "and", "after", "that"], move? other = none := by decide
  rw [unnamed token among] at named
  cases named

/-- No unit leads on to another phrase, neither as a connective nor as a move. -/
theorem unit_leads_nowhere {token : String} (unit : token ∈ units) :
    isConnective token = false ∧ move? token = none := by
  have nowhere : ∀ other ∈ units, isConnective other = false ∧ move? other = none := by decide
  exact nowhere token unit

/-- The first phrase asks for this. Behind it and some connectives, another one asks for that. -/
def Spoken (tokens : List String) (first : Move) (count : Nat) (second : Move) (more : Nat) :
    Prop :=
  ∃ position connectives later rest,
    Phrase first count (tokens.drop position) (connectives ++ later) ∧
    (∀ earlier < position, ∀ move count rest, ¬ Phrase move count (tokens.drop earlier) rest) ∧
    (∀ token ∈ connectives, token ∈ ["then", "and", "after", "that"]) ∧
    Phrase second more later rest

theorem Phrase.exists_cons (phrase : Phrase move count tokens rest) :
    ∃ action others, tokens = action :: others ∧ move? action = some move := by
  cases phrase with
  | mk named => exact ⟨_, _, rfl, named⟩

/-- Nothing is left over in front of the second phrase. -/
theorem Phrase.phrase?_eq {connectives last : List String}
    (phrase : Phrase first count tokens (connectives ++ later))
    (connective : ∀ token ∈ connectives, isConnective token = true)
    (next : Phrase second more later last) :
    phrase? tokens = some (first, count, connectives ++ later) := by
  rcases phrase.exists_phrase? with ⟨left, found, same | ⟨unit, known, same⟩⟩
  · rw [found, same]
  · rcases unit_leads_nowhere known with ⟨notConnective, notMove⟩
    cases connectives with
    | nil =>
        rcases next.exists_cons with ⟨action, others, rfl, named⟩
        cases same
        rw [notMove] at named
        cases named
    | cons token connectives =>
        cases same
        rw [connective _ (List.mem_cons_self ..)] at notConnective
        cases notConnective

theorem dropWhile_connectives {connectives last : List String}
    (connective : ∀ token ∈ connectives, isConnective token = true)
    (next : Phrase second more later last) :
    (connectives ++ later).dropWhile isConnective = later := by
  rcases next.exists_cons with ⟨action, others, rfl, named⟩
  rw [List.dropWhile_append_of_pos connective, List.dropWhile_cons_of_neg]
  rw [not_isConnective_of_move? named]
  exact Bool.false_ne_true

theorem spoken_iff :
    Spoken tokens first count second more ↔
      ∃ rest last, firstPhrase? tokens = some (first, count, rest) ∧
        phrase? (rest.dropWhile isConnective) = some (second, more, last) := by
  simp only [firstPhrase?_eq_some_iff, phrase?_eq_none_iff]
  constructor
  · rintro ⟨position, connectives, later, rest, phrase, before, among, next⟩
    have connective : ∀ token ∈ connectives, isConnective token = true :=
      fun token member => decide_eq_true (among token member)
    rcases next.exists_phrase? with ⟨last, found, _⟩
    refine ⟨connectives ++ later, last, ⟨position, phrase.phrase?_eq connective next, before⟩, ?_⟩
    rw [dropWhile_connectives connective next, found]
  · rintro ⟨rest, last, ⟨position, found, before⟩, next⟩
    have connective : ∀ token ∈ rest.takeWhile isConnective, isConnective token = true :=
      fun token member => List.mem_takeWhile_imp member
    refine ⟨position, rest.takeWhile isConnective, rest.dropWhile isConnective, last, ?_, before,
      fun token member => of_decide_eq_true (connective token member), phrase_of_phrase? next⟩
    rw [List.takeWhile_append_dropWhile]
    exact phrase_of_phrase? found

theorem sequence?_eq_some_iff {draft : RuleDraft} :
    sequence? tokens = some draft ↔
      ∃ first count second more, Spoken tokens first count second more ∧ first ≠ second ∧
        1 ≤ count + more ∧ count + more < UInt32.size ∧
        draft = alternation first second count (count + more) := by
  simp only [sequence?, spoken_iff, Option.bind_eq_bind, Option.bind_eq_some_iff, Prod.exists]
  constructor
  · rintro ⟨first, count, rest, found, second, more, last, next, whole⟩
    split at whole
    · cases whole
    · rename_i admitted
      cases whole
      rw [not_or, not_or] at admitted
      exact ⟨first, count, second, more, ⟨rest, last, found, next⟩, admitted.1, by omega, by omega,
        rfl⟩
  · rintro ⟨first, count, second, more, ⟨rest, last, found, next⟩, different, some, fits, rfl⟩
    refine ⟨first, count, rest, found, second, more, last, next, if_neg ?_⟩
    rw [not_or, not_or]
    exact ⟨different, by omega, by omega⟩

/-! ## Playing them -/

/-- A rule does what its draft means. -/
theorem play_of_check {draft : RuleDraft} {seed : UInt64} {rule : Rule}
    (accepted : draft.check seed = .ok rule) (situation : Situation) :
    rule.play situation = draft.evaluate seed situation := by
  rcases RuleDraft.check_eq_ok.mp accepted with ⟨_, _, lowers, rfl⟩
  exact (lowers.clauses.evaluate_eq lowers.otherwise rule.seed situation).symm

theorem actionMeant_name (seed : UInt64) (round : UInt32) (move : Move) :
    actionMeant seed round move.name = .ok move := by
  cases move <;> rfl

/-- A remainder by a literal that is not zero. -/
theorem evaluate_modulo {situation : Situation} {name : String} {dividend divisor : Binary64}
    (asked : situation.ask name = .ok (.number dividend)) (nonzero : divisor.isZero = false) :
    (OperandDraft.arithmetic "mod" (.predicate name) (.number divisor)).evaluate situation =
      .ok (.number (dividend.modulo divisor)) := by
  simp [OperandDraft.evaluate, asked, bind, Except.bind, compute, nonzero]

theorem evaluate_less {situation : Situation} {operand : OperandDraft} {left : Binary64}
    (evaluated : operand.evaluate situation = .ok (.number left)) (right : Binary64) :
    (ConditionDraft.comparison operand "lt" (.number right)).evaluate situation =
      .ok (left.less right) := by
  rw [ConditionDraft.evaluate, evaluated]
  rfl

/-- The first clause decides between two moves. -/
theorem evaluate_choice {condition : ConditionDraft} {situation : Situation} {holds : Bool}
    (decided : condition.evaluate situation = .ok holds) (first second : Move) (seed : UInt64) :
    (RuleDraft.mk [⟨condition, first.name⟩] second.name).evaluate seed situation =
      .ok (if holds then first else second) := by
  rw [RuleDraft.evaluate_cons, RuleDraft.evaluate_nil, actionMeant_name, actionMeant_name, decided]
  cases holds <;> rfl

/-- All that the rule computes is exact, so it plays by a remainder of natural numbers. -/
theorem evaluate_alternation {period : Nat} (first second : Move)
    (countSmall : count < UInt32.size) (periodSmall : period < UInt32.size)
    (positive : period ≠ 0) (seed : UInt64) (situation : Situation) :
    (alternation first second count period).evaluate seed situation =
      .ok (if situation.round.toNat % period < count then first else second) := by
  have room : UInt32.size < 2 ^ 53 := by decide
  have roundSmall := situation.round.toNat_lt.trans room
  have restSmall := (Nat.mod_lt situation.round.toNat (Nat.pos_of_ne_zero positive)).trans
    (periodSmall.trans room)
  have asked : situation.ask "round_index" =
      .ok (.number (Binary64.ofNat situation.round.toNat)) := rfl
  have remainder := evaluate_modulo asked (isZero_ofNat positive)
  rw [Binary64.modulo_ofNat roundSmall (periodSmall.trans room) positive] at remainder
  have compared := evaluate_less remainder (Binary64.ofNat count)
  rw [Binary64.less_ofNat restSmall (countSmall.trans room)] at compared
  have chosen := evaluate_choice compared first second seed
  simp only [decide_eq_true_eq] at chosen
  exact chosen

/-- Two phrases ask for different moves, for some rounds in all and for no more than a number
of 32 bits can tell. -/
structure Alternates (tokens : List String) (first : Move) (count : Nat) (second : Move)
    (more : Nat) : Prop where
  spoken : Spoken tokens first count second more
  different : first ≠ second
  nonempty : 1 ≤ count + more
  fits : count + more ≤ 4294967295

theorem exists_alternates_iff :
    (∃ draft, sequence? tokens = some draft) ↔
      ∃ first count second more, Alternates tokens first count second more := by
  have size : UInt32.size = 4294967295 + 1 := rfl
  simp only [sequence?_eq_some_iff, size, Nat.lt_succ_iff]
  constructor
  · rintro ⟨draft, first, count, second, more, spoken, different, nonempty, fits, _⟩
    exact ⟨first, count, second, more, spoken, different, nonempty, fits⟩
  · rintro ⟨first, count, second, more, spoken, different, nonempty, fits⟩
    exact ⟨_, first, count, second, more, spoken, different, nonempty, fits, rfl⟩

theorem Alternates.sequence?_eq (alternates : Alternates tokens first count second more) :
    sequence? tokens = some (alternation first second count (count + more)) :=
  sequence?_eq_some_iff.mpr ⟨first, count, second, more, alternates.spoken, alternates.different,
    alternates.nonempty, Nat.lt_succ_of_le alternates.fits, rfl⟩

/-- There is a rule where two phrases ask for one. It is accepted with any seed, and in any
situation it plays the first move for the first rounds of each period and the second move for
the others. -/
theorem sequence_plays (tokens : List String) :
    ((∃ draft, sequence? tokens = some draft) ↔
      ∃ first count second more, Alternates tokens first count second more) ∧
    ∀ first count second more, Alternates tokens first count second more →
      ∃ draft, sequence? tokens = some draft ∧ ∀ seed, ∃ rule, draft.check seed = .ok rule ∧
        ∀ situation, rule.play situation =
            .ok (if situation.round.toNat % (count + more) < count then first else second) ∧
          (count = 0 → rule.play situation = .ok second) ∧
          (more = 0 → rule.play situation = .ok first) := by
  refine ⟨exists_alternates_iff, fun first count second more alternates => ?_⟩
  have recognised := alternates.sequence?_eq
  refine ⟨_, recognised, fun seed => ?_⟩
  have nonempty := alternates.nonempty
  have fits : count + more < UInt32.size := Nat.lt_succ_of_le alternates.fits
  rcases (reliable_of_sequence? recognised).exists_check seed with ⟨rule, accepted⟩
  refine ⟨rule, accepted, fun situation => ?_⟩
  have played : rule.play situation =
      .ok (if situation.round.toNat % (count + more) < count then first else second) := by
    rw [play_of_check accepted]
    exact evaluate_alternation first second (by omega) fits (by omega) seed situation
  refine ⟨played, ?_, ?_⟩
  · rintro rfl
    rw [played, if_neg (Nat.not_lt_zero _)]
  · rintro rfl
    have within : situation.round.toNat % (count + 0) < count := Nat.mod_lt _ nonempty
    rw [played, if_pos within]

/-- A phrase of no rounds, and one of as many as there can be. -/
theorem sequence_plays_to_the_end :
    let tokens := ["please", "defect", "for", "zero", "rounds", "and", "then", "cooperate",
      "4294967295", "more"]
    ∃ draft, sequence? tokens = some draft ∧ ∀ seed, ∃ rule, draft.check seed = .ok rule ∧
      ∀ situation, rule.play situation = .ok .cooperate := by
  intro tokens
  have nothing : Phrase .defect 0 (tokens.drop 1)
      (["and", "then"] ++ ["cooperate", "4294967295", "more"]) :=
    .mk (by decide) (.inr ⟨"for", by decide, rfl⟩) (by decide +kernel)
      (.inr ⟨"rounds", by decide, rfl⟩)
  have everything : Phrase .cooperate 4294967295 ["cooperate", "4294967295", "more"] ["more"] :=
    .mk (by decide) (.inl rfl) (by decide +kernel) (.inl rfl)
  have before : ∀ earlier < 1, phrase? (tokens.drop earlier) = none := by decide +kernel
  have alternates : Alternates tokens .defect 0 .cooperate 4294967295 :=
    ⟨⟨1, ["and", "then"], _, ["more"], nothing,
      fun earlier less => phrase?_eq_none_iff.mp (before earlier less), by decide, everything⟩,
      by decide, by decide, by decide⟩
  rcases (sequence_plays tokens).2 _ _ _ _ alternates with ⟨draft, found, accepted⟩
  refine ⟨draft, found, fun seed => ?_⟩
  rcases accepted seed with ⟨rule, checked, plays⟩
  exact ⟨rule, checked, fun situation => (plays situation).2.1 rfl⟩

end Dilemma.Recognizer
