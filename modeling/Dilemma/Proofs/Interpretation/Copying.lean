import Dilemma.Proofs.Interpretation.Offline
import Dilemma.Proofs.Interpretation.Phrases

/-! # Copying the opponent

A text may ask to copy the opponent, perhaps after an opening. What counts as an opening is
said here without a scanner: the word "first" and behind it a number. The rule for such a text
has at most two clauses. The one for the opening compares the number of the round, and once it
is over, the other one returns the last move of the opponent, as tit for tat does. Neither of
them can fail, so in a match the two cannot be told apart. -/

namespace Dilemma

/-! ## Players that play alike -/

namespace Competitor

/-- In every situation both name a move, and it is the same one. -/
def PlaysLike (left right : Competitor) : Prop :=
  ∀ situation, ∃ move, left.decide situation = .plays move ∧ right.decide situation = .plays move

/-- Against anybody and from either seat, their rounds are the same. The names at the head of
a match may differ. -/
def SameRounds (left right : Competitor) : Prop :=
  ∀ (opponent : Competitor) (payoff : Payoff) (rounds : UInt32),
    (Match.play payoff left opponent rounds).rounds =
        (Match.play payoff right opponent rounds).rounds ∧
      (Match.play payoff opponent left rounds).rounds =
        (Match.play payoff opponent right rounds).rounds

variable {left right : Competitor}

/-- A name shows in a round only where a decision fails. -/
theorem PlaysLike.choose (alike : PlaysLike left right) (seat : Seat) (situation : Situation) :
    Round.choose left seat situation = Round.choose right seat situation := by
  rcases alike situation with ⟨move, plays, playsToo⟩
  rw [Round.choose, Round.choose, plays, playsToo]
  rfl

theorem PlaysLike.sameRounds (alike : PlaysLike left right) : left.SameRounds right := by
  intro opponent payoff rounds
  have chosen (seat : Seat) (situation : Situation)
      (_ : situation.round.toNat < rounds.toNat) := alike.choose seat situation
  have unchanged (seat : Seat) (situation : Situation)
      (_ : situation.round.toNat < rounds.toNat) :
      Round.choose opponent seat situation = Round.choose opponent seat situation := rfl
  constructor
  · exact Match.playRounds_of_choose (chosen .a) (unchanged .b) payoff (Nat.le_refl _)
  · exact Match.playRounds_of_choose (unchanged .a) (chosen .b) payoff (Nat.le_refl _)

end Competitor

namespace Recognizer

/-! ## Openings -/

/-- The first action word among the tokens asks for this move, and without any it is
cooperation. -/
def Leads (move : Move) (tokens : List String) : Prop :=
  (∃ unnamed action rest, tokens = unnamed ++ action :: rest ∧
    (∀ token ∈ unnamed, move? token = none) ∧ move? action = some move) ∨
  (∀ token ∈ tokens, move? token = none) ∧ move = .cooperate

/-- The word "first" and somewhere behind it a number. -/
inductive Opens (move : Move) (rounds : Nat) : List String → Prop where
  | mk {before between after : List String} {number : String}
      (unsaid : "first" ∉ before) (led : Leads move before)
      (uncounted : ∀ token ∈ between, number? token = none)
      (counted : number? number = some rounds) :
      Opens move rounds (before ++ "first" :: (between ++ number :: after))

variable {tokens before rest : List String} {move : Move} {rounds : Nat}

theorem leads_iff : Leads move tokens ↔ (tokens.findSome? move?).getD .cooperate = move := by
  cases found : tokens.findSome? move? with
  | none =>
      have unnamed := List.findSome?_eq_none_iff.mp found
      constructor
      · rintro (⟨before, action, rest, rfl, -, named⟩ | ⟨-, rfl⟩)
        · have missing := unnamed action (by simp)
          rw [missing] at named
          cases named
        · rfl
      · rintro rfl
        exact .inr ⟨unnamed, rfl⟩
  | some known =>
      rcases List.findSome?_eq_some_iff.mp found with ⟨before, action, rest, rfl, named, unnamed⟩
      constructor
      · rintro (⟨others, other, later, split, silent, meant⟩ | ⟨silent, -⟩)
        · have same : (others ++ other :: later).findSome? move? = some move :=
            List.findSome?_eq_some_iff.mpr ⟨others, other, later, rfl, meant, silent⟩
          rw [← split, found] at same
          exact Option.some.inj same
        · have missing := silent action (by simp)
          rw [missing] at named
          cases named
      · rintro rfl
        exact .inl ⟨before, action, rest, rfl, unnamed, named⟩

theorem opening?_append (unsaid : "first" ∉ before) (rest : List String) :
    opening? (before ++ "first" :: rest) =
      (rest.findSome? number?).map
        (openingClause ((before.findSome? move?).getD .cooperate)) := by
  have other : ∀ token ∈ before, decide (token ≠ "first") = true := by
    intro token member
    exact decide_eq_true fun same => unsaid (same ▸ member)
  have skipped : (before ++ "first" :: rest).dropWhile (· ≠ "first") = "first" :: rest := by
    rw [List.dropWhile_append_of_pos other]
    simp
  have passed : (before ++ "first" :: rest).takeWhile (· ≠ "first") = before := by
    rw [List.takeWhile_append_of_pos other]
    simp
  rw [opening?, skipped, passed]
  dsimp only
  cases rest.findSome? number? <;> rfl

theorem opening?_eq_some_iff {clause : ClauseDraft} :
    opening? tokens = some clause ↔
      ∃ move rounds, Opens move rounds tokens ∧ clause = openingClause move rounds := by
  constructor
  · intro asked
    by_cases said : "first" ∈ tokens
    · rcases List.eq_append_cons_of_mem said with ⟨before, rest, rfl, unsaid⟩
      rw [opening?_append unsaid] at asked
      rcases Option.map_eq_some_iff.mp asked with ⟨rounds, found, rfl⟩
      rcases List.findSome?_eq_some_iff.mp found with
        ⟨between, number, after, rfl, counted, uncounted⟩
      exact ⟨_, rounds, .mk unsaid (leads_iff.mpr rfl) uncounted counted, rfl⟩
    · have nothing : tokens.dropWhile (· ≠ "first") = [] := by
        rw [List.dropWhile_eq_nil_iff]
        intro token member
        exact decide_eq_true fun same => said (same ▸ member)
      rw [opening?, nothing] at asked
      cases asked
  · rintro ⟨move, rounds, ⟨unsaid, led, uncounted, counted⟩, rfl⟩
    rename_i before between after number
    have found : (between ++ number :: after).findSome? number? = some rounds :=
      List.findSome?_eq_some_iff.mpr ⟨between, number, after, rfl, counted, uncounted⟩
    rw [opening?_append unsaid, found, leads_iff.mp led]
    rfl

theorem Opens.first_mem (opens : Opens move rounds tokens) : "first" ∈ tokens := by
  cases opens
  simp

theorem Opens.rounds_lt (opens : Opens move rounds tokens) : rounds < UInt32.size := by
  cases opens with
  | mk _ _ _ counted => exact number?_lt counted

/-! ## Playing a copy -/

/-- The clause for the opening decides by the number of the round. -/
theorem evaluate_opening (move : Move) (small : rounds < UInt32.size)
    (clauses : List ClauseDraft) (otherwise : String) (seed : UInt64) (situation : Situation) :
    (RuleDraft.mk (openingClause move rounds :: clauses) otherwise).evaluate seed situation =
      if situation.round.toNat < rounds then .ok move
      else (RuleDraft.mk clauses otherwise).evaluate seed situation := by
  have room : UInt32.size < 2 ^ 53 := by decide
  have asked : (OperandDraft.predicate "round_index").evaluate situation =
      .ok (.number (Binary64.ofNat situation.round.toNat)) := rfl
  have compared := evaluate_less asked (Binary64.ofNat rounds)
  rw [Binary64.less_ofNat (situation.round.toNat_lt.trans room) (small.trans room)] at compared
  have known : (openingClause move rounds).condition.evaluate situation =
      .ok (decide (situation.round.toNat < rounds)) := compared
  have meant : actionMeant seed situation.round (openingClause move rounds).action = .ok move :=
    actionMeant_name seed situation.round move
  rw [RuleDraft.evaluate_cons, known, meant]
  by_cases early : situation.round.toNat < rounds
  · simp [early]
  · simp [early]

/-- Without a clause in front of it, the one for retaliation makes the rule tit for tat. -/
theorem evaluate_retaliation (seed chance : UInt64) (situation : Situation) :
    (RuleDraft.mk [retaliation] "cooperate").evaluate seed situation =
      .ok (Template.titForTat.play chance situation) := by
  have compared : retaliation.condition.evaluate situation =
      .ok (situation.lastMove .opponent == some .defect) := rfl
  have chosen := evaluate_choice compared .defect .cooperate seed
  refine Eq.trans chosen (congrArg Except.ok ?_)
  rw [Template.play]
  rcases situation.lastMove .opponent with _ | _ | _
  · rfl
  · rfl
  · rfl

variable {draft : RuleDraft}

theorem eq_of_conditional? (recognised : conditional? tokens = some draft) :
    draft = ⟨(opening? tokens).toList ++ [retaliation], "cooperate"⟩ := by
  rw [conditional?] at recognised
  split at recognised
  · exact (Option.some.inj recognised).symm
  · cases recognised

theorem Opens.evaluate (opens : Opens move rounds tokens)
    (recognised : conditional? tokens = some draft) (seed : UInt64) {situation : Situation}
    (early : situation.round.toNat < rounds) : draft.evaluate seed situation = .ok move := by
  have asked := opening?_eq_some_iff.mpr ⟨move, rounds, opens, rfl⟩
  have evaluated := evaluate_opening move opens.rounds_lt [retaliation] "cooperate" seed situation
  rw [if_pos early] at evaluated
  rw [eq_of_conditional? recognised, asked]
  exact evaluated

/-- Where no opening was asked for, it is over from the beginning. -/
theorem evaluate_of_over (recognised : conditional? tokens = some draft) (seed chance : UInt64)
    {situation : Situation}
    (passed : ∀ move rounds, Opens move rounds tokens → rounds ≤ situation.round.toNat) :
    draft.evaluate seed situation = .ok (Template.titForTat.play chance situation) := by
  rw [eq_of_conditional? recognised]
  cases opening : opening? tokens with
  | none => exact evaluate_retaliation seed chance situation
  | some clause =>
      rcases opening?_eq_some_iff.mp opening with ⟨move, rounds, opens, rfl⟩
      have evaluated := evaluate_opening move opens.rounds_lt [retaliation] "cooperate" seed
        situation
      rw [if_neg (Nat.not_lt.mpr (passed move rounds opens)),
        evaluate_retaliation seed chance situation] at evaluated
      exact evaluated

/-- A rule without an opening plays like the template. -/
theorem playsLike_of_unopened (recognised : conditional? tokens = some draft)
    (unopened : ∀ move rounds, ¬ Opens move rounds tokens) {seed chance : UInt64} {rule : Rule}
    (accepted : draft.check seed = .ok rule) {reader copier : Competitor}
    (reads : reader.logic = .rule rule) (copies : copier.logic = .template .titForTat chance) :
    reader.PlaysLike copier := by
  intro situation
  have played : rule.play situation = .ok (Template.titForTat.play chance situation) := by
    rw [play_of_check accepted]
    exact evaluate_of_over recognised seed chance fun move rounds opens =>
      absurd opens (unopened move rounds)
  refine ⟨_, ?_, Competitor.decide_of_template copies situation⟩
  rw [Competitor.decide_of_rule reads, played, Decision.ofExcept]

/-! ## Interpreting a copy -/

theorem recognize_of_conditional? {text : String}
    (recognised : conditional? (Recognizer.tokens text) = some draft) :
    recognize text = .rule draft := by
  rw [recognize, recognised]

/-- What becomes of an entry is the rule for its text. -/
theorem logic_interpret {State : Type} {interpreter : Interpreter State}
    (asks : interpreter.Recognizes) {entry : Entry} {progress : Interpreter.Progress State}
    (absent : progress.cache.get? (.ofText entry.text) = none)
    (short : (StrategyKey.ofText entry.text).size ≤ interpreter.settings.maxTextBytes)
    (recognised : conditional? (Recognizer.tokens (StrategyKey.ofText entry.text).text) =
      some draft) :
    ∃ rule, draft.check (StrategyKey.ofText entry.text).fingerprint = .ok rule ∧
      (interpreter.interpret entry progress).1.logic = .rule rule := by
  rcases (reliable_of_conditional? recognised).exists_check
    (StrategyKey.ofText entry.text).fingerprint with ⟨rule, accepted⟩
  refine ⟨rule, accepted, ?_⟩
  rw [Interpreter.interpret_recognizes asks absent, Interpreter.resolve_recognizes asks,
    if_neg (Nat.not_lt.mpr short), recognize_of_conditional? recognised, Interpreter.logicOf,
    accepted]
  rfl

/-- A rule that copies the opponent is accepted with any seed. As long as an opening is asked
for, it plays the move of the opening, and otherwise what tit for tat plays. Without an opening,
whoever plays the rule has the rounds of tit for tat, and so has the entry with the text. -/
theorem copying_plays (tokens : List String) (draft : RuleDraft)
    (recognised : conditional? tokens = some draft) :
    (∀ seed, ∃ rule, draft.check seed = .ok rule ∧
      (∀ situation chance,
        (∀ move rounds, Opens move rounds tokens → situation.round.toNat < rounds →
          rule.play situation = .ok move) ∧
        ((∀ move rounds, Opens move rounds tokens → rounds ≤ situation.round.toNat) →
          rule.play situation = .ok (Template.titForTat.play chance situation))) ∧
      ((∀ move rounds, ¬ Opens move rounds tokens) →
        ∀ (reader copier : Competitor) chance, reader.logic = .rule rule →
          copier.logic = .template .titForTat chance → reader.SameRounds copier)) ∧
    ∀ {State : Type} (interpreter : Interpreter State), interpreter.Recognizes →
      ∀ (entry : Entry) (progress : Interpreter.Progress State),
        progress.cache.get? (.ofText entry.text) = none →
        (StrategyKey.ofText entry.text).size ≤ interpreter.settings.maxTextBytes →
        Recognizer.tokens (StrategyKey.ofText entry.text).text = tokens →
        (∀ move rounds, ¬ Opens move rounds tokens) →
        ∀ (copier : Competitor) chance, copier.logic = .template .titForTat chance →
          (interpreter.interpret entry progress).1.SameRounds copier := by
  constructor
  · intro seed
    rcases (reliable_of_conditional? recognised).exists_check seed with ⟨rule, accepted⟩
    refine ⟨rule, accepted, fun situation chance => ⟨?_, ?_⟩, ?_⟩
    · intro move rounds opens early
      rw [play_of_check accepted]
      exact opens.evaluate recognised seed early
    · intro passed
      rw [play_of_check accepted]
      exact evaluate_of_over recognised seed chance passed
    · intro unopened reader copier chance reads copies
      exact (playsLike_of_unopened recognised unopened accepted reads copies).sameRounds
  · intro State interpreter asks entry progress absent short same unopened copier chance copies
    subst same
    rcases logic_interpret asks absent short recognised with ⟨rule, accepted, reads⟩
    exact (playsLike_of_unopened recognised unopened accepted reads copies).sameRounds

/-- Two rounds of betrayal whatever happens, and a copy from the beginning. -/
theorem copying_plays_after_betrayal :
    let tokens := ["betray", "him", "the", "first", "two", "rounds", "then", "copy", "opponents"]
    let interpreter : Interpreter Unit :=
      ⟨Recognizer.translator, .standard, Template.titForTat.asFunction 0⟩
    let entry : Entry := ⟨"a", "Mirror your opponent."⟩
    (∃ draft, conditional? tokens = some draft ∧ ∀ seed, ∃ rule, draft.check seed = .ok rule ∧
      rule.play ⟨[.defect], [.cooperate], 1, .classic⟩ = .ok .defect) ∧
    (∀ seed, ∃ rule, (RuleDraft.mk [retaliation] "cooperate").check seed = .ok rule ∧
      rule.play ⟨[.cooperate], [.defect], 1, .classic⟩ = .ok .defect) ∧
    (interpreter.interpret entry (.start ())).1.SameRounds (.ofTemplate "b" .titForTat) := by
  intro tokens interpreter entry
  have opens : Opens .defect 2
      (["betray", "him", "the"] ++ "first" :: ([] ++ "two" ::
        ["rounds", "then", "copy", "opponents"])) :=
    .mk (by decide) (.inl ⟨[], "betray", ["him", "the"], rfl, by simp, by decide⟩) (by simp)
      (by decide +kernel)
  have unopened : ∀ move rounds, ¬ Opens move rounds ["mirror", "your", "opponent"] := by
    intro move rounds opens
    exact absurd opens.first_mem (by decide)
  have asks : interpreter.Recognizes := Interpreter.recognizes_translator _ (by decide)
  have read : Recognizer.tokens (StrategyKey.ofText entry.text).text =
      ["mirror", "your", "opponent"] := by
    decide +kernel
  have betrays := copying_plays tokens _ rfl
  have mirrors := copying_plays ["mirror", "your", "opponent"] _ rfl
  refine ⟨⟨_, rfl, fun seed => ?_⟩, fun seed => ?_, ?_⟩
  · rcases betrays.1 seed with ⟨rule, accepted, plays, -⟩
    exact ⟨rule, accepted, (plays _ 0).1 .defect 2 opens (by decide)⟩
  · rcases mirrors.1 seed with ⟨rule, accepted, plays, -⟩
    exact ⟨rule, accepted, (plays _ 0).2 fun move rounds opens =>
      absurd opens (unopened move rounds)⟩
  · exact mirrors.2 interpreter asks entry (.start ()) rfl (by decide +kernel) read unopened _ 0 rfl

end Recognizer

end Dilemma
