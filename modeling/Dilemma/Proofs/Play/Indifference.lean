import Dilemma.Proofs.Play.Anomalies

/-! # Indifference to values

Only one template looks at the payoff table, and all it asks is whether a round was won, that
is, whether it earned at least the reward. In a dilemma a round is won exactly where the other
side has cooperated, whatever the values are. So two tables do not make a difference to the
moves of templates, although they make one to every score. -/

namespace Dilemma

/-- A round is won by the cooperation of the other side, and by nothing else. -/
theorem Payoff.reward_le_score_iff (payoff : Payoff) (own opponent : Move) :
    payoff.reward ≤ payoff.score own opponent ↔ opponent = .cooperate := by
  have temptation := Int32.lt_iff_toInt_lt.mp payoff.reward_lt_temptation
  have punishment := Int32.lt_iff_toInt_lt.mp payoff.punishment_lt_reward
  have sucker := Int32.lt_iff_toInt_lt.mp payoff.sucker_lt_punishment
  rw [Int32.le_iff_toInt_le]
  cases own <;> cases opponent <;> simp [score] <;> omega

namespace Template

/-- Cooperate after two equal moves, and where there are not two moves to compare. -/
def agreeing : Option Move → Option Move → Move
  | some own, some opponent => if own = opponent then .cooperate else .defect
  | _, _ => .cooperate

theorem playPavlov_eq (situation : Situation) :
    playPavlov situation = agreeing (situation.lastMove .own) (situation.lastMove .opponent) := by
  rw [playPavlov]
  simp only [Payoff.reward_le_score_iff]
  rcases situation.lastMove .own with _ | _ | _ <;>
    rcases situation.lastMove .opponent with _ | _ | _ <;> rfl

/-- No template plays by the values in the table. -/
theorem play_payoff (template : Template) (seed : UInt64) (situation : Situation)
    (payoff : Payoff) :
    template.play seed { situation with payoff } = template.play seed situation := by
  cases template with
  | pavlov =>
      simp only [play, playPavlov_eq]
      rfl
  | _ => rfl

/-- With as many moves on both sides, the last moves are either two or none. -/
theorem agreeing_eq_cooperate_iff {own opponent : List Move}
    (lengths : own.length = opponent.length) :
    agreeing own.getLast? opponent.getLast? = .cooperate ↔
      own = [] ∨ own.getLast? = opponent.getLast? := by
  cases lastOwn : own.getLast? with
  | none =>
      have nothing := List.getLast?_eq_none_iff.mp lastOwn
      exact iff_of_true rfl (.inl nothing)
  | some move =>
      have something : own ≠ [] := by
        rintro rfl
        cases lastOwn
      have opposed : opponent ≠ [] := by
        rintro rfl
        exact something (List.length_eq_zero_iff.mp lengths)
      rw [List.getLast?_eq_some_getLast opposed]
      by_cases same : move = opponent.getLast opposed
      · simp [agreeing, something, same]
      · simp [agreeing, something, same]

end Template

/-- The values of the table do not matter to its decisions. -/
def Competitor.Indifferent (competitor : Competitor) : Prop :=
  ∀ situation payoff, competitor.decide { situation with payoff } = competitor.decide situation

theorem Competitor.indifferent_of_template {competitor : Competitor} {template : Template}
    {seed : UInt64} (logic : competitor.logic = .template template seed) :
    competitor.Indifferent := by
  intro situation payoff
  rw [decide_of_template logic, decide_of_template logic, template.play_payoff]

theorem Competitor.Indifferent.choose {competitor : Competitor}
    (indifferent : competitor.Indifferent) (seat : Seat) (situation : Situation)
    (payoff : Payoff) :
    Round.choose competitor seat { situation with payoff } =
      Round.choose competitor seat situation := by
  rw [Round.choose, Round.choose, indifferent situation payoff]

namespace Match

variable {a b : Competitor}

/-- What the seats have seen is the same under both tables, so the next round is. -/
theorem moves_playRounds_indifferent (first : a.Indifferent) (second : b.Indifferent)
    (payoff other : Payoff) (count : Nat) (seat : Seat) :
    moves seat (playRounds payoff a b count) = moves seat (playRounds other a b count) := by
  induction count generalizing seat with
  | zero => rfl
  | succ count induction =>
      let seen (seat : Seat) : List Move := moves seat (playRounds other a b count)
      have chosenA := first.choose .a ⟨seen .a, seen .b, UInt32.ofNat count, other⟩ payoff
      have chosenB := second.choose .b ⟨seen .b, seen .a, UInt32.ofNat count, other⟩ payoff
      rw [playRounds, playRounds, moves_append, moves_append, induction seat, induction .a,
        induction .b]
      refine congrArg (seen seat ++ ·) ?_
      cases seat with
      | a => exact congrArg (fun chosen => [chosen.1]) chosenA
      | b => exact congrArg (fun chosen => [chosen.1]) chosenB

/-- Templates make the same moves under any two tables. In particular, after as many moves on
both sides, win-stay lose-switch cooperates where the last two moves were equal, and in the
first round. -/
theorem templates_indifferent (a b : Competitor) (first second : Template)
    (firstSeed secondSeed : UInt64) (firstLogic : a.logic = .template first firstSeed)
    (secondLogic : b.logic = .template second secondSeed) (payoff other : Payoff)
    (rounds : UInt32) :
    (∀ seat, moves seat (play payoff a b rounds).rounds =
      moves seat (play other a b rounds).rounds) ∧
    ∀ seed, ∀ situation : Situation, situation.own.length = situation.opponent.length →
      (Template.pavlov.play seed situation = .cooperate ↔
        situation.own = [] ∨ situation.lastMove .own = situation.lastMove .opponent) := by
  constructor
  · exact moves_playRounds_indifferent (Competitor.indifferent_of_template firstLogic)
      (Competitor.indifferent_of_template secondLogic) payoff other rounds.toNat
  · intro seed situation lengths
    rw [Template.play, Template.playPavlov_eq]
    exact Template.agreeing_eq_cooperate_iff lengths

/-- Under a table in which everything is a loss, a switch is made where it would be made under
the classic one. -/
theorem templates_indifferent_to_losses :
    let shifting := Competitor.ofTemplate "shifting" .pavlov
    let wary := Competitor.ofTemplate "wary" .suspiciousTitForTat
    let losses : Payoff := ⟨-1, -2, -30, -400, by decide, by decide, by decide⟩
    moves .a (play losses shifting wary 4).rounds = [.cooperate, .defect, .defect, .cooperate] ∧
      (Template.pavlov.play 0 ⟨[.defect], [.defect], 1, losses⟩ = .cooperate ↔
        [Move.defect] = [] ∨ (some Move.defect = some Move.defect)) := by
  intro shifting wary losses
  rcases templates_indifferent shifting wary _ _ 0 0 rfl rfl losses .classic 4 with ⟨same, stays⟩
  exact ⟨(same .a).trans (by decide +kernel), stays 0 ⟨[.defect], [.defect], 1, losses⟩ rfl⟩

end Match

end Dilemma
