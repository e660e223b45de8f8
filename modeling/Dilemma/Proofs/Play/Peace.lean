import Mathlib.Algebra.BigOperators.Group.List.Basic
import Dilemma.Proofs.Play.Indifference

/-! # Peace

A template is nice if it cooperates as long as nobody has defected. Two nice players never see a
defection, so none of them ever has a reason to defect, and every round of theirs is like the
first. -/

namespace Dilemma

/-- Nobody has defected. -/
structure Situation.Peaceful (situation : Situation) : Prop where
  own : Move.defect ∉ situation.own
  opponent : Move.defect ∉ situation.opponent

theorem Situation.Peaceful.lastMove_ne {situation : Situation} (peaceful : situation.Peaceful)
    (side : Side) : situation.lastMove side ≠ some .defect := by
  intro last
  cases side with
  | own => exact peaceful.own (List.mem_of_getLast? last)
  | opponent => exact peaceful.opponent (List.mem_of_getLast? last)

theorem countMoves_defect_eq_zero {moves : List Move} (peaceful : Move.defect ∉ moves) :
    countMoves .defect moves = 0 := List.count_eq_zero.mpr peaceful

namespace Template

/-- The templates that are never the first to defect. -/
def nice : List Template :=
  [titForTat, alwaysCooperate, grimTrigger, pavlov, titForTwoTats, gradual]

/-! ## Nice templates

Each of them has a reason of its own to cooperate while there is peace. -/

variable {situation : Situation} (peaceful : situation.Peaceful) (seed : UInt64)

include peaceful

theorem play_titForTat : titForTat.play seed situation = .cooperate := by
  have last := peaceful.lastMove_ne .opponent
  rw [play]
  rcases known : situation.lastMove .opponent with _ | _ | _
  · rfl
  · rfl
  · exact absurd known last

theorem play_grimTrigger : grimTrigger.play seed situation = .cooperate := by
  simp [play, countMoves_defect_eq_zero peaceful.opponent]

theorem play_pavlov : pavlov.play seed situation = .cooperate := by
  have own := peaceful.lastMove_ne .own
  have opponent := peaceful.lastMove_ne .opponent
  rw [play, playPavlov_eq]
  rcases ownLast : situation.lastMove .own with _ | _ | _
  · rfl
  · rcases opponentLast : situation.lastMove .opponent with _ | _ | _
    · rfl
    · rfl
    · exact absurd opponentLast opponent
  · exact absurd ownLast own

theorem play_titForTwoTats : titForTwoTats.play seed situation = .cooperate := by
  rw [play, playTwoTats]
  split
  · rename_i earlier same
    have member : Move.defect ∈ situation.opponent.reverse := by simp [same]
    exact absurd (List.mem_reverse.mp member) peaceful.opponent
  · rfl

theorem play_gradual : gradual.play seed situation = .cooperate := by
  simp [play, owed, countMoves_defect_eq_zero peaceful.opponent]

omit peaceful

theorem play_of_nice {template : Template} (isNice : template ∈ nice)
    (peaceful : situation.Peaceful) (seed : UInt64) :
    template.play seed situation = .cooperate := by
  cases template with
  | titForTat => exact play_titForTat peaceful seed
  | alwaysCooperate => rfl
  | grimTrigger => exact play_grimTrigger peaceful seed
  | pavlov => exact play_pavlov peaceful seed
  | titForTwoTats => exact play_titForTwoTats peaceful seed
  | gradual => exact play_gradual peaceful seed
  | alwaysDefect => simp [nice] at isNice
  | suspiciousTitForTat => simp [nice] at isNice
  | random => simp [nice] at isNice

/-- No other template keeps the peace in every situation. -/
theorem mem_nice_iff (template : Template) :
    template ∈ nice ↔
      ∀ seed situation, situation.Peaceful → template.play seed situation = .cooperate := by
  constructor
  · intro isNice seed situation peaceful
    exact play_of_nice isNice peaceful seed
  · intro keeps
    have opening : Situation.Peaceful ⟨[], [], 0, .classic⟩ := ⟨by simp, by simp⟩
    have plays := keeps 0 _ opening
    cases template with
    | alwaysDefect => cases plays
    | suspiciousTitForTat => cases plays
    | random => exact absurd plays (by decide +kernel)
    | _ => simp [nice]

end Template

namespace Competitor

/-- It plays a nice template, with whatever seed. -/
def Nice (competitor : Competitor) : Prop :=
  ∃ template ∈ Template.nice, ∃ seed, competitor.logic = .template template seed

theorem nice_ofTemplate (name : String) {template : Template} (among : template ∈ Template.nice) :
    (ofTemplate name template).Nice :=
  ⟨template, among, 0, rfl⟩

theorem Nice.choose {competitor : Competitor} (isNice : competitor.Nice) (seat : Seat)
    {situation : Situation} (peaceful : situation.Peaceful) :
    Round.choose competitor seat situation = (.cooperate, []) := by
  rcases isNice with ⟨template, among, seed, logic⟩
  rw [Round.choose, decide_of_template logic, Template.play_of_nice among peaceful]
  rfl

end Competitor

/-! ## Peaceful matches -/

/-- Both sides cooperate and are rewarded for it, and nothing is noted. -/
structure Round.Peaceful (payoff : Payoff) (round : Round) : Prop where
  move : ∀ seat, round.move seat = .cooperate
  score : ∀ seat, round.score seat = payoff.reward
  anomalies : round.anomalies = []

namespace Match

/-- Every round is peaceful, and in the end neither side is ahead. -/
structure Peaceful (payoff : Payoff) (game : Match) : Prop where
  rounds : ∀ round ∈ game.rounds, round.Peaceful payoff
  anomalies : game.anomalies = []
  winner : game.winner = none

variable {payoff : Payoff} {a b : Competitor} {rounds : List Round} {seat : Seat}

theorem defect_notMem_moves (peaceful : ∀ round ∈ rounds, round.Peaceful payoff) (seat : Seat) :
    Move.defect ∉ moves seat rounds := by
  intro member
  rcases List.mem_map.mp member with ⟨round, among, defects⟩
  have cooperates := (peaceful round among).move seat
  rw [defects] at cooperates
  cases cooperates

theorem peaceful_round (first : a.Nice) (second : b.Nice) {movesA movesB : List Move}
    (peacefulA : Move.defect ∉ movesA) (peacefulB : Move.defect ∉ movesB) (number : UInt32) :
    (Round.play payoff a b movesA movesB number).Peaceful payoff := by
  rw [Round.play, first.choose .a ⟨peacefulA, peacefulB⟩, second.choose .b ⟨peacefulB, peacefulA⟩]
  constructor
  · intro seat
    cases seat <;> rfl
  · intro seat
    cases seat <;> rfl
  · rfl

/-- Peace so far is peace for one more round. -/
theorem peaceful_playRounds (first : a.Nice) (second : b.Nice) (payoff : Payoff) (count : Nat) :
    ∀ round ∈ playRounds payoff a b count, round.Peaceful payoff := by
  induction count with
  | zero => simp [playRounds]
  | succ count induction =>
      intro round member
      rcases List.mem_append.mp member with earlier | last
      · exact induction round earlier
      · rw [List.mem_singleton.mp last]
        exact peaceful_round first second (defect_notMem_moves induction .a)
          (defect_notMem_moves induction .b) _

variable {game : Match} (peaceful : ∀ round ∈ game.rounds, round.Peaceful payoff)

include peaceful

theorem scores_of_peaceful (seat : Seat) :
    scores seat game.rounds = List.replicate game.roundCount payoff.reward.toInt := by
  refine List.eq_replicate_iff.mpr ⟨by simp [scores, roundCount], fun score member => ?_⟩
  rcases List.mem_map.mp member with ⟨round, among, rfl⟩
  rw [(peaceful round among).score seat]

theorem total_of_peaceful (seat : Seat) :
    game.total seat = payoff.reward.toInt * game.roundCount := by
  have summed : (scores seat game.rounds).sum = game.roundCount * payoff.reward.toInt := by
    simp [scores_of_peaceful peaceful]
  rw [Int.mul_comm]
  exact summed

theorem cooperations_of_peaceful (seat : Seat) : game.cooperations seat = game.roundCount := by
  have cooperative : ∀ move ∈ moves seat game.rounds, Move.cooperate = move := by
    intro move member
    rcases List.mem_map.mp member with ⟨round, among, rfl⟩
    exact ((peaceful round among).move seat).symm
  exact (List.count_eq_length.mpr cooperative).trans (by simp [moves, roundCount])

theorem peaceful_of_rounds : game.Peaceful payoff := by
  refine ⟨peaceful, ?_, ?_⟩
  · exact List.flatMap_eq_nil_iff.mpr fun round among => (peaceful round among).anomalies
  · rw [winner, winningSeat, total_of_peaceful peaceful, total_of_peaceful peaceful]
    simp

omit peaceful

/-- Nobody defects in a match of two nice players. -/
theorem peaceful_play (first : a.Nice) (second : b.Nice) (payoff : Payoff) (rounds : UInt32) :
    (play payoff a b rounds).Peaceful payoff :=
  peaceful_of_rounds (peaceful_playRounds first second payoff rounds.toNat)

theorem Peaceful.anomaliesOf (peaceful : game.Peaceful payoff) (seat : Seat) :
    game.anomaliesOf seat = [] := by
  simp [Match.anomaliesOf, peaceful.anomalies]

end Match

end Dilemma
