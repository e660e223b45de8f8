import Dilemma.Proofs.Play.Namelessness

/-! # Results of exchanged seats

Whatever is read off a match is read off the mirrored match for the other seat. So the seats
do not decide who wins. -/

namespace Dilemma

namespace Round

/-- A round notes at most one failed decision for each seat, seat A first. -/
def IsOrdered (round : Round) : Prop :=
  round.anomalies = round.anomaliesOf .a ++ round.anomaliesOf .b ∧
    ∀ seat, (round.anomaliesOf seat).length ≤ 1

theorem length_choose (competitor : Competitor) (seat : Seat) (situation : Situation) :
    (choose competitor seat situation).2.length ≤ 1 := by
  rw [choose]
  cases (competitor.decide situation).toExcept with
  | ok move => exact Nat.zero_le 1
  | error error => exact Nat.le_refl 1

theorem isOrdered_play (payoff : Payoff) (a b : Competitor) (movesA movesB : List Move)
    (number : UInt32) : (play payoff a b movesA movesB number).IsOrdered := by
  rcases anomaliesOf_play payoff a b movesA movesB number with ⟨notedA, notedB⟩
  constructor
  · rw [notedA, notedB]
    rfl
  · intro seat
    cases seat with
    | a =>
        rw [notedA]
        exact length_choose ..
    | b =>
        rw [notedB]
        exact length_choose ..

end Round

namespace Match

theorem isOrdered_of_mem_playRounds (payoff : Payoff) (a b : Competitor) (count : Nat) :
    ∀ round ∈ playRounds payoff a b count, round.IsOrdered := by
  induction count with
  | zero =>
      intro round member
      cases member
  | succ count induction =>
      rw [playRounds]
      exact List.forall_mem_append.mpr
        ⟨induction, List.forall_mem_singleton.mpr (Round.isOrdered_play ..)⟩

/-! ## Readings of a mirrored match -/

theorem cumulative_mirror (game : Match) (seat : Seat) :
    game.mirror.cumulative seat = game.cumulative seat.other :=
  congrArg (runningTotals 0) (scores_mirror seat game.rounds)

theorem defections_mirror (game : Match) (seat : Seat) :
    game.mirror.defections seat = game.defections seat.other := by
  rw [defections, defections, roundCount_mirror, cooperations_mirror]

theorem winningSeat_mirror (game : Match) :
    game.mirror.winningSeat = game.winningSeat.map Seat.other := by
  have exchanged : game.mirror.winningSeat =
      if game.total .a < game.total .b then some .a
      else if game.total .b < game.total .a then some .b
      else none := by
    rw [winningSeat, total_mirror, total_mirror]
    rfl
  rw [exchanged, winningSeat]
  rcases Int.lt_trichotomy (game.total .a) (game.total .b) with less | equal | greater
  · rw [if_pos less, if_neg (Int.not_lt.mpr (Int.le_of_lt less)), if_pos less]
    rfl
  · rw [equal, if_neg (Int.lt_irrefl _), if_neg (Int.lt_irrefl _)]
    rfl
  · rw [if_neg (Int.not_lt.mpr (Int.le_of_lt greater)), if_pos greater, if_pos greater]
    rfl

theorem winner_mirror (game : Match) : game.mirror.winner = game.winner := by
  rw [winner, winningSeat_mirror, winner, Option.map_map]
  refine congrArg (game.winningSeat.map ·) (funext fun seat => ?_)
  rw [Function.comp_apply, player_mirror, Seat.other_other]

/-- A match with its seats exchanged is the mirrored match, and so is all that is read off
it. The same participant wins. -/
theorem exchanged_is_mirrored (payoff : Payoff) (a b : Competitor) (rounds : UInt32) :
    play payoff b a rounds = (play payoff a b rounds).mirror ∧
    (∀ round ∈ (play payoff a b rounds).rounds ++ (play payoff b a rounds).rounds,
      round.IsOrdered) ∧
    (∀ seat : Seat,
      (play payoff b a rounds).player seat = (play payoff a b rounds).player seat.other ∧
      (play payoff b a rounds).total seat = (play payoff a b rounds).total seat.other ∧
      (play payoff b a rounds).cumulative seat =
        (play payoff a b rounds).cumulative seat.other ∧
      (play payoff b a rounds).cooperations seat =
        (play payoff a b rounds).cooperations seat.other ∧
      (play payoff b a rounds).defections seat =
        (play payoff a b rounds).defections seat.other ∧
      (play payoff b a rounds).anomaliesOf seat =
        ((play payoff a b rounds).anomaliesOf seat.other).map Anomaly.mirror) ∧
    (play payoff b a rounds).winningSeat =
      (play payoff a b rounds).winningSeat.map Seat.other ∧
    (play payoff b a rounds).winner = (play payoff a b rounds).winner := by
  have mirrored := play_mirror payoff a b rounds
  have ordered := List.forall_mem_append.mpr
    ⟨isOrdered_of_mem_playRounds payoff a b rounds.toNat,
      isOrdered_of_mem_playRounds payoff b a rounds.toNat⟩
  refine ⟨mirrored, ordered, fun seat => ?_, ?_, ?_⟩
  · rw [mirrored]
    exact ⟨player_mirror _ seat, total_mirror _ seat, cumulative_mirror _ seat,
      cooperations_mirror _ seat, defections_mirror _ seat, anomaliesOf_mirror _ seat⟩
  · rw [mirrored, winningSeat_mirror]
  · rw [mirrored, winner_mirror]

end Match

end Dilemma
