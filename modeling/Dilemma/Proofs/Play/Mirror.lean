import Dilemma.Play.Match

/-! # Exchanged seats

Whoever decides is shown its own moves and those of the other side, never its
seat. A match with the seats exchanged is therefore the same match seen from the
other side, failed decisions included. -/

namespace Dilemma

def Anomaly.mirror (anomaly : Anomaly) : Anomaly := { anomaly with seat := anomaly.seat.other }

namespace Round

def anomaliesOf (round : Round) (seat : Seat) : List Anomaly :=
  round.anomalies.filter (·.seat = seat)

/-- The round as seen from the other side. Seat A still comes first among the
anomalies. -/
def mirror (round : Round) : Round where
  round := round.round
  moveA := round.moveB
  moveB := round.moveA
  scoreA := round.scoreB
  scoreB := round.scoreA
  anomalies := (round.anomaliesOf .b ++ round.anomaliesOf .a).map Anomaly.mirror

@[simp] theorem move_mirror (round : Round) (seat : Seat) :
    round.mirror.move seat = round.move seat.other := by
  cases seat <;> rfl

@[simp] theorem score_mirror (round : Round) (seat : Seat) :
    round.mirror.score seat = round.score seat.other := by
  cases seat <;> rfl

theorem filter_anomaliesOf (round : Round) (left right : Seat) :
    (round.anomaliesOf left).filter (·.seat = right) =
      if left = right then round.anomaliesOf left else [] := by
  have seated : ∀ anomaly ∈ round.anomaliesOf left, anomaly.seat = left := by
    intro anomaly member
    simpa using (List.mem_filter.mp member).2
  split
  · rename_i equal
    subst equal
    exact List.filter_eq_self.mpr fun anomaly member => decide_eq_true (seated anomaly member)
  · rename_i different
    refine List.filter_eq_nil_iff.mpr fun anomaly member => ?_
    rw [decide_eq_true_eq, seated anomaly member]
    exact different

theorem anomaliesOf_mirror (round : Round) (seat : Seat) :
    round.mirror.anomaliesOf seat = (round.anomaliesOf seat.other).map Anomaly.mirror := by
  have exchanged : ∀ anomaly : Anomaly,
      decide (anomaly.mirror.seat = seat) = decide (anomaly.seat = seat.other) := by
    intro anomaly
    change decide (anomaly.seat.other = seat) = _
    cases anomaly.seat <;> cases seat <;> rfl
  rw [anomaliesOf, mirror, List.filter_map]
  simp only [Function.comp_def, exchanged, List.filter_append, filter_anomaliesOf]
  cases seat <;> simp [Seat.other]

/-! ## Play -/

theorem choose_other (competitor : Competitor) (seat : Seat) (situation : Situation) :
    choose competitor seat.other situation =
      ((choose competitor seat situation).1,
        (choose competitor seat situation).2.map Anomaly.mirror) := by
  rw [choose, choose]
  cases (competitor.decide situation).toExcept with
  | ok move => rfl
  | error error => rfl

/-- A failed decision is noted for the seat in which it was made. -/
theorem seat_of_mem_choose {competitor : Competitor} {seat : Seat} {situation : Situation}
    {anomaly : Anomaly} (member : anomaly ∈ (choose competitor seat situation).2) :
    anomaly.seat = seat := by
  rw [choose] at member
  split at member
  · cases member
  · rw [List.mem_singleton.mp member]

/-- Two decisions in one round are noted for one seat each. -/
theorem anomaliesOf_play (payoff : Payoff) (a b : Competitor) (movesA movesB : List Move)
    (number : UInt32) :
    (play payoff a b movesA movesB number).anomaliesOf .a =
        (choose a .a ⟨movesA, movesB, number, payoff⟩).2 ∧
      (play payoff a b movesA movesB number).anomaliesOf .b =
        (choose b .b ⟨movesB, movesA, number, payoff⟩).2 := by
  have seatedA : ∀ anomaly ∈ (choose a .a ⟨movesA, movesB, number, payoff⟩).2,
      anomaly.seat = .a := fun _ => seat_of_mem_choose
  have seatedB : ∀ anomaly ∈ (choose b .b ⟨movesB, movesA, number, payoff⟩).2,
      anomaly.seat = .b := fun _ => seat_of_mem_choose
  constructor
  · rw [anomaliesOf, play, List.filter_append, List.filter_eq_self.mpr, List.filter_eq_nil_iff.mpr,
      List.append_nil]
    · intro anomaly member
      simp [seatedB anomaly member]
    · intro anomaly member
      simp [seatedA anomaly member]
  · rw [anomaliesOf, play, List.filter_append, List.filter_eq_nil_iff.mpr, List.filter_eq_self.mpr,
      List.nil_append]
    · intro anomaly member
      simp [seatedB anomaly member]
    · intro anomaly member
      simp [seatedA anomaly member]

theorem play_mirror (payoff : Payoff) (a b : Competitor) (movesA movesB : List Move)
    (number : UInt32) :
    play payoff b a movesB movesA number = (play payoff a b movesA movesB number).mirror := by
  have decidedA := choose_other a .a ⟨movesA, movesB, number, payoff⟩
  have decidedB := choose_other b .b ⟨movesB, movesA, number, payoff⟩
  have noted := anomaliesOf_play payoff a b movesA movesB number
  rw [mirror, noted.1, noted.2, List.map_append, play]
  simp only [Seat.other] at decidedA decidedB
  rw [decidedA, decidedB]
  rfl

end Round

namespace Match

def mirror (game : Match) : Match := ⟨game.playerB, game.playerA, game.rounds.map Round.mirror⟩

theorem player_mirror (game : Match) (seat : Seat) :
    game.mirror.player seat = game.player seat.other := by
  cases seat <;> rfl

theorem moves_mirror (seat : Seat) (rounds : List Round) :
    moves seat (rounds.map Round.mirror) = moves seat.other rounds := by
  simp [moves]

theorem total_mirror (game : Match) (seat : Seat) :
    game.mirror.total seat = game.total seat.other := by
  simp [total, mirror, scores, Function.comp_def]

theorem roundCount_mirror (game : Match) : game.mirror.roundCount = game.roundCount :=
  List.length_map _

theorem cooperations_mirror (game : Match) (seat : Seat) :
    game.mirror.cooperations seat = game.cooperations seat.other :=
  congrArg (countMoves .cooperate) (moves_mirror seat game.rounds)

theorem anomaliesOf_eq_flatMap (game : Match) (seat : Seat) :
    game.anomaliesOf seat = game.rounds.flatMap (·.anomaliesOf seat) :=
  List.filter_flatMap ..

theorem anomaliesOf_mirror (game : Match) (seat : Seat) :
    game.mirror.anomaliesOf seat = (game.anomaliesOf seat.other).map Anomaly.mirror := by
  rw [anomaliesOf_eq_flatMap, anomaliesOf_eq_flatMap, List.map_flatMap]
  simp [mirror, List.flatMap_map, Round.anomaliesOf_mirror]

/-! ## Play -/

theorem playRounds_mirror (payoff : Payoff) (a b : Competitor) (count : Nat) :
    playRounds payoff b a count = (playRounds payoff a b count).map Round.mirror := by
  induction count with
  | zero => rfl
  | succ count induction =>
      rw [playRounds, playRounds, induction, moves_mirror, moves_mirror, List.map_append,
        List.map_singleton]
      exact congrArg (_ ++ [·]) (Round.play_mirror payoff a b _ _ (UInt32.ofNat count))

theorem play_mirror (payoff : Payoff) (a b : Competitor) (rounds : UInt32) :
    play payoff b a rounds = (play payoff a b rounds).mirror :=
  congrArg (Match.mk b.name a.name) (playRounds_mirror payoff a b rounds.toNat)

end Match

end Dilemma
