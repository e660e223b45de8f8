import Dilemma.Proofs.Play.Mirror

/-! # Matches without names

A name stands at the head of a match and in the notes on failed decisions. It does
not influence anything else: with names aside, a match is made by the logics of its
two players. Players with one and the same logic therefore cannot get ahead of each
other, and nobody can play differently against them. -/

namespace Dilemma

def Anomaly.nameless (anomaly : Anomaly) : Anomaly := { anomaly with strategy := "" }

namespace Round

def nameless (round : Round) : Round :=
  { round with anomalies := round.anomalies.map Anomaly.nameless }

@[simp] theorem move_nameless (round : Round) (seat : Seat) :
    round.nameless.move seat = round.move seat := by
  cases seat <;> rfl

@[simp] theorem score_nameless (round : Round) (seat : Seat) :
    round.nameless.score seat = round.score seat := by
  cases seat <;> rfl

theorem anomaliesOf_nameless (round : Round) (seat : Seat) :
    round.nameless.anomaliesOf seat = (round.anomaliesOf seat).map Anomaly.nameless := by
  rw [anomaliesOf, nameless, List.filter_map]
  rfl

theorem choose_nameless {left right : Competitor} (same : left.logic = right.logic)
    (seat : Seat) (situation : Situation) :
    (choose left seat situation).1 = (choose right seat situation).1 ∧
      (choose left seat situation).2.map Anomaly.nameless =
        (choose right seat situation).2.map Anomaly.nameless := by
  rw [choose, choose, Competitor.decide, Competitor.decide, same]
  cases (right.logic.decide situation).toExcept with
  | ok move => exact ⟨rfl, rfl⟩
  | error error => exact ⟨rfl, rfl⟩

theorem play_nameless {a b a' b' : Competitor} (first : a.logic = a'.logic)
    (second : b.logic = b'.logic) (payoff : Payoff) (movesA movesB : List Move)
    (number : UInt32) :
    (play payoff a b movesA movesB number).nameless =
      (play payoff a' b' movesA movesB number).nameless := by
  have decidedA := choose_nameless first .a ⟨movesA, movesB, number, payoff⟩
  have decidedB := choose_nameless second .b ⟨movesB, movesA, number, payoff⟩
  simp only [play, nameless, List.map_append]
  rw [decidedA.1, decidedA.2, decidedB.1, decidedB.2]

end Round

namespace Match

@[simp] theorem moves_nameless (seat : Seat) (rounds : List Round) :
    moves seat (rounds.map Round.nameless) = moves seat rounds := by
  simp [moves]

@[simp] theorem scores_nameless (seat : Seat) (rounds : List Round) :
    scores seat (rounds.map Round.nameless) = scores seat rounds := by
  simp [scores]

theorem playRounds_nameless {a b a' b' : Competitor} (first : a.logic = a'.logic)
    (second : b.logic = b'.logic) (payoff : Payoff) (count : Nat) :
    (playRounds payoff a b count).map Round.nameless =
      (playRounds payoff a' b' count).map Round.nameless := by
  induction count with
  | zero => rfl
  | succ count induction =>
      -- Both sides have seen the same moves, since names do not show in moves.
      have movesA := congrArg (moves .a) induction
      have movesB := congrArg (moves .b) induction
      rw [moves_nameless, moves_nameless] at movesA movesB
      rw [playRounds, playRounds, List.map_append, List.map_append, induction, movesA, movesB,
        List.map_singleton, List.map_singleton]
      rw [Round.play_nameless first second]

/-! ## What a seat sees -/

/-- The rounds with this seat as the first. -/
def seenFrom (game : Match) : Seat → List Round
  | .a => game.rounds
  | .b => game.mirror.rounds

theorem moves_seenFrom (game : Match) (seat : Seat) :
    moves .a (game.seenFrom seat) = moves seat game.rounds ∧
      moves .b (game.seenFrom seat) = moves seat.other game.rounds := by
  cases seat with
  | a => exact ⟨rfl, rfl⟩
  | b => exact ⟨moves_mirror .a game.rounds, moves_mirror .b game.rounds⟩

theorem scores_mirror (seat : Seat) (rounds : List Round) :
    scores seat (rounds.map Round.mirror) = scores seat.other rounds := by
  simp [scores]

theorem scores_seenFrom (game : Match) (seat : Seat) :
    scores .a (game.seenFrom seat) = scores seat game.rounds ∧
      scores .b (game.seenFrom seat) = scores seat.other game.rounds := by
  cases seat with
  | a => exact ⟨rfl, rfl⟩
  | b => exact ⟨scores_mirror .a game.rounds, scores_mirror .b game.rounds⟩

/-- In two matches, from a seat in each, both sides make the same moves and scores. -/
structure Alike (first second : Match) (firstSeat secondSeat : Seat) : Prop where
  ownMoves : moves firstSeat first.rounds = moves secondSeat second.rounds
  otherMoves : moves firstSeat.other first.rounds = moves secondSeat.other second.rounds
  ownScores : scores firstSeat first.rounds = scores secondSeat second.rounds
  otherScores : scores firstSeat.other first.rounds = scores secondSeat.other second.rounds

theorem alike_of_nameless {first second : Match} {firstSeat secondSeat : Seat}
    (same : (first.seenFrom firstSeat).map Round.nameless =
      (second.seenFrom secondSeat).map Round.nameless) :
    Alike first second firstSeat secondSeat := by
  have movesSame (seat : Seat) := congrArg (moves seat) same
  have scoresSame (seat : Seat) := congrArg (scores seat) same
  simp only [moves_nameless, scores_nameless] at movesSame scoresSame
  constructor
  · rw [← (moves_seenFrom first firstSeat).1, movesSame, (moves_seenFrom second secondSeat).1]
  · rw [← (moves_seenFrom first firstSeat).2, movesSame, (moves_seenFrom second secondSeat).2]
  · rw [← (scores_seenFrom first firstSeat).1, scoresSame, (scores_seenFrom second secondSeat).1]
  · rw [← (scores_seenFrom first firstSeat).2, scoresSame, (scores_seenFrom second secondSeat).2]

/-! ## Counts -/

theorem length_anomaliesOf_congr {first second : Match}
    (same : first.rounds.map Round.nameless = second.rounds.map Round.nameless) (seat : Seat) :
    (first.anomaliesOf seat).length = (second.anomaliesOf seat).length := by
  have counted : ∀ game : Match, (game.anomaliesOf seat).length =
      ((game.rounds.map Round.nameless).flatMap (·.anomaliesOf seat)).length := by
    intro game
    rw [anomaliesOf_eq_flatMap, List.flatMap_map]
    simp only [Round.anomaliesOf_nameless, ← List.map_flatMap, List.length_map]
  rw [counted, counted, same]

/-! ## One logic on both sides -/

/-- Neither side of a match between equal logics gets ahead. -/
theorem play_even {a b : Competitor} (same : a.logic = b.logic) (payoff : Payoff)
    (rounds : UInt32) :
    let game := play payoff a b rounds
    (∀ round ∈ game.rounds, round.moveA = round.moveB) ∧ game.winner = none := by
  intro game
  have turned : game.rounds.map Round.nameless =
      (game.rounds.map Round.mirror).map Round.nameless := by
    have exchanged := playRounds_nameless same same.symm payoff rounds.toNat
    rw [playRounds_mirror payoff a b] at exchanged
    exact exchanged
  have movesSame := congrArg (moves .a) turned
  have scoresSame := congrArg (scores .a) turned
  rw [moves_nameless, moves_nameless, moves_mirror] at movesSame
  rw [scores_nameless, scores_nameless, scores_mirror] at scoresSame
  constructor
  · exact List.map_inj_left.mp movesSame
  · have totals : game.total .a = game.total .b := congrArg (List.foldr (· + ·) 0) scoresSame
    rw [winner, winningSeat, totals, if_neg (Int.lt_irrefl _), if_neg (Int.lt_irrefl _)]
    rfl

end Match

end Dilemma
