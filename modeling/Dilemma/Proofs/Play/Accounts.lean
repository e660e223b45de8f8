import Dilemma.Proofs.Play.Course

/-! # Accounts of a match

A score is counted twice: by the table, from the moves that a player is shown, and in the
record, where each round has its two scores. The table gives both sides of a round what it
recorded, so both accounts are the same before every round and at the end. -/

namespace Dilemma

/-! ## Sums of the table -/

namespace Payoff

/-- The scores that the table adds up. -/
def roundScores (payoff : Payoff) (own other : List Move) : List Int :=
  List.zipWith (fun mine theirs => (payoff.score mine theirs).toInt) own other

theorem totalScore_eq (payoff : Payoff) (own other : List Move) :
    payoff.totalScore own other = (payoff.roundScores own other).foldr (· + ·) 0 := by
  induction own generalizing other with
  | nil => rfl
  | cons mine owns induction =>
      cases other with
      | nil => rfl
      | cons theirs others =>
          exact congrArg ((payoff.score mine theirs).toInt + ·) (induction others)

end Payoff

namespace Match

/-! ## Running totals -/

theorem length_runningTotals (total : Int) (scores : List Int) :
    (runningTotals total scores).length = scores.length := by
  induction scores generalizing total with
  | nil => rfl
  | cons score rest induction => exact congrArg (· + 1) (induction (total + score))

/-- After so many scores, the total is the first one and the scores so far. -/
theorem getElem?_runningTotals (total : Int) (scores : List Int) {number : Nat}
    (within : number ≤ scores.length) :
    (total :: runningTotals total scores)[number]? =
      some (total + (scores.take number).foldr (· + ·) 0) := by
  induction scores generalizing total number with
  | nil =>
      rw [Nat.le_zero.mp within]
      exact congrArg some (Int.add_zero total).symm
  | cons score rest induction =>
      cases number with
      | zero => exact congrArg some (Int.add_zero total).symm
      | succ number =>
          have later := induction (total + score) (Nat.le_of_succ_le_succ within)
          rw [Int.add_assoc] at later
          exact later

theorem scores_before (game : Match) (seat : Seat) (number : Nat) :
    scores seat (game.before number).rounds = (scores seat game.rounds).take number :=
  List.map_take

theorem getElem?_cumulative (game : Match) (seat : Seat) {number : Nat}
    (within : number ≤ game.rounds.length) :
    (0 :: game.cumulative seat)[number]? = some ((game.before number).total seat) := by
  have lengths : number ≤ (scores seat game.rounds).length := by
    rw [scores, List.length_map]
    exact within
  rw [cumulative, getElem?_runningTotals 0 _ lengths, Int.zero_add, total, scores_before]

theorem length_cumulative (game : Match) (seat : Seat) :
    (game.cumulative seat).length = game.rounds.length := by
  rw [cumulative, length_runningTotals, scores, List.length_map]

theorem getLast?_cumulative (game : Match) (seat : Seat) (played : 0 < game.rounds.length) :
    (game.cumulative seat).getLast? = some (game.total seat) := by
  have whole : game.before game.rounds.length = game := by
    rw [before, List.take_length]
  have last := getElem?_cumulative game seat (Nat.le_refl game.rounds.length)
  rw [whole] at last
  rw [List.getLast?_eq_getElem?, length_cumulative, ← last]
  obtain ⟨fewer, lengths⟩ := Nat.exists_eq_add_of_le' played
  rw [lengths]
  rfl

/-! ## Two accounts -/

/-- The table decides both scores of a round. -/
theorem score_of_scored {payoff : Payoff} {round : Round}
    (scored : round.scoreA = payoff.score round.moveA round.moveB ∧
      round.scoreB = payoff.score round.moveB round.moveA) (seat : Seat) :
    round.score seat = payoff.score (round.move seat) (round.move seat.other) := by
  cases seat with
  | a => exact scored.1
  | b => exact scored.2

/-- The table and the record add the same scores. -/
theorem roundScores_moves {payoff : Payoff} {rounds : List Round} (seat : Seat)
    (scored : ∀ round ∈ rounds, round.scoreA = payoff.score round.moveA round.moveB ∧
      round.scoreB = payoff.score round.moveB round.moveA) :
    payoff.roundScores (moves seat rounds) (moves seat.other rounds) = scores seat rounds := by
  rw [Payoff.roundScores, moves, moves, List.zipWith_map, List.zipWith_self, scores]
  refine List.map_congr_left fun round member => ?_
  rw [score_of_scored (scored round member) seat]

theorem totalScore_moves {payoff : Payoff} {rounds : List Round} (seat : Seat)
    (scored : ∀ round ∈ rounds, round.scoreA = payoff.score round.moveA round.moveB ∧
      round.scoreB = payoff.score round.moveB round.moveA) :
    payoff.totalScore (moves seat rounds) (moves seat.other rounds) =
      (scores seat rounds).foldr (· + ·) 0 := by
  rw [Payoff.totalScore_eq, roundScores_moves seat scored]

/-! ## What a seat is shown -/

/-- What the player in a seat is shown before the round with this number. -/
def shown (payoff : Payoff) (a b : Competitor) (seat : Seat) (number : Nat) : Situation :=
  (Course.run payoff a b number).situation payoff (UInt32.ofNat number) seat

theorem shown_eq (payoff : Payoff) (a b : Competitor) (seat : Seat) (number : Nat) :
    shown payoff a b seat number =
      ⟨moves seat (playRounds payoff a b number), moves seat.other (playRounds payoff a b number),
        UInt32.ofNat number, payoff⟩ := by
  have recorded := Course.recorded_run payoff a b number
  rw [← Course.record_run]
  cases seat with
  | a => rw [shown, Course.situation, recorded.movesA, recorded.movesB, Seat.other]
  | b => rw [shown, Course.situation, recorded.movesA, recorded.movesB, Seat.other]

/-- The round was played on what the two seats were shown. -/
theorem play_shown (payoff : Payoff) (a b : Competitor) {rounds : UInt32} {number : Nat}
    {round : Round} (found : (play payoff a b rounds).rounds[number]? = some round) :
    number < rounds.toNat ∧
      round = Round.play payoff a b (shown payoff a b .a number).own
        (shown payoff a b .b number).own (UInt32.ofNat number) := by
  have within := lt_of_found found
  rw [play, getElem?_playRounds payoff a b within, Option.some.injEq] at found
  rw [shown_eq, shown_eq]
  exact ⟨within, found.symm⟩

/-- Each seat decided for itself, and its failure is noted under the seat. -/
theorem choose_shown (payoff : Payoff) (a b : Competitor) {rounds : UInt32} {number : Nat}
    {round : Round} (found : (play payoff a b rounds).rounds[number]? = some round)
    (seat : Seat) :
    round.move seat =
        (Round.choose (seated a b seat) seat (shown payoff a b seat number)).1 ∧
      round.anomaliesOf seat =
        (Round.choose (seated a b seat) seat (shown payoff a b seat number)).2 := by
  have noted := Round.anomaliesOf_play payoff a b (shown payoff a b .a number).own
    (shown payoff a b .b number).own (UInt32.ofNat number)
  rw [(play_shown payoff a b found).2]
  cases seat with
  | a => exact ⟨rfl, noted.1⟩
  | b => exact ⟨rfl, noted.2⟩

/-- What is shown is what the record says about the rounds before, from this seat. -/
structure Informed (payoff : Payoff) (game : Match) (seat : Seat) (number : Nat)
    (seen : Situation) : Prop where
  round : seen.round.toNat = number
  table : seen.payoff = payoff
  ownMoves : seen.own = moves seat (game.before number).rounds
  opponentMoves : seen.opponent = moves seat.other (game.before number).rounds
  ownLength : seen.own.length = number
  opponentLength : seen.opponent.length = number
  ownTotal : seen.total .own = (game.before number).total seat
  opponentTotal : seen.total .opponent = (game.before number).total seat.other
  /-- The totals stand in the running totals, which begin with zero. -/
  ownRunning : (0 :: game.cumulative seat)[number]? = some (seen.total .own)
  opponentRunning : (0 :: game.cumulative seat.other)[number]? = some (seen.total .opponent)
  ownCooperations : countMoves .cooperate seen.own = (game.before number).cooperations seat
  opponentCooperations :
    countMoves .cooperate seen.opponent = (game.before number).cooperations seat.other

theorem informed_shown (payoff : Payoff) (a b : Competitor) {rounds : UInt32} {number : Nat}
    (within : number < rounds.toNat) (seat : Seat) :
    (play payoff a b rounds).Informed payoff seat number (shown payoff a b seat number) := by
  have early : ((play payoff a b rounds).before number).rounds = playRounds payoff a b number :=
    congrArg Match.rounds (before_play payoff a b (Nat.le_of_lt within))
  have known := shown_eq payoff a b seat number
  rw [← early] at known
  have scored : ∀ round ∈ ((play payoff a b rounds).before number).rounds,
      round.scoreA = payoff.score round.moveA round.moveB ∧
        round.scoreB = payoff.score round.moveB round.moveA :=
    fun round member => (complete_play payoff a b rounds).scored round (List.mem_of_mem_take member)
  have ownTotal : (shown payoff a b seat number).total .own =
      ((play payoff a b rounds).before number).total seat := by
    rw [known]
    exact totalScore_moves seat scored
  have opponentTotal : (shown payoff a b seat number).total .opponent =
      ((play payoff a b rounds).before number).total seat.other := by
    have exchanged := totalScore_moves seat.other scored
    rw [Seat.other_other] at exchanged
    rw [known]
    exact exchanged
  have reached : number ≤ (play payoff a b rounds).rounds.length :=
    Nat.le_of_lt (Nat.lt_of_lt_of_eq within (roundCount_play payoff a b rounds).symm)
  have length (seat : Seat) :
      (moves seat ((play payoff a b rounds).before number).rounds).length = number := by
    rw [early, moves, List.length_map, length_playRounds]
  constructor
  case round =>
    rw [known]
    exact UInt32.toNat_ofNat_of_lt' (Nat.lt_trans within rounds.toNat_lt)
  case table => rw [known]
  case ownMoves => rw [known]
  case opponentMoves => rw [known]
  case ownLength => rw [known, length]
  case opponentLength => rw [known, length]
  case ownTotal => exact ownTotal
  case opponentTotal => exact opponentTotal
  case ownRunning => rw [ownTotal, getElem?_cumulative _ seat reached]
  case opponentRunning => rw [opponentTotal, getElem?_cumulative _ seat.other reached]
  case ownCooperations => rw [known, cooperations]
  case opponentCooperations => rw [known, cooperations]

/-! ## Both accounts at the end -/

theorem total_play (payoff : Payoff) (a b : Competitor) (rounds : UInt32) (seat : Seat) :
    let game := play payoff a b rounds
    game.total seat =
      payoff.totalScore (moves seat game.rounds) (moves seat.other game.rounds) :=
  (totalScore_moves seat (complete_play payoff a b rounds).scored).symm

/-- Every player decides on the totals, moves and counts that the record shows for the rounds
before, and the record ends with the totals that the table gives for all moves. -/
theorem shown_as_recorded (payoff : Payoff) (a b : Competitor) (rounds : UInt32) (seat : Seat) :
    let game := play payoff a b rounds
    (∀ number < rounds.toNat,
      (∃ round, game.rounds[number]? = some round ∧ round.move seat =
        (Round.choose (seated a b seat) seat (shown payoff a b seat number)).1) ∧
      game.Informed payoff seat number (shown payoff a b seat number)) ∧
    (game.cumulative seat).length = rounds.toNat ∧
    (0 < rounds → (game.cumulative seat).getLast? = some (game.total seat)) ∧
    game.total seat =
      payoff.totalScore (moves seat game.rounds) (moves seat.other game.rounds) := by
  intro game
  have count : game.rounds.length = rounds.toNat := roundCount_play payoff a b rounds
  refine ⟨fun number within => ⟨?_, informed_shown payoff a b within seat⟩, ?_, ?_,
    total_play payoff a b rounds seat⟩
  · have found := List.getElem?_eq_getElem (Nat.lt_of_lt_of_eq within count.symm)
    exact ⟨_, found, (choose_shown payoff a b found seat).1⟩
  · rw [length_cumulative, count]
  · intro positive
    refine getLast?_cumulative game seat ?_
    rw [count]
    exact UInt32.lt_iff_toNat_lt.mp positive

/-- In the last of three rounds, the second seat knows that it is five points ahead. -/
theorem shown_as_recorded_ahead :
    let left := Competitor.ofTemplate "left" .titForTat
    let right := Competitor.ofTemplate "right" .alwaysDefect
    let game := play .classic left right 3
    game.Informed .classic .b 2 (shown .classic left right .b 2) ∧
      (shown .classic left right .b 2).total .own = 6 ∧
      (shown .classic left right .b 2).total .opponent = 1 ∧
      (game.cumulative .b).getLast? = some (game.total .b) ∧ game.cumulative .b = [5, 6, 7] := by
  intro left right game
  have recorded := shown_as_recorded .classic left right 3 .b
  exact ⟨(recorded.1 2 (by decide)).2, by decide +kernel, by decide +kernel,
    recorded.2.2.1 (by decide), by decide +kernel⟩

end Match

end Dilemma
