import Mathlib.Algebra.Order.Ring.Int
import Mathlib.Tactic.LinearCombination
import Dilemma.Proofs.Play.Accounts

/-! # Margins

A side that defects on a cooperator gains the difference between the temptation and the
sucker's payoff on it. In any other round both sides score the same. So the margin of a match
is settled by how often each side has defected, whatever made it defect. Who copies the last
move of the other side defects as often as that side, but for the ends of the match. -/

namespace Dilemma

/-- What a defection on a cooperator gains over it. -/
def Payoff.stake (payoff : Payoff) : Int := payoff.temptation.toInt - payoff.sucker.toInt

theorem Payoff.stake_pos (payoff : Payoff) : 0 < payoff.stake := by
  have reward := Int32.lt_iff_toInt_lt.mp payoff.reward_lt_temptation
  have punishment := Int32.lt_iff_toInt_lt.mp payoff.punishment_lt_reward
  have sucker := Int32.lt_iff_toInt_lt.mp payoff.sucker_lt_punishment
  rw [stake]
  omega

/-- The margin of one round. -/
theorem Payoff.score_sub_score (payoff : Payoff) (own other : Move) :
    (payoff.score other own).toInt - (payoff.score own other).toInt =
      payoff.stake * ((countMoves .defect [other] : Int) - countMoves .defect [own]) := by
  cases own <;> cases other <;> simp [score, stake, countMoves]

theorem countMoves_append (move : Move) (earlier later : List Move) :
    countMoves move (earlier ++ later) = countMoves move earlier + countMoves move later :=
  List.count_append

theorem countMoves_cooperate_add_defect (moves : List Move) :
    countMoves .cooperate moves + countMoves .defect moves = moves.length := by
  induction moves with
  | nil => rfl
  | cons move rest induction =>
      rw [← List.singleton_append, countMoves_append, countMoves_append, List.length_append,
        ← induction]
      cases move <;> simp [countMoves] <;> omega

namespace Match

/-! ## The margin of a match -/

theorem defections_eq (game : Match) (seat : Seat) :
    game.defections seat = countMoves .defect (moves seat game.rounds) := by
  have counted := countMoves_cooperate_add_defect (moves seat game.rounds)
  rw [moves, List.length_map, ← moves] at counted
  rw [defections, roundCount, cooperations]
  omega

theorem margin_of_scored {payoff : Payoff} {rounds : List Round} (seat : Seat)
    (scored : ∀ round ∈ rounds, round.scoreA = payoff.score round.moveA round.moveB ∧
      round.scoreB = payoff.score round.moveB round.moveA) :
    (scores seat.other rounds).foldr (· + ·) 0 - (scores seat rounds).foldr (· + ·) 0 =
      payoff.stake * ((countMoves .defect (moves seat.other rounds) : Int) -
        countMoves .defect (moves seat rounds)) := by
  induction rounds with
  | nil => simp [scores, moves, countMoves]
  | cons round rest induction =>
      have later := induction fun other member => scored other (List.mem_cons_of_mem round member)
      have first := scored round (List.mem_cons_self ..)
      have margin := payoff.score_sub_score (round.move seat) (round.move seat.other)
      have own := score_of_scored first seat
      have other := score_of_scored first seat.other
      rw [Seat.other_other] at other
      rw [← own, ← other] at margin
      have split (seat : Seat) : countMoves .defect (moves seat (round :: rest)) =
          countMoves .defect [round.move seat] + countMoves .defect (moves seat rest) :=
        countMoves_append .defect [round.move seat] (moves seat rest)
      have sum (seat : Seat) : (scores seat (round :: rest)).foldr (· + ·) 0 =
          (round.score seat).toInt + (scores seat rest).foldr (· + ·) 0 := rfl
      rw [split, split, sum, sum]
      push_cast
      linear_combination margin + later

variable {payoff : Payoff} {game : Match}
  (scored : ∀ round ∈ game.rounds, round.scoreA = payoff.score round.moveA round.moveB ∧
    round.scoreB = payoff.score round.moveB round.moveA)

include scored

theorem total_sub_total (seat : Seat) :
    game.total seat.other - game.total seat =
      payoff.stake * ((game.defections seat.other : Int) - game.defections seat) := by
  rw [defections_eq, defections_eq]
  exact margin_of_scored seat scored

/-- More points mean more defections, since the stake is positive. -/
theorem total_lt_iff (seat : Seat) :
    game.total seat < game.total seat.other ↔
      game.defections seat < game.defections seat.other := by
  have positive : 0 < payoff.stake * ((game.defections seat.other : Int) - game.defections seat) ↔
      0 < (game.defections seat.other : Int) - game.defections seat :=
    mul_pos_iff_of_pos_left payoff.stake_pos
  rw [← total_sub_total scored] at positive
  omega

theorem winningSeat_eq :
    game.winningSeat =
      if game.defections .b < game.defections .a then some .a
      else if game.defections .a < game.defections .b then some .b
      else none := by
  have ahead : game.total .b < game.total .a ↔ game.defections .b < game.defections .a :=
    total_lt_iff scored .b
  have behind : game.total .a < game.total .b ↔ game.defections .a < game.defections .b :=
    total_lt_iff scored .a
  simp only [winningSeat, ahead, behind]

theorem winningSeat_eq_some_iff (seat : Seat) :
    game.winningSeat = some seat ↔ game.defections seat.other < game.defections seat := by
  rw [winningSeat_eq scored]
  by_cases more : game.defections .b < game.defections .a
  · cases seat with
    | a => simp [more, Seat.other]
    | b => simp [more, Seat.other, Nat.le_of_lt more]
  · cases seat with
    | a => simp [more, Seat.other]
    | b => simp [more, Seat.other]

theorem winner_eq_none_iff : game.winner = none ↔ game.defections .a = game.defections .b := by
  have first := winningSeat_eq_some_iff scored .a
  have second := winningSeat_eq_some_iff scored .b
  simp only [Seat.other] at first second
  rw [winner, Option.map_eq_none_iff, Option.eq_none_iff_forall_ne_some]
  constructor
  · intro neither
    have notFirst := mt first.mpr (neither .a)
    have notSecond := mt second.mpr (neither .b)
    omega
  · intro equal seat
    cases seat with
    | a => exact fun won => absurd (first.mp won) (by omega)
    | b => exact fun won => absurd (second.mp won) (by omega)

omit scored

end Match

/-! ## Copying the other side -/

/-- Whatever happens, it plays the last move of the opponent, and this move if there is none. -/
def Competitor.Copies (opening : Move) (competitor : Competitor) : Prop :=
  ∀ situation, competitor.decide situation =
    .plays ((situation.lastMove .opponent).getD opening)

theorem Competitor.copies_titForTat {competitor : Competitor} {seed : UInt64}
    (logic : competitor.logic = .template .titForTat seed) : competitor.Copies .cooperate := by
  intro situation
  exact decide_of_template logic situation

theorem Competitor.copies_suspicious {competitor : Competitor} {seed : UInt64}
    (logic : competitor.logic = .template .suspiciousTitForTat seed) :
    competitor.Copies .defect := by
  intro situation
  exact decide_of_template logic situation

/-- What a copy of these moves plays next. -/
def due (opening : Move) (others : List Move) : Move := others.getLast?.getD opening

theorem countMoves_due_cooperate (others : List Move) :
    countMoves .defect [due .cooperate others] =
      if others.getLast? = some .defect then 1 else 0 := by
  rw [due]
  rcases others.getLast? with _ | _ | _ <;> rfl

theorem countMoves_due_defect (others : List Move) :
    countMoves .defect [due .defect others] =
      if others.getLast? = some .cooperate then 0 else 1 := by
  rw [due]
  rcases others.getLast? with _ | _ | _ <;> rfl

namespace Match

variable {payoff : Payoff} {a b : Competitor} {seat : Seat} {opening : Move} {game : Match}

/-- Together with what is due next, the moves of the seat are those of the other side one
round later. -/
def Copied (opening : Move) (seat : Seat) (game : Match) : Prop :=
  moves seat game.rounds ++ [due opening (moves seat.other game.rounds)] =
    opening :: moves seat.other game.rounds

theorem move_of_copies (copies : (seated a b seat).Copies opening) (rounds : List Round)
    (number : UInt32) :
    (Round.play payoff a b (moves .a rounds) (moves .b rounds) number).move seat =
      due opening (moves seat.other rounds) := by
  have chosen (situation : Situation) : (Round.choose (seated a b seat) seat situation).1 =
      due opening situation.opponent := by
    rw [Round.choose, copies situation]
    rfl
  cases seat with
  | a => exact chosen ⟨moves .a rounds, moves .b rounds, number, payoff⟩
  | b => exact chosen ⟨moves .b rounds, moves .a rounds, number, payoff⟩

/-- One more round keeps the copies one round behind. -/
theorem Copied.append {rounds : List Round} {playerA playerB : String} {last : Round}
    (copied : Copied opening seat ⟨playerA, playerB, rounds⟩)
    (move : last.move seat = due opening (moves seat.other rounds)) :
    Copied opening seat ⟨playerA, playerB, rounds ++ [last]⟩ := by
  have grown (seat : Seat) :
      moves seat (rounds ++ [last]) = moves seat rounds ++ [last.move seat] :=
    moves_append seat rounds [last]
  rw [Copied] at copied ⊢
  rw [grown, grown, move, copied, due, List.getLast?_concat]
  rfl

theorem copied_play (copies : (seated a b seat).Copies opening) (payoff : Payoff)
    (rounds : UInt32) : (play payoff a b rounds).Copied opening seat := by
  rw [play]
  generalize rounds.toNat = count
  induction count with
  | zero => rfl
  | succ count induction => exact induction.append (move_of_copies copies _ _)

/-- Only the opening and the copy that was never played make a difference. -/
theorem Copied.defections (copied : game.Copied opening seat) :
    game.defections seat + countMoves .defect [due opening (moves seat.other game.rounds)] =
      countMoves .defect [opening] + game.defections seat.other := by
  rw [defections_eq, defections_eq, ← countMoves_append, ← countMoves_append]
  exact congrArg (countMoves .defect) copied

/-- A friendly copy has forgiven at most the last defection. -/
theorem Copied.behind (copied : game.Copied .cooperate seat) :
    game.defections seat.other =
      game.defections seat +
        if (moves seat.other game.rounds).getLast? = some .defect then 1 else 0 := by
  have counted := copied.defections
  have friendly : countMoves .defect [.cooperate] = 0 := rfl
  rw [countMoves_due_cooperate, friendly] at counted
  omega

/-- An unfriendly copy has taken revenge for everything but the last defection. -/
theorem Copied.ahead (copied : game.Copied .defect seat) :
    game.defections seat =
      game.defections seat.other +
        if (moves seat.other game.rounds).getLast? = some .cooperate then 1 else 0 := by
  have counted := copied.defections
  have unfriendly : countMoves .defect [.defect] = 1 := rfl
  rw [countMoves_due_defect, unfriendly] at counted
  by_cases spared : (moves seat.other game.rounds).getLast? = some .cooperate
  · rw [if_pos spared] at counted ⊢
    omega
  · rw [if_neg spared] at counted ⊢
    omega

/-- What the last defection of the other side costs a friendly copy. -/
theorem Copied.margin_behind (copied : game.Copied .cooperate seat) {rounds : UInt32}
    (complete : game.Complete payoff rounds) :
    game.total seat.other - game.total seat =
      if (moves seat.other game.rounds).getLast? = some .defect then payoff.stake else 0 := by
  rw [total_sub_total complete.scored, copied.behind]
  split <;> simp

/-- What the opening gains an unfriendly copy if the other side has cooperated last. -/
theorem Copied.margin_ahead (copied : game.Copied .defect seat) {rounds : UInt32}
    (complete : game.Complete payoff rounds) :
    game.total seat - game.total seat.other =
      if (moves seat.other game.rounds).getLast? = some .cooperate then payoff.stake else 0 := by
  have margin := total_sub_total complete.scored seat.other
  rw [Seat.other_other] at margin
  rw [margin, copied.ahead]
  split <;> simp

/-- There is a last move only where there is a round. -/
theorem exists_last_iff {rounds : UInt32} {last : Move} :
    (0 < rounds ∧ (moves seat (play payoff a b rounds).rounds).getLast? = some last) ↔
      (moves seat (play payoff a b rounds).rounds).getLast? = some last := by
  refine ⟨And.right, fun found => ⟨?_, found⟩⟩
  have played := List.length_pos_of_mem (List.mem_of_getLast? found)
  rw [moves, List.length_map] at played
  rw [UInt32.lt_iff_toNat_lt, ← roundCount_play payoff a b rounds, roundCount]
  exact played

/-- Whoever defects more often wins, by the stake for each defection more. So a friendly copy
of the other side is behind at the end if the other side defected last, and never wins, and an
unfriendly one is ahead if the other side cooperated last, and never loses. -/
theorem decided_by_defections (payoff : Payoff) (a b : Competitor) (rounds : UInt32) :
    let game := play payoff a b rounds
    let last (seat : Seat) := (moves seat game.rounds).getLast?
    game.total .b - game.total .a =
      (payoff.temptation.toInt - payoff.sucker.toInt) *
        ((game.defections .b : Int) - game.defections .a) ∧
    game.winner = (if game.defections .b < game.defections .a then some a.name
      else if game.defections .a < game.defections .b then some b.name
      else none) ∧
    (game.winner = none ↔ game.defections .a = game.defections .b) ∧
    ∀ seat,
      (game.winningSeat = some seat ↔ game.defections seat.other < game.defections seat) ∧
      (∀ seed, (seated a b seat).logic = .template .titForTat seed →
        game.total seat.other - game.total seat =
          (if 0 < rounds ∧ last seat.other = some .defect then
            payoff.temptation.toInt - payoff.sucker.toInt
          else 0) ∧
        game.winningSeat ≠ some seat) ∧
      ∀ seed, (seated a b seat).logic = .template .suspiciousTitForTat seed →
        game.total seat - game.total seat.other =
          (if 0 < rounds ∧ last seat.other = some .cooperate then
            payoff.temptation.toInt - payoff.sucker.toInt
          else 0) ∧
        game.winningSeat ≠ some seat.other := by
  intro game last
  have complete : game.Complete payoff rounds := complete_play payoff a b rounds
  have scored := complete.scored
  have played (seat : Seat) (move : Move) :
      (0 < rounds ∧ last seat = some move) ↔ last seat = some move := exists_last_iff
  refine ⟨total_sub_total scored .a, ?_, winner_eq_none_iff scored, fun seat =>
    ⟨winningSeat_eq_some_iff scored seat, fun seed logic => ?_, fun seed logic => ?_⟩⟩
  · rw [winner, winningSeat_eq scored]
    split
    · rfl
    · split <;> rfl
  · have copied : game.Copied .cooperate seat :=
      copied_play (Competitor.copies_titForTat logic) payoff rounds
    have behind := copied.behind
    simp only [played]
    refine ⟨copied.margin_behind complete, ?_⟩
    rw [Ne, winningSeat_eq_some_iff scored]
    omega
  · have copied : game.Copied .defect seat :=
      copied_play (Competitor.copies_suspicious logic) payoff rounds
    have ahead := copied.ahead
    simp only [played]
    refine ⟨copied.margin_ahead complete, ?_⟩
    rw [Ne, winningSeat_eq_some_iff scored, Seat.other_other]
    omega

/-- Somebody who crashes in every round has defected in every round, and a friendly copy has
noticed it one round late. -/
theorem decided_by_defections_crash :
    let friendly := Competitor.ofTemplate "friendly" .titForTat
    let crash : Competitor :=
      ⟨⟨"crash", "?"⟩, .fallback ⟨0, "crash", fun _ => .crashes none⟩, .fallback, some "lost"⟩
    let game := play .classic friendly crash 3
    game.total .b - game.total .a = 5 ∧ game.winner = some "crash" ∧
      game.winningSeat ≠ some .a := by
  intro friendly crash game
  rcases decided_by_defections .classic friendly crash 3 with ⟨_, winner, _, seats⟩
  rcases (seats .a).2.1 0 rfl with ⟨behind, loses⟩
  refine ⟨behind.trans ?_, winner.trans ?_, loses⟩
  · decide +kernel
  · decide +kernel

end Match

end Dilemma
