import Dilemma.Proofs.Play.Anomalies
import Dilemma.Proofs.Play.Margin

/-! # Gradual retaliation

A gradual player owes the other side a triangular number of defections: one for its first
defection, two more for the second, and so on. It defects as long as it has not paid them all.
A defection pays one and what is owed never becomes less, so it never pays too much. While the
other side keeps the peace, the rest of the debt is paid at a stretch, one defection a round,
and once nothing is left, the player cooperates. -/

namespace Dilemma

open Template (owed)

theorem Template.owed_mono {fewer more : Nat} (within : fewer ≤ more) : owed fewer ≤ owed more := by
  have products : fewer * (fewer + 1) ≤ more * (more + 1) :=
    Nat.mul_le_mul within (Nat.succ_le_succ within)
  simp only [owed]
  omega

/-- The moves of somebody who pays a debt first and is peaceful for the rest of a time. -/
def settling (debt time : Nat) : List Move :=
  List.replicate (min debt time) .defect ++ List.replicate (time - min debt time) .cooperate

theorem getElem?_settling (debt : Nat) {time passed : Nat} (within : passed < time) :
    (settling debt time)[passed]? = some (if passed < debt then .defect else .cooperate) := by
  rw [settling, List.getElem?_append, List.length_replicate]
  by_cases unpaid : passed < debt
  · rw [if_pos (by omega), List.getElem?_replicate, if_pos (by omega), if_pos unpaid]
  · rw [if_neg (by omega), List.getElem?_replicate, if_pos (by omega), if_neg unpaid]

namespace Match

/-- The defections that the seat still owes the other side. -/
def debt (game : Match) (seat : Seat) : Nat :=
  owed (game.defections seat.other) - game.defections seat

/-! ## Counting round by round -/

theorem defections_before_zero (game : Match) (seat : Seat) :
    (game.before 0).defections seat = 0 := by
  simp [before, defections, roundCount]

theorem defections_before_succ {game : Match} {number : Nat} {round : Round}
    (found : game.rounds[number]? = some round) (seat : Seat) :
    (game.before (number + 1)).defections seat =
      (game.before number).defections seat + countMoves .defect [round.move seat] := by
  rw [defections_eq, defections_eq, ← countMoves_append]
  simp [before, moves, List.take_add_one, found]

theorem defections_before_le (game : Match) (seat : Seat) (number : Nat) :
    (game.before number).defections seat ≤ game.rounds.length := by
  have counted : (game.before number).defections seat ≤ (game.before number).roundCount :=
    Nat.sub_le ..
  have shorter : (game.before number).roundCount ≤ game.rounds.length := by
    simp [before, roundCount]
  exact Nat.le_trans counted shorter

/-- What is owed is computed without leaving 64 bits. -/
theorem product_lt_size {payoff : Payoff} {a b : Competitor} (rounds : UInt32) (seat : Seat)
    (number : Nat) :
    let count := ((play payoff a b rounds).before number).defections seat
    count * (count + 1) < UInt64.size := by
  intro count
  have limit : count ≤ 4294967295 := by
    have counted := defections_before_le (play payoff a b rounds) seat number
    have length : (play payoff a b rounds).rounds.length = rounds.toNat :=
      roundCount_play payoff a b rounds
    have small := rounds.toNat_lt
    omega
  calc
    count * (count + 1) ≤ 4294967295 * (4294967295 + 1) :=
      Nat.mul_le_mul limit (Nat.succ_le_succ limit)
    _ < UInt64.size := by decide

/-- Without a defection from some round on, all the rounds from there are peaceful. -/
theorem cooperates_of_drop {game : Match} {seat : Seat} {start passed : Nat} {round : Round}
    (peaceful : ∀ move ∈ (moves seat game.rounds).drop start, move ≠ .defect)
    (found : game.rounds[start + passed]? = some round) : round.move seat = .cooperate := by
  have later : ((moves seat game.rounds).drop start)[passed]? = some (round.move seat) := by
    simp [moves, found]
  have spared := peaceful _ (List.mem_of_getElem? later)
  cases kind : round.move seat with
  | cooperate => rfl
  | defect => exact absurd kind spared

/-! ## Paying -/

variable {payoff : Payoff} {a b : Competitor} {rounds : UInt32} {seat : Seat} {seed : UInt64}
  (gradual : (seated a b seat).logic = .template .gradual seed)

include gradual

theorem move_gradual {number : Nat} {round : Round}
    (found : (play payoff a b rounds).rounds[number]? = some round) :
    round.move seat =
      if ((play payoff a b rounds).before number).defections seat <
          owed (((play payoff a b rounds).before number).defections seat.other) then .defect
      else .cooperate := by
  have within := (play_shown payoff a b found).1
  have informed := informed_shown payoff a b within seat
  have decided := (choose_shown payoff a b found seat).1
  rw [Round.choose, Competitor.decide_of_template gradual] at decided
  rw [decided, defections_eq, defections_eq, ← informed.ownMoves, ← informed.opponentMoves]
  rfl

theorem defections_le_owed {number : Nat} (within : number ≤ rounds.toNat) :
    ((play payoff a b rounds).before number).defections seat ≤
      owed (((play payoff a b rounds).before number).defections seat.other) := by
  induction number with
  | zero => simp [defections_before_zero]
  | succ number induction =>
      have paid := induction (Nat.le_of_succ_le within)
      rcases exists_round payoff a b within with ⟨round, found⟩
      have decided := move_gradual gradual found
      have more := Template.owed_mono (Nat.le.intro (defections_before_succ found seat.other).symm)
      rw [defections_before_succ found seat, decided]
      split <;> simp [countMoves] <;> omega

/-- A peaceful round of the other side takes one off the debt, if there is any. -/
theorem debt_before_succ {number : Nat} {round : Round}
    (found : (play payoff a b rounds).rounds[number]? = some round)
    (peaceful : round.move seat.other = .cooperate) :
    ((play payoff a b rounds).before (number + 1)).debt seat =
      ((play payoff a b rounds).before number).debt seat - 1 := by
  have decided := move_gradual gradual found
  rw [debt, debt, defections_before_succ found, defections_before_succ found, peaceful, decided]
  split <;> simp [countMoves] <;> omega

theorem debt_before_add {start passed : Nat}
    (peaceful : ∀ move ∈ (moves seat.other (play payoff a b rounds).rounds).drop start,
      move ≠ .defect)
    (within : start + passed ≤ rounds.toNat) :
    ((play payoff a b rounds).before (start + passed)).debt seat =
      ((play payoff a b rounds).before start).debt seat - passed := by
  induction passed with
  | zero => rfl
  | succ passed induction =>
      have earlier := induction (Nat.le_of_succ_le within)
      have reached : start + passed < rounds.toNat := within
      rcases exists_round payoff a b reached with ⟨round, found⟩
      rw [← Nat.add_assoc, debt_before_succ gradual found (cooperates_of_drop peaceful found),
        earlier, Nat.sub_sub]

/-- The whole debt is paid at a stretch, or as much of it as the match has rounds for. -/
theorem drop_moves_gradual {start : Nat}
    (peaceful : ∀ move ∈ (moves seat.other (play payoff a b rounds).rounds).drop start,
      move ≠ .defect) :
    (moves seat (play payoff a b rounds).rounds).drop start =
      settling (((play payoff a b rounds).before start).debt seat) (rounds.toNat - start) := by
  have count : (moves seat (play payoff a b rounds).rounds).length = rounds.toNat := by
    rw [moves, List.length_map]
    exact roundCount_play payoff a b rounds
  refine List.ext_getElem? fun passed => ?_
  by_cases within : passed < rounds.toNat - start
  · have reached : start + passed < rounds.toNat := by omega
    rcases exists_round payoff a b reached with ⟨round, found⟩
    have left := debt_before_add gradual peaceful (Nat.le_of_lt reached)
    have decided := move_gradual gradual found
    have owing : ((play payoff a b rounds).before (start + passed)).defections seat <
          owed (((play payoff a b rounds).before (start + passed)).defections seat.other) ↔
        passed < ((play payoff a b rounds).before start).debt seat := by
      rw [← Nat.sub_pos_iff_lt, ← debt, left, Nat.sub_pos_iff_lt]
    simp only [owing] at decided
    rw [getElem?_settling _ within, ← decided, List.getElem?_drop, moves, List.getElem?_map, found,
      Option.map_some]
  · rw [List.getElem?_eq_none, List.getElem?_eq_none]
    · simp [settling]
      omega
    · rw [List.length_drop, count]
      omega

omit gradual

/-- Whoever is gradual defects exactly where it still owes a defection, and never pays more than
it owes. If the other side keeps the peace from some round on, it pays the rest in the rounds
that follow and cooperates in all others. -/
theorem debt_is_paid (payoff : Payoff) (a b : Competitor) (rounds : UInt32) (seat : Seat)
    (seed : UInt64) (gradual : (seated a b seat).logic = .template .gradual seed) :
    let game := play payoff a b rounds
    let own (number : Nat) := (game.before number).defections seat
    let theirs (number : Nat) := (game.before number).defections seat.other
    (∀ number < rounds.toNat, ∃ round, game.rounds[number]? = some round ∧
      (round.move seat = .defect ↔ own number < theirs number * (theirs number + 1) / 2)) ∧
    (∀ number ≤ rounds.toNat, own number ≤ theirs number * (theirs number + 1) / 2 ∧
      theirs number * (theirs number + 1) < UInt64.size) ∧
    ∀ start, (∀ move ∈ (moves seat.other game.rounds).drop start, move ≠ .defect) →
      let repaid :=
        min (theirs start * (theirs start + 1) / 2 - own start) (rounds.toNat - start)
      (moves seat game.rounds).drop start =
        List.replicate repaid .defect ++
          List.replicate (rounds.toNat - start - repaid) .cooperate := by
  intro game own theirs
  refine ⟨fun number within => ?_, fun number within => ⟨?_, ?_⟩, fun start peaceful => ?_⟩
  · rcases exists_round payoff a b within with ⟨round, found⟩
    refine ⟨round, found, ?_⟩
    rw [move_gradual gradual found]
    split
    · rename_i unpaid
      exact iff_of_true rfl unpaid
    · rename_i paid
      exact iff_of_false (by decide) paid
  · exact defections_le_owed gradual within
  · exact product_lt_size rounds seat.other number
  · exact drop_moves_gradual gradual peaceful

/-- Somebody crashes twice and is peaceful from then on. One defection is paid by the second
crash, two are left. -/
theorem debt_is_paid_for_crashes :
    let patient := Competitor.ofTemplate "patient" .gradual
    let crash : Competitor := ⟨⟨"crash", "?"⟩, .fallback ⟨0, "crash", fun situation =>
      if situation.round.toNat < 2 then .crashes none else .plays .cooperate⟩, .fallback, none⟩
    let game := play .classic crash patient 6
    (∃ round, game.rounds[3]? = some round ∧
      (round.move .b = .defect ↔ (game.before 3).defections .b <
        (game.before 3).defections .a * ((game.before 3).defections .a + 1) / 2)) ∧
    (game.before 6).defections .b ≤
      (game.before 6).defections .a * ((game.before 6).defections .a + 1) / 2 ∧
    (moves .b game.rounds).drop 2 = [.defect, .defect, .cooperate, .cooperate] := by
  intro patient crash game
  rcases debt_is_paid .classic crash patient 6 .b 0 rfl with ⟨decided, bounded, settled⟩
  refine ⟨decided 3 (by decide), (bounded 6 (by decide)).1, ?_⟩
  exact (settled 2 (by decide +kernel)).trans (by decide +kernel)

end Match

end Dilemma
