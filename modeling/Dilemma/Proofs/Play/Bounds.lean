import Mathlib.Algebra.Ring.Int.Defs
import Mathlib.Algebra.Ring.Nat
import Dilemma.Proofs.Play.Accounts

/-! # Bounds on scores

No round scores less than the sucker's payoff or more than the temptation. What some rounds
add up to lies between as many of the one and as many of the other, so that scores of 32 bits
over a number of rounds of 32 bits are added in 64 bits, whatever they are. -/

namespace Dilemma

/-- A word of 64 bits can hold the integer. -/
def FitsWord (value : Int) : Prop :=
  Int64.minValue.toInt ≤ value ∧ value ≤ Int64.maxValue.toInt

/-! ## What a table allows -/

namespace Payoff

/-- So many rounds can add up to this total. -/
def Allows (payoff : Payoff) (rounds : Nat) (total : Int) : Prop :=
  rounds * payoff.sucker.toInt ≤ total ∧ total ≤ rounds * payoff.temptation.toInt

variable {payoff : Payoff} {rounds : Nat} {total : Int}

theorem allows_zero (payoff : Payoff) : payoff.Allows 0 0 :=
  ⟨Int.le_of_eq (Int.zero_mul _), Int.le_of_eq (Int.zero_mul _).symm⟩

theorem Allows.add {more : Nat} {further : Int} (first : payoff.Allows rounds total)
    (second : payoff.Allows more further) : payoff.Allows (rounds + more) (total + further) := by
  rw [Allows, Int.natCast_add, Int.add_mul, Int.add_mul]
  exact ⟨Int.add_le_add first.1 second.1, Int.add_le_add first.2 second.2⟩

/-- The order of the four values decides between which of them a score lies. -/
theorem score_within (payoff : Payoff) (own other : Move) :
    payoff.sucker.toInt ≤ (payoff.score own other).toInt ∧
      (payoff.score own other).toInt ≤ payoff.temptation.toInt := by
  have high := Int32.lt_iff_toInt_lt.mp payoff.reward_lt_temptation
  have middle := Int32.lt_iff_toInt_lt.mp payoff.punishment_lt_reward
  have low := Int32.lt_iff_toInt_lt.mp payoff.sucker_lt_punishment
  cases own <;> cases other <;> simp only [score] <;> omega

theorem allows_score (payoff : Payoff) (own other : Move) :
    payoff.Allows 1 (payoff.score own other).toInt := by
  rw [Allows, Int.natCast_one, Int.one_mul, Int.one_mul]
  exact payoff.score_within own other

/-- So many rounds with the least score there is add up to the least value of a word. -/
theorem Allows.fits (allowed : payoff.Allows rounds total) (few : rounds ≤ 2 ^ 32) :
    FitsWord total := by
  have least : Int64.minValue.toInt = -2 ^ 63 := by decide
  have greatest : Int64.maxValue.toInt = 2 ^ 63 - 1 := by decide
  have lower : (rounds : Int) * -2 ^ 31 ≤ rounds * payoff.sucker.toInt :=
    Int.mul_le_mul_of_nonneg_left payoff.sucker.le_toInt (Int.natCast_nonneg rounds)
  have upper : (rounds : Int) * payoff.temptation.toInt ≤ rounds * (2 ^ 31 - 1) :=
    Int.mul_le_mul_of_nonneg_left (Int.le_sub_one_of_lt payoff.temptation.toInt_lt)
      (Int.natCast_nonneg rounds)
  have bounds := allowed
  rw [Allows] at bounds
  rw [FitsWord, least, greatest]
  omega

end Payoff

/-! ## Sums from left to right -/

/-- What a summation holds before its first value and after each of them. -/
def partialSums (values : List Int) : List Int := 0 :: Match.runningTotals 0 values

theorem getLast?_partialSums (values : List Int) :
    (partialSums values).getLast? = some (values.foldr (· + ·) 0) := by
  have last := Match.getElem?_runningTotals 0 values (Nat.le_refl values.length)
  rw [List.take_length, Int.zero_add] at last
  rw [List.getLast?_eq_getElem?, partialSums, List.length_cons, Match.length_runningTotals]
  exact last

theorem le_of_partialSum {values : List Int} {number : Nat} {sum : Int}
    (found : (partialSums values)[number]? = some sum) : number ≤ values.length := by
  rcases List.getElem?_eq_some_iff.mp found with ⟨within, -⟩
  rw [partialSums, List.length_cons, Match.length_runningTotals] at within
  exact Nat.le_of_lt_succ within

namespace Payoff

variable {payoff : Payoff}

/-- One more value, and one more round is allowed. -/
theorem Allows.runningTotals {rounds : Nat} {total : Int} (allowed : payoff.Allows rounds total)
    {values : List Int} (each : ∀ value ∈ values, payoff.Allows 1 value) {number : Nat}
    {sum : Int} (found : (total :: Match.runningTotals total values)[number]? = some sum) :
    payoff.Allows (rounds + number) sum := by
  induction values generalizing rounds total number with
  | nil =>
      cases number with
      | zero => exact Option.some.inj found ▸ allowed
      | succ number => exact nomatch found
  | cons value rest induction =>
      cases number with
      | zero => exact Option.some.inj found ▸ allowed
      | succ number =>
          have next := allowed.add (each value (List.mem_cons_self ..))
          have later := induction next
            (fun other member => each other (List.mem_cons_of_mem value member)) found
          rw [Nat.add_assoc, Nat.add_comm 1] at later
          exact later

theorem allows_partialSums {values : List Int} (each : ∀ value ∈ values, payoff.Allows 1 value)
    {number : Nat} {sum : Int} (found : (partialSums values)[number]? = some sum) :
    payoff.Allows number sum := by
  have allowed := payoff.allows_zero.runningTotals each found
  rw [Nat.zero_add] at allowed
  exact allowed

/-! ## Sequences of moves -/

theorem allows_roundScores (payoff : Payoff) (own other : List Move) :
    ∀ value ∈ payoff.roundScores own other, payoff.Allows 1 value := by
  intro value member
  rw [roundScores, ← List.map_uncurry_zip_eq_zipWith] at member
  rcases List.mem_map.mp member with ⟨pair, -, rfl⟩
  exact payoff.allows_score pair.1 pair.2

/-- The table adds up any two sequences of moves, and not only those of a match. -/
theorem roundScores_bounded (payoff : Payoff) {own other : List Move}
    (few : min own.length other.length ≤ 2 ^ 32) {number : Nat} {sum : Int}
    (found : (partialSums (payoff.roundScores own other))[number]? = some sum) :
    payoff.Allows number sum ∧ FitsWord sum := by
  have allowed := allows_partialSums (payoff.allows_roundScores own other) found
  have reached := le_of_partialSum found
  rw [roundScores, List.length_zipWith] at reached
  exact ⟨allowed, allowed.fits (Nat.le_trans reached few)⟩

end Payoff

/-! ## Matches -/

namespace Match

/-- A match as long as a number of rounds can be, in which the table decided all scores. -/
structure Scored (payoff : Payoff) (game : Match) : Prop where
  length : game.rounds.length < UInt32.size
  scored : ∀ round ∈ game.rounds, round.scoreA = payoff.score round.moveA round.moveB ∧
    round.scoreB = payoff.score round.moveB round.moveA

theorem scored_play (payoff : Payoff) (a b : Competitor) (rounds : UInt32) :
    (play payoff a b rounds).Scored payoff := by
  have complete := complete_play payoff a b rounds
  exact ⟨Nat.lt_of_le_of_lt (Nat.le_of_eq complete.length) rounds.toNat_lt, complete.scored⟩

variable {payoff : Payoff} {game : Match}

theorem Scored.roundScores (scored : game.Scored payoff) (seat : Seat) :
    payoff.roundScores (moves seat game.rounds) (moves seat.other game.rounds) =
      scores seat game.rounds :=
  roundScores_moves seat scored.scored

/-- The sums that a seat passes through, of which there is one before each round and one in the
end. All three summations pass through these. -/
structure Bounded (payoff : Payoff) (game : Match) (seat : Seat) : Prop where
  recorded : partialSums (scores seat game.rounds) = 0 :: game.cumulative seat
  byTable : partialSums
      (payoff.roundScores (moves seat game.rounds) (moves seat.other game.rounds)) =
    0 :: game.cumulative seat
  last : (0 :: game.cumulative seat).getLast? = some (game.total seat)
  lastByTable : (0 :: game.cumulative seat).getLast? =
    some (payoff.totalScore (moves seat game.rounds) (moves seat.other game.rounds))
  count : (0 :: game.cumulative seat).length = game.rounds.length + 1
  sums : ∀ (number : Nat) (sum : Int), (0 :: game.cumulative seat)[number]? = some sum →
    payoff.Allows number sum ∧ FitsWord sum

theorem Scored.bounded (scored : game.Scored payoff) (seat : Seat) :
    game.Bounded payoff seat where
  recorded := rfl
  byTable := by
    rw [scored.roundScores]
    rfl
  last := getLast?_partialSums (scores seat game.rounds)
  lastByTable := by
    rw [totalScore_moves seat scored.scored]
    exact getLast?_partialSums (scores seat game.rounds)
  count := congrArg (· + 1) (length_cumulative game seat)
  sums := by
    intro number sum found
    have few : min (moves seat game.rounds).length (moves seat.other game.rounds).length ≤
        2 ^ 32 := by
      rw [moves, moves, List.length_map, List.length_map, Nat.min_self]
      exact Nat.le_of_lt scored.length
    rw [cumulative, ← scored.roundScores] at found
    exact payoff.roundScores_bounded few found

/-- A total over so many rounds. -/
theorem Scored.allows_total (scored : game.Scored payoff) (seat : Seat) :
    payoff.Allows game.roundCount (game.total seat) := by
  have last := (scored.bounded seat).last
  rw [List.getLast?_eq_getElem?, (scored.bounded seat).count] at last
  exact ((scored.bounded seat).sums _ _ last).1

end Match

end Dilemma
