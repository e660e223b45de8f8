import Mathlib.Tactic.Ring
import Dilemma.Proofs.Tournament.Schedule

/-! # Ranks within words

A rank is turned into its pair in words of 64 bits. Newton's iteration only looks at guesses
between one and the value itself, and ends at a guess whose square is not beyond the value.
So everything computed on the way is small, and no check of an operation ever fails once the
value has been found to fit. -/

namespace Dilemma.Pairing

/-! ## Single operations -/

theorem ok_bind {α β : Type} (value : α) (next : α → Except Fault β) :
    (Except.ok value >>= next) = next value := rfl

variable {first second : Nat}

theorem sum_eq (fits : first + second < UInt64.size) :
    sum first second = .ok (first + second) := if_pos fits

theorem difference_eq (ordered : second ≤ first) :
    difference first second = .ok (first - second) := if_pos ordered

theorem product_eq (fits : first * second < UInt64.size) :
    product first second = .ok (first * second) := if_pos fits

theorem quotient_eq (nonzero : 0 < second) :
    quotient first second = .ok (first / second) := if_pos nonzero

theorem upperHalf_eq {value : Nat} (fits : value < UInt64.size) :
    upperHalf value = .ok ((value + 1) / 2) := by
  rw [upperHalf]
  split
  · rename_i even
    rw [show (value + 1) / 2 = value / 2 by omega]
  · rename_i odd
    rw [sum_eq (by omega), show (value + 1) / 2 = value / 2 + 1 by omega]

theorem firstRank_eq {b : Nat} (fits : (b + 1) * b < UInt64.size) :
    firstRank (b + 1) = .ok ((b + 1) * b / 2) := by
  rw [firstRank, difference_eq (Nat.le_add_left 1 b), ok_bind, Nat.add_sub_cancel,
    product_eq fits]
  rfl

theorem nextRank_eq {b : Nat} (next : b + 1 < UInt64.size)
    (fits : (b + 1) * b < UInt64.size) : nextRank b = .ok ((b + 1) * b / 2) := by
  rw [nextRank, sum_eq next, ok_bind, product_eq fits]
  rfl

/-! ## The square root -/

variable {value : Nat}

/-- Of two factors, the sum is greatest if one of them is one. -/
theorem add_div_le {guess : Nat} (positive : 0 < guess) (bounded : guess ≤ value) :
    guess + value / guess ≤ value + 1 := by
  have whole := Nat.mul_div_le value guess
  have reached := Nat.div_pos bounded positive
  obtain ⟨more, rfl⟩ := Nat.exists_eq_add_of_le' (show 1 ≤ guess from positive)
  obtain ⟨times, known⟩ := Nat.exists_eq_add_of_le' (show 1 ≤ value / (more + 1) from reached)
  rw [known] at whole ⊢
  have expanded : (more + 1) * (times + 1) = more * times + more + times + 1 := by ring
  omega

theorem half_pos {guess : Nat} (positive : 0 < guess) (bounded : guess ≤ value) :
    0 < (guess + value / guess) / 2 := by
  have reached := Nat.div_pos bounded positive
  omega

/-- A guess that would not fall is not above its quotient. -/
theorem mul_self_le_of_stays {guess : Nat} (positive : 0 < guess)
    (stays : ¬(guess + value / guess) / 2 < guess) : guess * guess ≤ value := by
  have quotient : guess ≤ value / guess := by omega
  exact (Nat.le_div_iff_mul_le positive).mp quotient

/-- Where the guess no longer falls, its square is not beyond the value. -/
theorem descend_mul_self_le (value guess : Nat) :
    descend value guess * descend value guess ≤ value := by
  induction guess using descend.induct value with
  | case1 guess next falls induction =>
      rw [descend, if_pos falls]
      exact induction
  | case2 guess next stays =>
      rw [descend, if_neg stays]
      rcases Nat.eq_zero_or_pos guess with rfl | positive
      · exact Nat.zero_le value
      · exact mul_self_le_of_stays positive stays

theorem descendWithin_eq {guess : Nat} (fits : value + 1 < UInt64.size) (positive : 0 < guess)
    (bounded : guess ≤ value) :
    descendWithin value guess ((guess + value / guess) / 2) = .ok (descend value guess) := by
  induction guess using descend.induct value with
  | case1 guess next falls induction =>
      have nextPositive : 0 < next := half_pos positive bounded
      have nextBounded : next ≤ value := Nat.le_trans (Nat.le_of_lt falls) bounded
      have added := add_div_le nextPositive nextBounded
      rw [descendWithin, if_pos falls, descend, if_pos falls, quotient_eq nextPositive, ok_bind,
        sum_eq (Nat.lt_of_le_of_lt added fits)]
      exact induction nextPositive nextBounded
  | case2 guess next stays =>
      rw [descendWithin, if_neg stays, descend, if_neg stays]
      rfl

theorem squareRoot_lt (fits : value < UInt64.size) : squareRoot value < 2 ^ 32 := by
  have below : squareRoot value * squareRoot value ≤ value := descend_mul_self_le value value
  refine Nat.lt_of_not_le fun large => ?_
  have square := Nat.mul_le_mul large large
  have size : UInt64.size = 2 ^ 32 * 2 ^ 32 := rfl
  omega

/-! ## The corrections -/

theorem mul_lt_size {b : Nat} (small : b ≤ 2 ^ 31) : (b + 1) * b < UInt64.size := by
  have bound := Nat.mul_le_mul (Nat.add_le_add_right small 1) small
  have size : (2 ^ 31 + 1) * 2 ^ 31 < UInt64.size := by decide
  omega

theorem le_of_count_le {rank b : Nat} (fits : 8 * rank < UInt64.size)
    (reached : count b ≤ rank) : b ≤ 2 ^ 31 := by
  refine Nat.le_of_not_lt fun large => ?_
  have beyond := count_mono (show 2 ^ 31 + 1 ≤ b from large)
  have first : count (2 ^ 31 + 1) = 2 ^ 61 + 2 ^ 30 := by decide
  have size : UInt64.size = 2 ^ 64 := rfl
  omega

theorem lowerWithin_eq (rank : Nat) {b : Nat} (small : b ≤ 2 ^ 31) :
    lowerWithin rank b = .ok (lower rank b) := by
  induction b with
  | zero => rfl
  | succ b induction =>
      have less : b ≤ 2 ^ 31 := Nat.le_of_succ_le small
      rw [lowerWithin, firstRank_eq (mul_lt_size less), ok_bind, induction less, lower]
      split <;> rfl

theorem raiseWithin_of_nextRank {rank b first : Nat} (found : nextRank b = .ok first) :
    raiseWithin rank b = if first ≤ rank then raiseWithin rank (b + 1) else .ok b := by
  rw [raiseWithin]
  split
  · rename_i fault failed
    rw [found] at failed
    cases failed
  · rename_i other known
    rw [found] at known
    cases known
    rfl

theorem raiseWithin_eq {rank b : Nat} (fits : 8 * rank < UInt64.size)
    (reached : count b ≤ rank) : raiseWithin rank b = .ok (raise rank b) := by
  have size : UInt64.size = 2 ^ 64 := rfl
  induction b using raise.induct rank with
  | case1 b within induction =>
      have small := le_of_count_le fits reached
      rw [raiseWithin_of_nextRank (nextRank_eq (by omega) (mul_lt_size small)), if_pos within,
        raise, dif_pos within]
      exact induction within
  | case2 b beyond =>
      have small := le_of_count_le fits reached
      rw [raiseWithin_of_nextRank (nextRank_eq (by omega) (mul_lt_size small)), if_neg beyond,
        raise, dif_neg beyond]

/-! ## Ranks and matches -/

/-- A rank that may be multiplied by eight goes through without a fault. -/
theorem unrankWithin_eq {rank : Nat} (fits : 8 * rank < UInt64.size) :
    unrankWithin rank = .ok (unrank rank) := by
  have size : UInt64.size = 2 ^ 64 := rfl
  have value : 1 + 8 * rank + 1 < UInt64.size := by omega
  have root := squareRoot_lt (show 1 + 8 * rank < UInt64.size by omega)
  have small : estimate rank ≤ 2 ^ 31 := by
    rw [estimate]
    omega
  have started : (1 + 8 * rank + 1) / 2 =
      (1 + 8 * rank + (1 + 8 * rank) / (1 + 8 * rank)) / 2 := by
    rw [Nat.div_self (by omega)]
  have descended : descendWithin (1 + 8 * rank) (1 + 8 * rank) ((1 + 8 * rank + 1) / 2) =
      .ok (squareRoot (1 + 8 * rank)) := by
    rw [started]
    exact descendWithin_eq value (by omega) (Nat.le_refl _)
  have lowered := count_lower_le rank (estimate rank)
  have found := (raise_spec lowered).1
  obtain ⟨less, raised⟩ : ∃ less, raise rank (lower rank (estimate rank)) = less + 1 := by
    have ordered := (unrank_spec rank).1
    exact Nat.exists_eq_add_of_le' (Nat.lt_of_le_of_lt (Nat.zero_le _) ordered)
  rw [raised] at found
  have reached := le_of_count_le fits found
  -- Each line is one operation on the way, and the bound for which it succeeds.
  rw [unrankWithin, product_eq fits, ok_bind,
    sum_eq (Nat.lt_of_succ_lt value), ok_bind,
    upperHalf_eq (Nat.lt_of_succ_lt value), ok_bind,
    descended, ok_bind,
    sum_eq (by omega), ok_bind, ← estimate,
    lowerWithin_eq rank small, ok_bind,
    raiseWithin_eq fits lowered, ok_bind, raised,
    firstRank_eq (mul_lt_size (Nat.le_of_succ_le reached)), ok_bind,
    difference_eq (show (less + 1) * less / 2 ≤ rank from found), unrank, raised]
  rfl

theorem unrankWithin_eq_error {rank : Nat} (large : ¬8 * rank < UInt64.size) :
    unrankWithin rank = .error .product := by
  rw [unrankWithin, product, if_neg large]
  rfl

/-- The way from a rank to its pair has no check that could fail after the first. -/
theorem ofMatchWithin?_eq_unrankWithin (participants index : Nat) :
    ofMatchWithin? participants index = do
      if index < (← countWithin participants) then return some (← unrankWithin index)
      else return none := by
  rw [ofMatchWithin?]
  cases countWithin participants with
  | error fault => rfl
  | ok total =>
      rw [ok_bind, ok_bind]
      by_cases fits : 8 * index < UInt64.size
      · rw [unrankWithin_eq fits, product_eq fits]
        rfl
      · rw [unrankWithin_eq_error fits, product, if_neg fits]
        rfl

theorem mapM_unrankWithin {ranks : List Nat}
    (fit : ∀ rank ∈ ranks, 8 * rank < UInt64.size) :
    ranks.mapM unrankWithin = .ok (ranks.map unrank) := by
  induction ranks with
  | nil => rfl
  | cons rank rest induction =>
      rw [List.mapM_cons, unrankWithin_eq (fit rank (List.mem_cons_self ..)), ok_bind,
        induction fun other member => fit other (List.mem_cons_of_mem rank member)]
      rfl

end Dilemma.Pairing
