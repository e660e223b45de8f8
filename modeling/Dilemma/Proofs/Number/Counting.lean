import Mathlib.Algebra.Group.Nat.Defs
import Dilemma.Proofs.Number.Binary64
import Dilemma.Proofs.Number.Decimal

/-! # Counting numbers

A natural number of up to 53 bits is itself a magnitude of the format. Comparing two of them
and taking remainders needs no rounding, so both are what they are for natural numbers. -/

namespace Dilemma.Binary64

/-! ## Magnitudes of natural numbers -/

/-- A significand of 53 bits is counted in the steps of its exponent. -/
theorem units_eq_mul {shift significand : Nat} (least : fractionCount ≤ significand)
    (most : significand < 2 * fractionCount) :
    units (shift * fractionCount + significand) = significand * twoTo shift := by
  rw [units]
  simp only [fractionCount] at least most ⊢
  split
  · -- Up to the second exponent, ranks count units.
    have unshifted : shift = 0 := by omega
    rw [unshifted, Nat.zero_mul, Nat.zero_add]
    exact (Nat.mul_one significand).symm
  · have exponent : (shift * 4503599627370496 + significand) / 4503599627370496 = shift + 1 := by
      omega
    have fraction : 4503599627370496 + (shift * 4503599627370496 + significand) % 4503599627370496 =
        significand := by
      omega
    rw [exponent, fraction, Nat.add_sub_cancel]

variable {value left right : Nat}

theorem twoTo_add (exponent more : Nat) :
    twoTo (exponent + more) = twoTo exponent * twoTo more := Nat.pow_add 2 exponent more

theorem exists_units (small : value < 2 ^ 53) :
    ∃ rank < rankCount, units rank = value * oneUnits := by
  by_cases zero : value = 0
  · refine ⟨0, by decide, ?_⟩
    rw [zero, Nat.zero_mul]
    exact units_eq_zero.mpr rfl
  · -- Moved to the left end of its 53 bits, the number is its own significand.
    have bits : value.log2 < 53 := (Nat.log2_lt zero).mpr small
    rcases Nat.exists_eq_add_of_le (Nat.le_of_lt_succ bits) with ⟨room, enough⟩
    have least : fractionCount ≤ value * twoTo room :=
      calc
        fractionCount = twoTo value.log2 * twoTo room := by rw [← twoTo_add, ← enough]; rfl
        _ ≤ value * twoTo room := Nat.mul_le_mul_right _ (Nat.log2_self_le zero)
    have most : value * twoTo room < 2 * fractionCount :=
      calc
        value * twoTo room < twoTo (value.log2 + 1) * twoTo room :=
          Nat.mul_lt_mul_of_pos_right Nat.lt_log2_self (twoTo_pos room)
        _ = 2 * fractionCount := by
          rw [twoTo_succ, Nat.mul_right_comm, ← twoTo_add, ← enough]
          rfl
    refine ⟨(value.log2 + 1022) * fractionCount + value * twoTo room, ?_, ?_⟩
    · simp only [rankCount, fractionCount] at most ⊢
      omega
    · have exponents : room + (value.log2 + 1022) = 1074 := by omega
      rw [units_eq_mul least most, Nat.mul_assoc, ← twoTo_add, exponents, oneUnits]

/-- It is represented as it is. -/
theorem exists_ofNat (small : value < 2 ^ 53) :
    ∃ rank, ofNat value = finite false rank ∧ units rank.val = value * oneUnits := by
  rcases exists_units small with ⟨rank, within, exact⟩
  refine ⟨⟨rank, within⟩, ?_, exact⟩
  have rounded : nearestRank (value * oneUnits) 1 = rank := by
    rw [← exact]
    exact nearestRank_units rank
  rw [ofNat, ofInt, Int.natAbs_natCast, nearest, rounded, ofRank, dif_pos within,
    decide_eq_false (Int.not_lt.mpr (Int.natCast_nonneg value))]

theorem position_ofNat (small : value < 2 ^ 53) :
    (ofNat value).position = some ((value * oneUnits : Nat) : Int) := by
  rcases exists_ofNat small with ⟨rank, equal, exact⟩
  rw [equal, position, exact]
  rfl

/-! ## Exact operations -/

theorem less_eq_decide {left right : Binary64} {place other : Int}
    (leftPlace : left.position = some place) (rightPlace : right.position = some other) :
    left.less right = decide (place < other) := by
  rw [less, compareWith, leftPlace, rightPlace]

theorem less_ofNat (leftSmall : left < 2 ^ 53) (rightSmall : right < 2 ^ 53) :
    (ofNat left).less (ofNat right) = decide (left < right) := by
  have unit : 0 < oneUnits := twoTo_pos 1074
  rw [less_eq_decide (position_ofNat leftSmall) (position_ofNat rightSmall)]
  generalize oneUnits = unit at *
  refine decide_eq_decide.mpr ?_
  rw [Int.ofNat_lt]
  exact Nat.mul_lt_mul_right unit

theorem not_less_zero (small : value < 2 ^ 53) : (ofNat value).less zero = false := by
  rw [less_eq_decide (position_ofNat small) position_zero]
  exact decide_eq_false (Int.not_lt.mpr (Int.natCast_nonneg _))

theorem remainder_ofNat (leftSmall : left < 2 ^ 53) (rightSmall : right < 2 ^ 53)
    (nonzero : right ≠ 0) : (ofNat left).remainder (ofNat right) = ofNat (left % right) := by
  rcases exists_ofNat leftSmall with ⟨leftRank, leftEqual, leftExact⟩
  rcases exists_ofNat rightSmall with ⟨rightRank, rightEqual, rightExact⟩
  have divides : rightRank.val ≠ 0 := by
    intro vanishes
    rw [units_eq_zero.mpr vanishes] at rightExact
    exact Nat.mul_ne_zero nonzero (Nat.ne_of_gt (twoTo_pos 1074)) rightExact.symm
  rw [leftEqual, rightEqual, remainder, if_neg divides, leftExact, rightExact,
    Nat.mul_mod_mul_right, ofNat, ofInt, Int.natAbs_natCast,
    decide_eq_false (Int.not_lt.mpr (Int.natCast_nonneg _))]

/-- A remainder of natural numbers needs no correction. -/
theorem modulo_ofNat (leftSmall : left < 2 ^ 53) (rightSmall : right < 2 ^ 53)
    (nonzero : right ≠ 0) : (ofNat left).modulo (ofNat right) = ofNat (left % right) := by
  have small : left % right < 2 ^ 53 := Nat.lt_of_le_of_lt (Nat.mod_le left right) leftSmall
  simp only [modulo, remainder_ofNat leftSmall rightSmall nonzero, not_less_zero small,
    Bool.false_eq_true, if_false]

end Dilemma.Binary64
