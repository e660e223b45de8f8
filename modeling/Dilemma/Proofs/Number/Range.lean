import Mathlib.Tactic.Linarith
import Dilemma.Proofs.Number.Decimal

/-! # Decimals out of range

A decimal is settled by the place of its first digit if that lies far outside of the format.
This never changes what is read: such a decimal is nearest to zero, or past the last
magnitude. A number therefore comes back from whatever decimal is written for it. -/

namespace Dilemma

namespace Binary64

theorem nearestRank_eq_zero {numerator denominator : Nat} (small : 2 * numerator < denominator) :
    nearestRank numerator denominator = 0 := by
  have floor : numerator / denominator = 0 := Nat.div_eq_of_lt (by omega)
  have rest : numerator % denominator = numerator := Nat.mod_eq_of_lt (by omega)
  have unshifted : denominator * twoTo 0 = denominator := Nat.mul_one denominator
  simp [nearestRank, roundQuotient, floor, rest, unshifted, small]

theorem le_nearestRank {numerator denominator exponents : Nat} (positive : 0 < denominator)
    (large : twoTo (exponents + 52) * denominator ≤ numerator) :
    exponents * fractionCount ≤ nearestRank numerator denominator := by
  have quotient : 2 ^ (exponents + 52) ≤ numerator / denominator :=
    (Nat.le_div_iff_mul_le positive).mpr large
  have nonzero : numerator / denominator ≠ 0 :=
    Nat.ne_of_gt (Nat.lt_of_lt_of_le (Nat.two_pow_pos _) quotient)
  have bits : exponents + 52 ≤ (numerator / denominator).log2 :=
    (Nat.le_log2 nonzero).mpr quotient
  have shift : exponents ≤ (numerator / denominator).log2 - 52 := by omega
  exact Nat.le_trans (Nat.mul_le_mul_right _ shift) (Nat.le_add_right _ _)

theorem ofRank_val (negative : Bool) (rank : Fin rankCount) :
    ofRank negative rank.val = finite negative rank :=
  dif_pos rank.isLt

theorem ofRank_of_le {negative : Bool} {rank : Nat} (past : rankCount ≤ rank) :
    ofRank negative rank = infinite negative :=
  dif_neg (Nat.not_lt.mpr past)

end Binary64

namespace Decimal

/-! ## The place of the first digit -/

theorem digits_lt (decimal : Decimal) : decimal.digits < 10 ^ decimal.digitList.length :=
  (Nat.length_toDigits_le_iff (by decide) Nat.length_toDigits_pos).mp (Nat.le_refl _)

theorem le_digits {decimal : Decimal} (nonzero : decimal.digits ≠ 0) :
    10 ^ (decimal.digitList.length - 1) ≤ decimal.digits := by
  have positive : 0 < decimal.digitList.length := Nat.length_toDigits_pos
  by_cases single : decimal.digitList.length = 1
  · rw [single]
    exact Nat.one_le_iff_ne_zero.mpr nonzero
  · refine Nat.le_of_not_lt fun less => ?_
    have short := (Nat.length_toDigits_le_iff (by decide) (by omega)).mpr less
    exact absurd short (by change ¬ decimal.digitList.length ≤ _; omega)

theorem value_lt (decimal : Decimal) : decimal.value < 10 ^ (decimal.leading + 1) := by
  have digits : (decimal.digits : Rat) < 10 ^ (decimal.digitList.length : Int) := by
    rw [zpow_natCast]
    exact_mod_cast decimal.digits_lt
  have place : decimal.leading + 1 = decimal.digitList.length + decimal.exponent := by
    rw [leading]
    omega
  rw [value, place, zpow_add₀ (by decide)]
  exact mul_lt_mul_of_pos_right digits (zpow_pos (by decide) _)

theorem le_value {decimal : Decimal} (nonzero : decimal.digits ≠ 0) :
    10 ^ decimal.leading ≤ decimal.value := by
  have positive : 0 < decimal.digitList.length := Nat.length_toDigits_pos
  have digits : (10 : Rat) ^ ((decimal.digitList.length - 1 : Nat) : Int) ≤ decimal.digits := by
    rw [zpow_natCast]
    exact_mod_cast le_digits nonzero
  have place : decimal.leading =
      (decimal.digitList.length - 1 : Nat) + decimal.exponent := by
    rw [leading]
    omega
  rw [value, place, zpow_add₀ (by decide)]
  exact mul_le_mul_of_nonneg_right digits (zpow_nonneg (by decide) _)

/-! ## Far outside of the format -/

variable {decimal : Decimal}

theorem nearestRank_of_leading_lt (small : decimal.leading + 1 < -400) :
    Binary64.nearestRank decimal.fraction.1 decimal.fraction.2 = 0 := by
  apply Binary64.nearestRank_eq_zero
  have power : (2 * Binary64.oneUnits : Nat) ≤ 10 ^ 400 := by decide +kernel
  have value : decimal.value < 10 ^ (-400 : Int) :=
    decimal.value_lt.trans (zpow_lt_zpow_right₀ (by decide) small)
  have unit : decimal.value * (2 * Binary64.oneUnits : Nat) < 1 := by
    have casted : ((2 * Binary64.oneUnits : Nat) : Rat) ≤ 10 ^ (400 : Int) := by
      exact_mod_cast power
    calc
      decimal.value * (2 * Binary64.oneUnits : Nat)
          < 10 ^ (-400 : Int) * (2 * Binary64.oneUnits : Nat) :=
        mul_lt_mul_of_pos_right value (Nat.cast_pos.mpr (by decide +kernel))
      _ ≤ 10 ^ (-400 : Int) * 10 ^ (400 : Int) :=
        mul_le_mul_of_nonneg_left casted (zpow_nonneg (by decide) _)
      _ = 1 := by rw [← zpow_add₀ (by decide)]; rfl
  have positive : (0 : Rat) < decimal.fraction.2 := Nat.cast_pos.mpr decimal.fraction_pos
  have casted : ((2 * decimal.fraction.1 : Nat) : Rat) < decimal.fraction.2 := by
    have scaled := mul_lt_mul_of_pos_right unit positive
    rw [Nat.cast_mul, fraction_eq]
    push_cast at scaled ⊢
    linarith
  exact_mod_cast casted

theorem rankCount_le_nearestRank (nonzero : decimal.digits ≠ 0)
    (large : 400 < decimal.leading + 1) :
    Binary64.rankCount ≤ Binary64.nearestRank decimal.fraction.1 decimal.fraction.2 := by
  apply Binary64.le_nearestRank decimal.fraction_pos
  have power : twoTo (2047 + 52) ≤ 10 ^ 400 * Binary64.oneUnits := by decide +kernel
  have value : 10 ^ (400 : Int) ≤ decimal.value :=
    (zpow_le_zpow_right₀ (by decide) (Int.lt_add_one_iff.mp large)).trans (le_value nonzero)
  have casted : ((twoTo (2047 + 52) * decimal.fraction.2 : Nat) : Rat) ≤ decimal.fraction.1 := by
    have powers : ((twoTo (2047 + 52) : Nat) : Rat) ≤ 10 ^ (400 : Int) * Binary64.oneUnits := by
      exact_mod_cast power
    rw [fraction_eq, Nat.cast_mul]
    refine mul_le_mul_of_nonneg_right (powers.trans ?_) (Nat.cast_nonneg _)
    exact mul_le_mul_of_nonneg_right value (Nat.cast_nonneg _)
  exact_mod_cast casted

end Decimal

namespace Binary64

/-! ## Reading decimals -/

/-- The shortcuts for extreme places change nothing. -/
theorem ofDecimal_eq (negative : Bool) (decimal : Decimal) :
    ofDecimal negative decimal.digits decimal.exponent =
      nearest negative decimal.fraction.1 decimal.fraction.2 := by
  have place : decimal.leading + 1 =
      decimal.exponent + (Nat.toDigits 10 decimal.digits).length := by
    rw [Decimal.leading]
    exact Int.sub_add_cancel _ _
  rw [ofDecimal, ← place]
  by_cases zero : decimal.digits = 0
  · have nothing : decimal.fraction.1 = 0 := by
      rw [Decimal.fraction]
      split <;> simp [zero]
    have rank : nearestRank 0 decimal.fraction.2 = 0 := nearestRank_eq_zero decimal.fraction_pos
    rw [if_pos (.inl zero), nearest, nothing, rank]
  · by_cases small : decimal.leading + 1 < -400
    · rw [if_pos (.inr small), nearest, Decimal.nearestRank_of_leading_lt small]
    · rw [if_neg (not_or.mpr ⟨zero, small⟩)]
      by_cases large : 400 < decimal.leading + 1
      · rw [if_pos large, nearest, ofRank_of_le (Decimal.rankCount_le_nearestRank zero large)]
      · rw [if_neg large, Decimal.fraction]
        split <;> rfl

theorem ofDecimal_congr {left right : Decimal} (same : left.value = right.value)
    (negative : Bool) :
    ofDecimal negative left.digits left.exponent =
      ofDecimal negative right.digits right.exponent := by
  have ranks : nearestRank left.fraction.1 left.fraction.2 =
      nearestRank right.fraction.1 right.fraction.2 := by
    have reads := Decimal.readsBack_congr same (nearestRank right.fraction.1 right.fraction.2)
    simpa [Decimal.readsBack] using reads
  rw [ofDecimal_eq, ofDecimal_eq, nearest, nearest, ranks]

/-- The decimal that is written for a number is read as that number. -/
theorem ofDecimal_shortest (tie : Decimal.Tie) (negative : Bool) (rank : Fin rankCount) :
    ofDecimal negative (Decimal.shortest tie rank).digits (Decimal.shortest tie rank).exponent =
      finite negative rank := by
  have reads := Decimal.readsBack_shortest tie rank
  rw [Decimal.readsBack, decide_eq_true_eq] at reads
  rw [ofDecimal_eq, nearest, reads, ofRank_val]

end Binary64

end Dilemma
