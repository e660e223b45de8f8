import Dilemma.Proofs.Number.Binary64
import Dilemma.Proofs.Number.Range

/-! # Whole numbers

Integers of 64 bits lie well inside of the format. They stay finite when they are rounded,
and none but zero becomes zero. -/

namespace Dilemma.Binary64

theorem roundQuotient_le (numerator denominator : Nat) :
    roundQuotient numerator denominator ≤ numerator / denominator + 1 := by
  rw [roundQuotient]
  split
  · exact Nat.le_succ _
  · split
    · exact Nat.le_refl _
    · split
      · exact Nat.le_succ _
      · exact Nat.le_refl _

/-- A quotient of so many bits has a rank below two exponents more than it is shifted by. -/
theorem nearestRank_le {numerator denominator exponents : Nat}
    (small : numerator / denominator < 2 ^ (exponents + 53)) :
    nearestRank numerator denominator ≤ (exponents + 2) * fractionCount := by
  have shift : (numerator / denominator).log2 - 52 ≤ exponents := by
    by_cases zero : numerator / denominator = 0
    · rw [zero]
      exact Nat.zero_le _
    · have bits := (Nat.log2_lt zero).mpr small
      omega
  rw [nearestRank]
  generalize shifted : (numerator / denominator).log2 - 52 = steps at shift
  have bits : numerator / denominator < 2 ^ (steps + 53) := by
    by_cases zero : numerator / denominator = 0
    · rw [zero]
      exact Nat.two_pow_pos _
    · exact (Nat.log2_lt zero).mp (by omega)
  have quotient : numerator / (denominator * twoTo steps) < 2 * fractionCount := by
    rw [← Nat.div_div_eq_div_mul, Nat.div_lt_iff_lt_mul (twoTo_pos _)]
    exact Nat.lt_of_lt_of_eq bits (by rw [Nat.pow_add, Nat.mul_comm]; rfl)
  calc
    steps * fractionCount + roundQuotient numerator (denominator * twoTo steps)
        ≤ exponents * fractionCount + 2 * fractionCount :=
      Nat.add_le_add (Nat.mul_le_mul_right _ shift) ((roundQuotient_le ..).trans quotient)
    _ = (exponents + 2) * fractionCount := (Nat.add_mul ..).symm

variable {value : Int}

theorem isFinite_ofInt (small : value.natAbs < 2 ^ 65) : (ofInt value).isFinite = true := by
  have units : 2 ^ 65 * oneUnits = 2 ^ (1086 + 53) := by decide +kernel
  have quotient : value.natAbs * oneUnits / 1 < 2 ^ (1086 + 53) := by
    rw [Nat.div_one, ← units]
    exact Nat.mul_lt_mul_of_pos_right small (twoTo_pos 1074)
  have rank : nearestRank (value.natAbs * oneUnits) 1 < rankCount :=
    Nat.lt_of_le_of_lt (nearestRank_le quotient) (by decide)
  rw [ofInt, nearest, ofRank, dif_pos rank]
  rfl

theorem ofRank_ne_zero {rank : Nat} (positive : rank ≠ 0) (negative other : Bool) :
    ofRank negative rank ≠ ofRank other 0 := by
  have zero : ofRank other 0 = finite other ⟨0, by decide⟩ := rfl
  rw [zero, ofRank]
  split
  · intro equal
    injection equal with _ same
    exact positive (Fin.mk.inj_iff.mp same)
  · exact Binary64.noConfusion

theorem isZero_ofInt (nonzero : value ≠ 0) : (ofInt value).isZero = false := by
  have large : twoTo (1022 + 52) * 1 ≤ value.natAbs * oneUnits := by
    rw [Nat.mul_one]
    exact Nat.le_mul_of_pos_left _ (Int.natAbs_pos.mpr nonzero)
  have rank := le_nearestRank Nat.one_pos large
  have positive : nearestRank (value.natAbs * oneUnits) 1 ≠ 0 := by
    simp only [fractionCount] at rank
    omega
  rw [← Bool.not_eq_true, isZero_iff]
  rintro ⟨other, equal⟩
  exact ofRank_ne_zero positive _ other equal

end Dilemma.Binary64
