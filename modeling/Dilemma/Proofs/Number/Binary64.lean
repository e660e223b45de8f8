import Dilemma.Number.Binary64

/-! # Zeros

The two zeros of the format are the only numbers that compare equal to zero. -/

namespace Dilemma.Binary64

theorem units_eq_zero {rank : Nat} : units rank = 0 ↔ rank = 0 := by
  unfold units
  split
  · rfl
  · rename_i large
    have positive : 0 < (fractionCount + rank % fractionCount) *
        twoTo (rank / fractionCount - 1) :=
      Nat.mul_pos (Nat.add_pos_left (by decide) _) (twoTo_pos _)
    simp only [fractionCount] at large positive ⊢
    omega

theorem signed_eq_zero {negative : Bool} {magnitude : Nat} :
    signed negative magnitude = 0 ↔ magnitude = 0 := by
  cases negative <;> simp [signed]

theorem position_zero : zero.position = some 0 := by decide +kernel

theorem isZero_eq (value : Binary64) : value.isZero = (value.position == some 0) := by
  rw [isZero, equal, compareWith, position_zero]
  cases value.position <;> rfl

theorem position_finite_eq_zero {negative : Bool} {rank : Fin rankCount} :
    (finite negative rank).position = some 0 ↔ rank.val = 0 := by
  rw [position, Option.some.injEq, signed_eq_zero, units_eq_zero]

theorem position_infinite_ne_zero (negative : Bool) :
    (infinite negative).position ≠ some 0 := by
  intro equal
  have vanishes : signed negative (units rankCount) = 0 := Option.some.inj equal
  rw [signed_eq_zero, units_eq_zero] at vanishes
  exact absurd vanishes (by decide)

theorem isZero_iff {value : Binary64} :
    value.isZero = true ↔ ∃ negative, value = ofRank negative 0 := by
  have zeroRank : ∀ negative, ofRank negative 0 = finite negative ⟨0, by decide⟩ :=
    fun _ => rfl
  simp only [isZero_eq, beq_iff_eq, zeroRank]
  cases value with
  | finite negative rank =>
      rw [position_finite_eq_zero]
      constructor
      · intro vanishes
        exact ⟨negative, by rw [← Fin.mk.inj_iff.mpr vanishes]⟩
      · rintro ⟨_, equal⟩
        injection equal with _ sameRank
        rw [sameRank]
  | infinite negative => simp [position_infinite_ne_zero]
  | notANumber => simp [position]

end Dilemma.Binary64
