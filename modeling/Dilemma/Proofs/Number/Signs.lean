import Dilemma.Proofs.Number.Binary64
import Dilemma.Proofs.Number.Range
import Dilemma.Rule.Vocabulary

/-! # The sign of zero

Numbers are compared by their positions. Two of them that share a position are one and the same,
unless they are the two zeros. No operation shows which zero it was given: the results share a
position again, or none of them has one. -/

namespace Dilemma.Binary64

/-! ## Positions -/

theorem units_inj {left right : Nat} : units left = units right ↔ left = right := by
  refine ⟨fun same => ?_, congrArg units⟩
  rw [← nearestRank_units left, same, nearestRank_units]

theorem signed_inj {negative other : Bool} {left right : Nat}
    (same : signed negative left = signed other right) :
    left = right ∧ (negative = other ∨ left = 0) := by
  cases negative <;> cases other <;>
    simp only [signed, if_true, if_false, Bool.false_eq_true] at same
  · exact ⟨by omega, .inl rfl⟩
  · exact ⟨by omega, .inr (by omega)⟩
  · exact ⟨by omega, .inr (by omega)⟩
  · exact ⟨by omega, .inl rfl⟩

@[simp] theorem position_ofRank_zero (negative : Bool) : (ofRank negative 0).position = some 0 :=
  position_finite_eq_zero.mpr rfl

theorem ofRank_zero (negative : Bool) :
    ofRank negative 0 = finite negative ⟨0, by decide⟩ := rfl

/-- The two zeros are the only numbers that share a position. -/
theorem eq_or_zeros {left right : Binary64} (same : left.position = right.position) :
    left = right ∨ ∃ negative other, left = ofRank negative 0 ∧ right = ofRank other 0 := by
  cases left with
  | finite negative rank =>
      cases right with
      | finite other rank' =>
          rcases signed_inj (Option.some.inj same) with ⟨units, signs⟩
          obtain rfl : rank = rank' := Fin.ext (units_inj.mp units)
          rcases signs with rfl | zero
          · exact .inl rfl
          · obtain rfl : rank = ⟨0, by decide⟩ := Fin.ext (units_eq_zero.mp zero)
            exact .inr ⟨negative, other, rfl, rfl⟩
      | infinite other =>
          have bound := units_inj.mp (signed_inj (Option.some.inj same)).1
          exact absurd bound (Nat.ne_of_lt rank.isLt)
      | notANumber => cases same
  | infinite negative =>
      cases right with
      | finite other rank =>
          have bound := units_inj.mp (signed_inj (Option.some.inj same)).1
          exact absurd bound.symm (Nat.ne_of_lt rank.isLt)
      | infinite other =>
          rcases (signed_inj (Option.some.inj same)).2 with rfl | zero
          · exact .inl rfl
          · exact absurd (units_eq_zero.mp zero) (by decide)
      | notANumber => cases same
  | notANumber =>
      cases right with
      | notANumber => exact .inl rfl
      | _ => cases same

/-! ## One zero for both -/

/-- The number itself, but a zero is not negative. -/
def unsigned (value : Binary64) : Binary64 := if value.isZero then zero else value

theorem position_unsigned (value : Binary64) : value.unsigned.position = value.position := by
  rw [unsigned]
  split
  · rename_i vanishes
    rw [isZero_eq, beq_iff_eq] at vanishes
    rw [vanishes, position_zero]
  · rfl

theorem unsigned_eq_iff {left right : Binary64} :
    left.unsigned = right.unsigned ↔ left.position = right.position := by
  constructor
  · intro same
    rw [← position_unsigned left, same, position_unsigned]
  · intro same
    rcases eq_or_zeros same with rfl | ⟨negative, other, rfl, rfl⟩
    · rfl
    · rw [unsigned, unsigned, isZero_eq, isZero_eq, position_ofRank_zero, position_ofRank_zero]
      rfl

/-- What is equal to itself is equal to the numbers that differ from it in the sign of zero. -/
theorem equal_iff {left right : Binary64} (sound : left.equal left = true) :
    left.equal right = true ↔ left.unsigned = right.unsigned := by
  rw [unsigned_eq_iff]
  rw [equal, compareWith] at sound ⊢
  cases here : left.position with
  | none =>
      rw [here] at sound
      cases sound
  | some place =>
      cases right.position with
      | none => simp
      | some other => simp

/-! ## Operations -/

/-- The operation does not show which of the zeros it was given. -/
def Respects (operate : Binary64 → Binary64 → Binary64) : Prop :=
  ∀ ⦃left right other another : Binary64⦄, left.position = other.position →
    right.position = another.position →
    (operate left right).position = (operate other another).position

theorem respects_of_zeros {operate : Binary64 → Binary64 → Binary64}
    (first : ∀ negative right,
      (operate (ofRank negative 0) right).position = (operate zero right).position)
    (second : ∀ left negative,
      (operate left (ofRank negative 0)).position = (operate left zero).position) :
    Respects operate := by
  intro left right other another leftSame rightSame
  have leftMoved : (operate left right).position = (operate other right).position := by
    rcases eq_or_zeros leftSame with rfl | ⟨negative, opposite, rfl, rfl⟩
    · rfl
    · rw [first, first opposite]
  rw [leftMoved]
  rcases eq_or_zeros rightSame with rfl | ⟨negative, opposite, rfl, rfl⟩
  · rfl
  · rw [second, second _ opposite]

theorem add_comm (left right : Binary64) : left.add right = right.add left := by
  cases left <;> cases right <;> simp only [add]
  · rw [Int.add_comm, Bool.and_comm]
  · rename_i negative other
    by_cases same : negative = other
    · rw [same]
    · rw [if_neg same, if_neg (Ne.symm same)]

theorem signed_zero (negative : Bool) : signed negative (units 0) = 0 :=
  signed_eq_zero.mpr (units_eq_zero.mpr rfl)

theorem respects_add : Respects add := by
  have first (negative : Bool) (right : Binary64) :
      ((ofRank negative 0).add right).position = (zero.add right).position := by
    cases right with
    | finite other rank =>
        simp only [zero, ofRank_zero, add, signed_zero, Int.zero_add]
        split
        · rw [← ofRank_zero, ← ofRank_zero, position_ofRank_zero, position_ofRank_zero]
        · rfl
    | infinite other => rfl
    | notANumber => rfl
  exact respects_of_zeros first fun left negative => by rw [add_comm, first, add_comm]

theorem position_negate_congr {value other : Binary64} (same : value.position = other.position) :
    value.negate.position = other.negate.position := by
  rcases eq_or_zeros same with rfl | ⟨negative, opposite, rfl, rfl⟩
  · rfl
  · rw [ofRank_zero, ofRank_zero, negate, negate, ← ofRank_zero, ← ofRank_zero,
      position_ofRank_zero, position_ofRank_zero]

theorem respects_subtract : Respects subtract :=
  fun _ _ _ _ leftSame rightSame => respects_add leftSame (position_negate_congr rightSame)

theorem multiply_comm (left right : Binary64) : left.multiply right = right.multiply left := by
  cases left <;> cases right <;> simp only [multiply, Bool.xor_comm, Nat.mul_comm]

theorem position_nearest_zero (negative : Bool) {denominator : Nat} (positive : 0 < denominator) :
    (nearest negative 0 denominator).position = some 0 := by
  rw [nearest, nearestRank_eq_zero (by omega), position_ofRank_zero]

theorem units_zero : units 0 = 0 := units_eq_zero.mpr rfl

theorem respects_multiply : Respects multiply := by
  have first (negative : Bool) (right : Binary64) :
      ((ofRank negative 0).multiply right).position = (zero.multiply right).position := by
    cases right with
    | finite other rank =>
        simp only [zero, ofRank_zero, multiply, units_zero, Nat.zero_mul,
          position_nearest_zero _ (show 0 < oneUnits from twoTo_pos 1074)]
    | infinite other => rfl
    | notANumber => rfl
  exact respects_of_zeros first fun left negative => by rw [multiply_comm, first, multiply_comm]

theorem remainder_zero (negative : Bool) (right : Binary64) :
    ((ofRank negative 0).remainder right).position = (zero.remainder right).position := by
  cases right with
  | finite other rank =>
      simp only [zero, ofRank_zero, remainder, units_zero, Nat.zero_mod]
      split
      · rfl
      · rw [position_nearest_zero _ Nat.one_pos, position_nearest_zero _ Nat.one_pos]
  | infinite other =>
      change (ofRank negative 0).position = zero.position
      rw [position_ofRank_zero, position_zero]
  | notANumber => rfl

theorem respects_modulo : Respects modulo := by
  refine respects_of_zeros (fun negative right => ?_) fun left negative => ?_
  · have rest := remainder_zero negative right
    have order : ((ofRank negative 0).remainder right).less zero =
        (zero.remainder right).less zero := by
      rw [less, less, compareWith, compareWith, rest]
    simp only [modulo, order]
    split
    · exact respects_add rest rfl
    · exact rest
  · cases left with
    | finite other rank => rfl
    | infinite other => rfl
    | notANumber => rfl

end Dilemma.Binary64

namespace Dilemma

open Binary64 (position)

/-! ## Vocabulary -/

theorem Comparison.holds_congr (comparison : Comparison) {left right other another : Binary64}
    (leftSame : left.position = other.position) (rightSame : right.position = another.position) :
    comparison.holds left right = comparison.holds other another := by
  cases comparison <;>
    simp only [holds, Binary64.equal, Binary64.less, Binary64.atMost, Binary64.compareWith,
      leftSame, rightSame]

theorem Arithmetic.result?_congr (operator : Arithmetic) {left right other another : Binary64}
    (leftSame : left.position = other.position) (rightSame : right.position = another.position) :
    (operator.result? left right).map position = (operator.result? other another).map position := by
  cases operator with
  | add => exact congrArg some (Binary64.respects_add leftSame rightSame)
  | subtract => exact congrArg some (Binary64.respects_subtract leftSame rightSame)
  | multiply => exact congrArg some (Binary64.respects_multiply leftSame rightSame)
  | modulo =>
      rw [result?, result?, Binary64.isZero_eq, Binary64.isZero_eq, rightSame]
      split
      · rfl
      · exact congrArg some (Binary64.respects_modulo leftSame rightSame)

end Dilemma
