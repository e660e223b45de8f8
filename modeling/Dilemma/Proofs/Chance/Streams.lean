import Dilemma.Chance.Stream

/-! # Streams side by side

A turn of the state loses nothing, and neither does showing it. So two streams that differ in
their states differ in all draws, and zero, which is never left, is never come to. Two seeds only
lead into one stream where their states are the same after mixing, or where the word that takes
the place of zero is the other one's own. -/

namespace Dilemma

/-! ## Words -/

/-- To mix the shift of a word into it loses nothing if zero is the only word that is not moved
by the shift. -/
theorem eq_of_mixed {left right : UInt64} (shift : UInt64 → UInt64)
    (distributes : shift (left ^^^ right) = shift left ^^^ shift right)
    (moves : ∀ word, shift word = word → word = 0)
    (same : left ^^^ shift left = right ^^^ shift right) : left = right := by
  refine UInt64.xor_eq_zero_iff.mp (moves _ ?_)
  calc
    shift (left ^^^ right) = left ^^^ (left ^^^ shift left) ^^^ shift right := by
      rw [distributes, ← UInt64.xor_assoc left, UInt64.xor_self, UInt64.zero_xor]
    _ = left ^^^ (right ^^^ shift right) ^^^ shift right := by rw [same]
    _ = left ^^^ right := by
      rw [UInt64.xor_assoc, UInt64.xor_assoc, UInt64.xor_self, UInt64.xor_zero]

variable {left right count : UInt64}

theorem eq_of_mixed_right (positive : 0 < count.toNat) (within : count.toNat < 64)
    (same : left ^^^ left >>> count = right ^^^ right >>> count) : left = right := by
  refine eq_of_mixed (· >>> count) UInt64.shiftRight_xor (fun word stays => ?_) same
  have number := congrArg UInt64.toNat stays
  rw [UInt64.toNat_shiftRight, Nat.mod_eq_of_lt within, Nat.shiftRight_eq_div_pow] at number
  refine UInt64.toNat_inj.mp (Nat.eq_zero_of_not_pos fun some => ?_)
  have divisor : 1 < 2 ^ count.toNat := Nat.one_lt_two_pow (Nat.ne_of_gt positive)
  exact Nat.ne_of_lt (Nat.div_lt_self some divisor) number

theorem eq_of_mixed_left (positive : 0 < count.toNat) (within : count.toNat < 64)
    (same : left ^^^ left <<< count = right ^^^ right <<< count) : left = right := by
  refine eq_of_mixed (· <<< count) UInt64.shiftLeft_xor (fun word stays => ?_) same
  have number := congrArg UInt64.toNat stays
  rw [UInt64.toNat_shiftLeft, Nat.mod_eq_of_lt within] at number
  refine UInt64.toNat_inj.mp (Nat.eq_of_testBit_eq fun bit => ?_)
  -- Every bit comes from a lower place, and the lowest places are filled with zeros.
  induction bit using Nat.strongRecOn with
  | ind bit induction =>
      rw [← number, Nat.testBit_mod_two_pow, Nat.testBit_shiftLeft]
      by_cases shifted : count.toNat ≤ bit
      · rw [induction (bit - count.toNat) (by omega)]
        simp
      · simp [shifted]

theorem eq_of_mul_eq {factor inverse : UInt64} (unit : factor * inverse = 1)
    (same : left * factor = right * factor) : left = right := by
  have undone := congrArg (· * inverse) same
  simpa only [UInt64.mul_assoc, unit, UInt64.mul_one] using undone

namespace RandomStream

/-! ## Turns and draws -/

theorem advance_eq_iff {left right : RandomStream} :
    left.advance = right.advance ↔ left = right := by
  refine ⟨fun same => ?_, congrArg advance⟩
  rw [advance, advance, mk.injEq] at same
  have second := eq_of_mixed_right (by decide) (by decide) same
  have first := eq_of_mixed_left (by decide) (by decide) second
  have state := eq_of_mixed_right (by decide) (by decide) first
  cases left
  exact congrArg mk state

theorem value_eq_iff {left right : RandomStream} : left.value = right.value ↔ left = right := by
  refine ⟨fun same => ?_, congrArg value⟩
  have unit : (0x2545f4914f6cdd1d : UInt64) * 0x59071d96d81ecd35 = 1 := by decide
  have state := eq_of_mul_eq unit same
  cases left
  exact congrArg mk state

theorem skip_eq_iff {left right : RandomStream} (count : Nat) :
    skip count left = skip count right ↔ left = right := by
  induction count generalizing left right with
  | zero => exact Iff.rfl
  | succ count induction => rw [skip, skip, induction, advance_eq_iff]

theorem skip_zero (count : Nat) : skip count ⟨0⟩ = ⟨0⟩ := by
  induction count with
  | zero => rfl
  | succ count induction => exact induction

theorem eq_zero_of_skip {stream : RandomStream} {count : Nat} (zero : skip count stream = ⟨0⟩) :
    stream = ⟨0⟩ :=
  (skip_eq_iff count).mp (zero.trans (skip_zero count).symm)

/-! ## Starts -/

/-- The state that a seed and a number are mixed to, which may be zero. -/
def mixed (seed : UInt64) (stream : UInt32) : UInt64 :=
  seed ^^^ stream.toUInt64 * 0x517cc1b727220a95 ^^^ 0x6a09e667f3bcc908

theorem mixed_eq_iff (seed other : UInt64) (stream : UInt32) :
    mixed seed stream = mixed other stream ↔ seed = other := by
  rw [mixed, mixed, UInt64.xor_left_inj, UInt64.xor_left_inj]

/-- The states are the same once zero has been replaced. -/
def Meet (left right : UInt64) : Prop :=
  left = right ∨ left = 0 ∧ right = 0x9e3779b97f4a7c15 ∨ left = 0x9e3779b97f4a7c15 ∧ right = 0

theorem state_origin (seed : UInt64) (stream : UInt32) :
    (origin seed stream).state =
      if mixed seed stream = 0 then 0x9e3779b97f4a7c15 else mixed seed stream := by
  rw [mixed, UInt64.xor_assoc, UInt64.xor_comm (stream.toUInt64 * _), ← UInt64.xor_assoc]
  rfl

theorem origin_ne_zero (seed : UInt64) (stream : UInt32) : origin seed stream ≠ ⟨0⟩ := by
  intro zero
  have state := (state_origin seed stream).symm.trans (congrArg RandomStream.state zero)
  split at state
  · cases state
  · rename_i nonzero
    exact nonzero state

theorem meet_iff (left right : UInt64) :
    ((if left = 0 then 0x9e3779b97f4a7c15 else left) =
      if right = 0 then 0x9e3779b97f4a7c15 else right) ↔ Meet left right := by
  rw [Meet]
  by_cases leftZero : left = 0 <;> by_cases rightZero : right = 0
  · simp [leftZero, rightZero]
  · simp [leftZero, rightZero, eq_comm]
  · simp [leftZero, rightZero]
  · simp [leftZero, rightZero]

theorem origin_eq_iff (seed other : UInt64) (stream number : UInt32) :
    origin seed stream = origin other number ↔ Meet (mixed seed stream) (mixed other number) := by
  rw [← meet_iff, ← state_origin, ← state_origin]
  exact ⟨congrArg state, congrArg mk⟩

theorem start_ne_zero (seed : UInt64) (stream : UInt32) : start seed stream ≠ ⟨0⟩ :=
  fun zero => origin_ne_zero seed stream (eq_zero_of_skip zero)

/-! ## Draws -/

/-- The draw that comes after so many others. -/
def draw (seed : UInt64) (stream : UInt32) (count : Nat) : UInt64 :=
  (skip count (start seed stream)).next.1

theorem draw_eq_iff (seed other : UInt64) (stream number : UInt32) (count : Nat) :
    draw seed stream count = draw other number count ↔
      Meet (mixed seed stream) (mixed other number) := by
  rw [draw, draw, next, next, value_eq_iff, advance_eq_iff, skip_eq_iff, start, start, skip_eq_iff,
    origin_eq_iff]

theorem draw_ne_zero (seed : UInt64) (stream : UInt32) (count : Nat) :
    draw seed stream count ≠ 0 := by
  intro zero
  have next : (skip count (start seed stream)).advance = ⟨0⟩ := value_eq_iff.mp zero
  have state : skip count (start seed stream) = ⟨0⟩ := advance_eq_iff.mp next
  exact start_ne_zero seed stream (eq_zero_of_skip state)

/-- No stream comes to zero or shows it. Two streams are the same in every draw or in none, and
they are the same only where their states meet after mixing. Two seeds share a number only where
zero is replaced by the state of the other one. -/
theorem streams_apart (seed other : UInt64) (stream number : UInt32) :
    (∀ count, (skip count (start seed stream)).state ≠ 0 ∧ draw seed stream count ≠ 0) ∧
    ((∀ count, draw seed stream count = draw other number count) ∨
      ∀ count, draw seed stream count ≠ draw other number count) ∧
    ((∀ count, draw seed stream count = draw other number count) ↔
      Meet (mixed seed stream) (mixed other number)) ∧
    ((∃ count, draw seed stream count = draw other stream count) ↔ seed = other ∨
      mixed seed stream = 0 ∧ mixed other stream = 0x9e3779b97f4a7c15 ∨
      mixed seed stream = 0x9e3779b97f4a7c15 ∧ mixed other stream = 0) := by
  have same (count : Nat) := draw_eq_iff seed other stream number count
  refine ⟨fun count => ⟨fun zero => ?_, draw_ne_zero seed stream count⟩, ?_, ?_, ?_⟩
  · exact start_ne_zero seed stream (eq_zero_of_skip (congrArg mk zero))
  · by_cases meet : Meet (mixed seed stream) (mixed other number)
    · exact .inl fun count => (same count).mpr meet
    · exact .inr fun count equal => meet ((same count).mp equal)
  · exact ⟨fun equal => (same 0).mp (equal 0), fun meet count => (same count).mpr meet⟩
  · simp only [draw_eq_iff, exists_const, Meet, mixed_eq_iff]

/-- Two seeds that share round 0: the first is mixed to zero and the second to what replaces it. -/
example :
    draw 0x6a09e667f3bcc908 0 3 = draw (0x6a09e667f3bcc908 ^^^ 0x9e3779b97f4a7c15) 0 3 := by
  decide +kernel

end RandomStream

end Dilemma
