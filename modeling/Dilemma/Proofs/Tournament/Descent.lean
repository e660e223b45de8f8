import Mathlib.Algebra.Order.Ring.Unbundled.Basic
import Mathlib.Data.Nat.Sqrt
import Dilemma.Proofs.Tournament.Words

/-! # The root of a rank

Every guess of Newton's iteration is at least the square root, rounded down, because the mean of
two numbers is at least the root of their product. A guess that is greater than the root is
followed by a smaller one, so the iteration ends exactly at the root. That root tells the greater
participant of the pair at once: the corrections behind the estimate have nothing to correct. -/

namespace Dilemma.Pairing

/-! ## Guesses -/

variable {value : Nat}

/-- The guess after a guess does not fall below the root. -/
theorem sqrt_le_mean {guess : Nat} (positive : 0 < guess) :
    Nat.sqrt value ≤ (guess + value / guess) / 2 := by
  have less : value < guess * (value / guess + 1) := by
    rw [Nat.mul_comm]
    exact Nat.lt_mul_of_div_lt (Nat.lt_succ_self _) positive
  have means := four_mul_le_sq_add guess (value / guess + 1)
  have rounded : guess + (value / guess + 1) ≤ 2 * ((guess + value / guess) / 2 + 1) := by omega
  have squares := Nat.pow_le_pow_left rounded 2
  refine Nat.lt_add_one_iff.mp (Nat.sqrt_lt.mpr ?_)
  generalize (guess + value / guess) / 2 + 1 = limit at squares ⊢
  rw [Nat.pow_two (2 * limit), Nat.mul_mul_mul_comm] at squares
  rw [Nat.mul_assoc] at means
  omega

/-! ## States -/

/-- What the iteration holds when it looks: its guess, and the one that may take its place. -/
structure Descent where
  guess : Nat
  next : Nat

namespace Descent

/-- One look. A smaller guess takes the place, and the one after it is computed in words. -/
def advance (value : Nat) (state : Descent) : Except Fault (Option Descent) := do
  if state.next < state.guess then
    return some ⟨state.next, (← sum state.next (← quotient value state.next)) / 2⟩
  else return none

/-- The iteration comes from one state to another. -/
inductive Reaches (value : Nat) (first : Descent) : Descent → Prop where
  | stay : Reaches value first first
  | advance {state later : Descent} (earlier : Reaches value first state)
      (advanced : state.advance value = .ok (some later)) : Reaches value first later

theorem Reaches.trans {first middle last : Descent} (earlier : Reaches value first middle)
    (later : Reaches value middle last) : Reaches value first last := by
  induction later with
  | stay => exact earlier
  | advance _ advanced reached => exact reached.advance advanced

/-- The iteration is one look after the other. -/
theorem descendWithin_eq_advance (value : Nat) (state : Descent) :
    descendWithin value state.guess state.next = do
      match ← state.advance value with
      | some later => descendWithin value later.guess later.next
      | none => return state.guess := by
  rw [descendWithin, advance]
  split
  · cases quotient value state.next with
    | error fault => rfl
    | ok divided =>
        rw [ok_bind, ok_bind]
        cases sum state.next divided <;> rfl
  · rfl

/-- The guess is between the root and the value, and the next one is known. -/
structure Sound (value : Nat) (state : Descent) : Prop where
  positive : 0 < state.guess
  bounded : state.guess ≤ value
  sqrt_le : Nat.sqrt value ≤ state.guess
  next_eq : state.next = (state.guess + value / state.guess) / 2

theorem sound_start (positive : 0 < value) : Sound value ⟨value, (value + 1) / 2⟩ where
  positive := positive
  bounded := Nat.le_refl value
  sqrt_le := Nat.sqrt_le_self value
  next_eq := by rw [Nat.div_self positive]

namespace Sound

variable {state : Descent} (sound : Sound value state)

include sound

theorem next_pos : 0 < state.next := by
  rw [sound.next_eq]
  exact half_pos sound.positive sound.bounded

theorem next_le : state.next ≤ value := by
  have added := add_div_le sound.positive sound.bounded
  have positive := sound.positive.trans_le sound.bounded
  rw [sound.next_eq]
  omega

/-- A look finds the root, or a smaller guess that is sound again. -/
theorem advance_cases (fits : value + 1 < UInt64.size) :
    state.advance value = .ok none ∧ state.guess = Nat.sqrt value ∨
      ∃ later, state.advance value = .ok (some later) ∧ later.guess < state.guess ∧
        Sound value later := by
  by_cases falls : state.next < state.guess
  · have added := add_div_le sound.next_pos sound.next_le
    refine .inr ⟨⟨state.next, (state.next + value / state.next) / 2⟩, ?_, falls,
      sound.next_pos, sound.next_le, ?_, rfl⟩
    · rw [advance, if_pos falls, quotient_eq sound.next_pos, ok_bind,
        sum_eq (Nat.lt_of_le_of_lt added fits)]
      rfl
    · rw [sound.next_eq]
      exact sqrt_le_mean sound.positive
  · refine .inl ⟨if_neg falls, Nat.le_antisymm ?_ sound.sqrt_le⟩
    rw [sound.next_eq] at falls
    exact Nat.le_sqrt.mpr (mul_self_le_of_stays sound.positive falls)

theorem reached (fits : value + 1 < UInt64.size) {later : Descent}
    (reaches : Reaches value state later) : Sound value later := by
  induction reaches with
  | stay => exact sound
  | advance _ advanced induction =>
      rcases induction.advance_cases fits with ⟨ended, _⟩ | ⟨next, found, _, nextSound⟩
      · rw [ended] at advanced
        cases advanced
      · rw [found] at advanced
        cases advanced
        exact nextSound

/-- The iteration ends, and its result is the root. -/
theorem ends (fits : value + 1 < UInt64.size) :
    (∃ last, Reaches value state last ∧ last.advance value = .ok none) ∧
      descendWithin value state.guess state.next = .ok (Nat.sqrt value) := by
  induction guess : state.guess using Nat.strong_induction_on generalizing state with
  | _ guess induction =>
      subst guess
      rw [descendWithin_eq_advance]
      rcases sound.advance_cases fits with ⟨ended, root⟩ | ⟨later, advanced, falls, laterSound⟩
      · rw [ended, ← root]
        exact ⟨⟨state, .stay, ended⟩, rfl⟩
      · rw [advanced]
        rcases induction _ falls laterSound rfl with ⟨⟨last, reaches, ended⟩, result⟩
        exact ⟨⟨last, (Reaches.stay.advance advanced).trans reaches, ended⟩, result⟩

end Sound

/-- What a state holds and what a look computes from it has 64 bits, and nothing is divided by
zero. -/
structure Fits (value : Nat) (state : Descent) : Prop where
  guess_pos : 0 < state.guess
  guess_lt : state.guess < 2 ^ 64
  next_pos : 0 < state.next
  next_lt : state.next < 2 ^ 64
  sum_lt : state.next + value / state.next < 2 ^ 64

theorem Sound.fits {state : Descent} (sound : Sound value state)
    (fits : value + 1 < UInt64.size) : state.Fits value where
  guess_pos := sound.positive
  guess_lt := Nat.lt_of_le_of_lt sound.bounded (Nat.lt_of_succ_lt fits)
  next_pos := sound.next_pos
  next_lt := Nat.lt_of_le_of_lt sound.next_le (Nat.lt_of_succ_lt fits)
  sum_lt := Nat.lt_of_le_of_lt (add_div_le sound.next_pos sound.next_le) fits

/-- The iteration goes from the first state through words to the root. -/
structure FindsRoot (value : Nat) (first : Descent) : Prop where
  fits : ∀ state, Reaches value first state → state.Fits value
  proceeds : ∀ state, Reaches value first state →
    state.advance value = .ok none ∧ state.guess = Nat.sqrt value ∨
      ∃ later, state.advance value = .ok (some later) ∧ later.guess < state.guess
  ends : ∃ last, Reaches value first last ∧ last.advance value = .ok none
  result : ∀ state, Reaches value first state →
    descendWithin value state.guess state.next = .ok (Nat.sqrt value)

theorem findsRoot (positive : 0 < value) (fits : value + 1 < UInt64.size) :
    FindsRoot value ⟨value, (value + 1) / 2⟩ := by
  have sound := sound_start positive
  refine ⟨fun state reaches => (sound.reached fits reaches).fits fits,
    fun state reaches => ?_, (sound.ends fits).1,
    fun state reaches => ((sound.reached fits reaches).ends fits).2⟩
  refine ((sound.reached fits reaches).advance_cases fits).imp_right ?_
  rintro ⟨later, advanced, falls, _⟩
  exact ⟨later, advanced, falls⟩

end Descent

/-! ## The estimate -/

theorem two_mul_count_add (b : Nat) : 2 * count b + b = b * b := by
  induction b with
  | zero => rfl
  | succ b induction =>
      have square : (b + 1) * (b + 1) = b * b + 2 * b + 1 := by ring
      rw [count_succ, square, ← induction]
      omega

/-- Half of the root, rounded up, is the greater participant. -/
theorem count_half_sqrt (rank : Nat) :
    count ((1 + Nat.sqrt (1 + 8 * rank)) / 2) ≤ rank ∧
      rank < count ((1 + Nat.sqrt (1 + 8 * rank)) / 2 + 1) := by
  have atLeast := Nat.sqrt_le (1 + 8 * rank)
  have below : 1 + 8 * rank < (Nat.sqrt (1 + 8 * rank) + 1) * (Nat.sqrt (1 + 8 * rank) + 1) :=
    Nat.lt_succ_sqrt (1 + 8 * rank)
  generalize Nat.sqrt (1 + 8 * rank) = root at atLeast below ⊢
  rw [count_succ]
  rcases Nat.even_or_odd' root with ⟨b, rfl | rfl⟩
  · have half : (1 + 2 * b) / 2 = b := by omega
    have square := two_mul_count_add b
    have lower : 2 * b * (2 * b) = 4 * (b * b) := by ring
    have upper : (2 * b + 1) * (2 * b + 1) = 4 * (b * b) + 4 * b + 1 := by ring
    rw [half]
    omega
  · have half : (1 + (2 * b + 1)) / 2 = b + 1 := by omega
    have square := two_mul_count_add (b + 1)
    have lower : (2 * b + 1) * (2 * b + 1) + 4 * (b + 1) = 4 * ((b + 1) * (b + 1)) + 1 := by ring
    have upper : (2 * b + 1 + 1) * (2 * b + 1 + 1) = 4 * ((b + 1) * (b + 1)) := by ring
    rw [half]
    omega

/-- Neither correction has anything to do at this `b`: its first rank is reached, and the first
rank of the next one is not. -/
structure Settled (rank b : Nat) : Prop where
  first : firstRank b = .ok (count b)
  reached : ¬rank < count b
  next : nextRank b = .ok (count (b + 1))
  within : ¬count (b + 1) ≤ rank
  lowered : lowerWithin rank b = .ok b
  raised : raiseWithin rank b = .ok b

theorem settled_of_count {rank b : Nat} (positive : 0 < b) (fits : 8 * rank < UInt64.size)
    (reached : count b ≤ rank) (within : rank < count (b + 1)) : Settled rank b := by
  have size : UInt64.size = 2 ^ 64 := rfl
  have small := le_of_count_le fits reached
  obtain ⟨less, rfl⟩ := Nat.exists_eq_add_of_le' (show 1 ≤ b from positive)
  have first := firstRank_eq (mul_lt_size (Nat.le_of_succ_le small))
  have next := nextRank_eq (by omega) (mul_lt_size small)
  refine ⟨first, Nat.not_lt.mpr reached, next, Nat.not_le.mpr within, ?_, ?_⟩
  · rw [lowerWithin, first, ok_bind]
    exact if_neg (Nat.not_lt.mpr reached)
  · exact (raiseWithin_of_nextRank next).trans (if_neg (Nat.not_le.mpr within))

/-- Newton's iteration goes down to the square root, guess by guess and within words. From the
root the pair follows at once, without a single correction. -/
theorem pair_found_at_root (rank : Nat) (fits : 1 + 8 * rank < 2 ^ 64) :
    product 8 rank = .ok (8 * rank) ∧ sum 1 (8 * rank) = .ok (1 + 8 * rank) ∧
      ∃ half, upperHalf (1 + 8 * rank) = .ok half ∧
        Descent.FindsRoot (1 + 8 * rank) ⟨1 + 8 * rank, half⟩ ∧
        sum 1 (Nat.sqrt (1 + 8 * rank)) = .ok (1 + Nat.sqrt (1 + 8 * rank)) ∧
        ∃ b, b = (1 + Nat.sqrt (1 + 8 * rank)) / 2 ∧ Settled rank b ∧
          unrankWithin rank = .ok (rank - count b, b) := by
  have size : UInt64.size = 2 ^ 64 := rfl
  have scaled := product_eq (show 8 * rank < UInt64.size by omega)
  have value := sum_eq (show 1 + 8 * rank < UInt64.size from fits)
  have half := upperHalf_eq (show 1 + 8 * rank < UInt64.size from fits)
  have found := Descent.findsRoot (show 0 < 1 + 8 * rank by omega) (by omega)
  have positive : 0 < Nat.sqrt (1 + 8 * rank) := Nat.sqrt_pos.mpr (by omega)
  have small : Nat.sqrt (1 + 8 * rank) < 2 ^ 32 := Nat.sqrt_lt.mpr (by omega)
  have rounded := sum_eq (show 1 + Nat.sqrt (1 + 8 * rank) < UInt64.size by omega)
  have between := count_half_sqrt rank
  have settled := settled_of_count (by omega) (by omega) between.1 between.2
  refine ⟨scaled, value, _, half, found, rounded, _, rfl, settled, ?_⟩
  rw [unrankWithin, scaled, ok_bind, value, ok_bind, half, ok_bind, found.result _ .stay, ok_bind,
    rounded, ok_bind, settled.lowered, ok_bind, settled.raised, ok_bind, settled.first, ok_bind,
    difference_eq between.1]
  rfl

/-- The greatest rank that fits. -/
theorem pair_found_at_root_of_greatest :
    1 + 8 * (2 ^ 61 - 1) < 2 ^ 64 ∧ lowerWithin (2 ^ 61 - 1) 2147483648 = .ok 2147483648 ∧
      raiseWithin (2 ^ 61 - 1) 2147483648 = .ok 2147483648 ∧
      unrankWithin (2 ^ 61 - 1) = .ok (1073741823, 2147483648) := by
  have fits : 1 + 8 * (2 ^ 61 - 1) < 2 ^ 64 := by decide
  rcases pair_found_at_root (2 ^ 61 - 1) fits with
    ⟨_, _, _, _, _, _, b, known, settled, unranked⟩
  have root : 4294967295 = Nat.sqrt (1 + 8 * (2 ^ 61 - 1)) :=
    Nat.eq_sqrt.mpr ⟨by decide, by decide⟩
  rw [← root] at known
  cases (show b = 2147483648 from known)
  exact ⟨fits, settled.lowered, settled.raised, unranked⟩

end Dilemma.Pairing
