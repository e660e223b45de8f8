import Dilemma.Proofs.Tournament.Words

/-! # Numbered pairs

Ranks number the pairs without a gap and without a repetition: a greater rank belongs to a
pair that comes later, and every pair below the number of participants has a rank below the
number of matches. -/

namespace Dilemma.Pairing

/-- Pairs are ordered by their greater part, and then by their smaller one. -/
def Before (earlier later : Nat × Nat) : Prop :=
  earlier.2 < later.2 ∨ earlier.2 = later.2 ∧ earlier.1 < later.1

theorem Before.ne {earlier later : Nat × Nat} (before : Before earlier later) :
    earlier ≠ later := by
  rintro rfl
  rcases before with less | ⟨_, less⟩
  · exact Nat.lt_irrefl _ less
  · exact Nat.lt_irrefl _ less

theorem before_unrank {earlier later : Nat} (less : earlier < later) :
    Before (unrank earlier) (unrank later) := by
  have first := unrank_spec earlier
  have second := unrank_spec later
  rcases Nat.lt_trichotomy (unrank earlier).2 (unrank later).2 with below | same | above
  · exact .inl below
  · rw [same] at first
    exact .inr ⟨same, by omega⟩
  · -- All ranks of the smaller `b` would come first.
    have next := count_mono (show (unrank later).2 + 1 ≤ (unrank earlier).2 from above)
    rw [count_succ] at next
    omega

theorem pairwise_schedule (participants : Nat) : (schedule participants).Pairwise Before :=
  List.pairwise_map.mpr (List.pairwise_lt_range.imp before_unrank)

theorem nodup_schedule (participants : Nat) : (schedule participants).Nodup :=
  (pairwise_schedule participants).imp Before.ne

theorem mem_schedule {participants a b : Nat} :
    (a, b) ∈ schedule participants ↔ a < b ∧ b < participants := by
  refine ⟨lt_of_mem_schedule, ?_⟩
  rintro ⟨ordered, within⟩
  have rank : count b + a < count participants := by
    have next := count_mono (show b + 1 ≤ participants from within)
    rw [count_succ] at next
    omega
  exact List.mem_map.mpr ⟨_, List.mem_range.mpr rank, unrank_eq ordered⟩

/-! ## Within words -/

section Fits

variable {participants : Nat} (fits : participants * (participants - 1) ≤ 2 ^ 62)

include fits

theorem countWithin_eq_of_le : countWithin participants = .ok (count participants) :=
  countWithin_eq (Nat.lt_of_le_of_lt fits (by decide))

theorem rank_fits {rank : Nat} (within : rank < count participants) :
    1 + 8 * rank < 2 ^ 64 := by
  have bound : count participants ≤ 2 ^ 61 := by
    rw [count]
    omega
  omega

theorem scheduleWithin_eq : scheduleWithin participants = .ok (schedule participants) := by
  rw [scheduleWithin, countWithin_eq_of_le fits, ok_bind]
  refine mapM_unrankWithin fun rank member => ?_
  have bound := rank_fits fits (List.mem_range.mp member)
  have size : UInt64.size = 2 ^ 64 := rfl
  omega

theorem ofMatchWithin?_eq_getElem? (index : Nat) :
    ofMatchWithin? participants index = .ok (schedule participants)[index]? := by
  by_cases within : index < count participants
  · rw [ofMatchWithin?_eq fits within, getElem?_schedule within]
  · have beyond : (schedule participants).length ≤ index := by
      rw [length_schedule]
      exact Nat.le_of_not_lt within
    rw [ofMatchWithin?, countWithin_eq_of_le fits, ok_bind, if_neg within,
      List.getElem?_eq_none beyond]
    rfl

end Fits

/-- A rank that fits has one pair, and nothing goes wrong on the way to it. -/
theorem exists_unrankWithin {rank : Nat} (fits : 1 + 8 * rank < 2 ^ 64) :
    ∃ a b, unrankWithin rank = .ok (a, b) ∧ a < b ∧ b * (b - 1) / 2 + a = rank ∧
      ∀ a' b', a' < b' → b' * (b' - 1) / 2 + a' = rank → (a', b') = (a, b) := by
  have size : UInt64.size = 2 ^ 64 := rfl
  have spec := unrank_spec rank
  refine ⟨_, _, unrankWithin_eq (by omega), spec.1, spec.2, ?_⟩
  rintro a b ordered rfl
  exact (unrank_eq ordered).symm

/-- The schedule holds every pair once, in order; its entries are found by their numbers; and
the pair of a rank is the only one with that rank. Up to the given bounds every operation
stays within words. -/
theorem pairs_numbered :
    (∀ participants, participants * (participants - 1) ≤ 2 ^ 62 →
      (∀ rank < count participants, 1 + 8 * rank < 2 ^ 64) ∧
      scheduleWithin participants = .ok (schedule participants) ∧
      (∀ a b, (a, b) ∈ schedule participants ↔ a < b ∧ b < participants) ∧
      (schedule participants).Nodup ∧ (schedule participants).Pairwise Before ∧
      countWithin participants = .ok (schedule participants).length ∧
      ∀ index, ofMatchWithin? participants index = .ok (schedule participants)[index]?) ∧
    (∀ participants index, ofMatchWithin? participants index = do
      if index < (← countWithin participants) then return some (← unrankWithin index)
      else return none) ∧
    ∀ rank, 1 + 8 * rank < 2 ^ 64 → ∃ a b, unrankWithin rank = .ok (a, b) ∧ a < b ∧
      b * (b - 1) / 2 + a = rank ∧
      ∀ a' b', a' < b' → b' * (b' - 1) / 2 + a' = rank → (a', b') = (a, b) := by
  refine ⟨fun participants fits => ?_, ofMatchWithin?_eq_unrankWithin,
    fun rank => exists_unrankWithin⟩
  refine ⟨fun rank => rank_fits fits, scheduleWithin_eq fits, fun a b => mem_schedule,
    nodup_schedule participants, pairwise_schedule participants, ?_,
    ofMatchWithin?_eq_getElem? fits⟩
  rw [length_schedule]
  exact countWithin_eq_of_le fits

/-- The greatest number of participants that is allowed, and the greatest rank that fits. -/
theorem pairs_numbered_to_the_end :
    2147483648 * (2147483648 - 1) ≤ 2 ^ 62 ∧
      ofMatchWithin? 2147483648 2305843008139952128 = .ok none ∧
      1 + 8 * (2 ^ 61 - 1) < 2 ^ 64 ∧
      unrankWithin (2 ^ 61 - 1) = .ok (1073741823, 2147483648) := by
  have allowed : 2147483648 * (2147483648 - 1) ≤ 2 ^ 62 := by decide
  have size : 1 + 8 * (2 ^ 61 - 1) < 2 ^ 64 := by decide
  refine ⟨allowed, ?_, size, ?_⟩
  · have known := pairs_numbered.1 2147483648 allowed
    rw [known.2.2.2.2.2.2, List.getElem?_eq_none (by rw [length_schedule]; decide)]
  · rcases pairs_numbered.2.2 (2 ^ 61 - 1) size with ⟨a, b, found, _, _, only⟩
    rw [found, ← only 1073741823 2147483648 (by decide) (by decide)]

end Dilemma.Pairing
