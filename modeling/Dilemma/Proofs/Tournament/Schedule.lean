import Mathlib.Algebra.Group.Nat.Defs
import Mathlib.Data.Nat.Choose.Basic
import Mathlib.Order.Monotone.Basic
import Dilemma.Tournament.Pairing

/-! # The schedule

The first pair of each `b` has the triangular number of `b` as its rank, so the
ranks of `b` fill the space between two such numbers. Everything about the
schedule follows from its growth: one more participant adds, at the end, one
match against each of the others. -/

namespace Dilemma.Pairing

/-! ## Triangular numbers -/

theorem count_succ (participants : Nat) :
    count (participants + 1) = count participants + participants :=
  Nat.triangle_succ participants

theorem count_mono : Monotone count := by
  refine monotone_nat_of_le_succ fun participants => ?_
  rw [count_succ]
  omega

/-- A rank lies between the first ranks of at most one `b` and its successor. -/
theorem eq_of_count_le_of_lt {rank left right : Nat}
    (leftFrom : count left ≤ rank) (leftTo : rank < count (left + 1))
    (rightFrom : count right ≤ rank) (rightTo : rank < count (right + 1)) :
    left = right := by
  rcases Nat.lt_trichotomy left right with less | equal | greater
  · have above := count_mono (show left + 1 ≤ right from less)
    omega
  · exact equal
  · have above := count_mono (show right + 1 ≤ left from greater)
    omega

/-! ## From a rank to its pair -/

theorem count_lower_le (rank b : Nat) : count (lower rank b) ≤ rank := by
  induction b with
  | zero =>
      rw [lower, show count 0 = 0 from rfl]
      exact Nat.zero_le rank
  | succ b induction =>
      rw [lower]
      split
      · exact induction
      · rename_i reached
        exact Nat.le_of_not_lt reached

theorem raise_spec {rank b : Nat} (reached : count b ≤ rank) :
    count (raise rank b) ≤ rank ∧ rank < count (raise rank b + 1) := by
  induction b using raise.induct rank with
  | case1 b within induction =>
      rw [raise, dif_pos within]
      exact induction within
  | case2 b beyond =>
      rw [raise, dif_neg beyond]
      exact ⟨reached, Nat.lt_of_not_le beyond⟩

/-- The rank of the pair found is the rank asked for. -/
theorem unrank_spec (rank : Nat) :
    (unrank rank).1 < (unrank rank).2 ∧
      count (unrank rank).2 + (unrank rank).1 = rank := by
  have found := raise_spec (count_lower_le rank (estimate rank))
  rw [count_succ] at found
  have offset : (unrank rank).1 = rank - count (unrank rank).2 := rfl
  change count (unrank rank).2 ≤ rank ∧ rank < count (unrank rank).2 + (unrank rank).2 at found
  omega

/-- A pair is found by its rank. -/
theorem unrank_eq {a b : Nat} (ordered : a < b) : unrank (count b + a) = (a, b) := by
  have spec := unrank_spec (count b + a)
  have next := count_succ (unrank (count b + a)).2
  have within : count b + a < count (b + 1) := by
    rw [count_succ]
    omega
  have same : (unrank (count b + a)).2 = b :=
    eq_of_count_le_of_lt (by omega) (by omega) (Nat.le_add_right (count b) a) within
  rw [same] at spec
  exact Prod.ext (by omega) same

theorem unrank_lt {participants rank : Nat} (within : rank < count participants) :
    (unrank rank).2 < participants := by
  have spec := unrank_spec rank
  refine Nat.lt_of_not_le fun beyond => ?_
  have above := count_mono beyond
  omega

/-! ## Growth -/

theorem schedule_succ (participants : Nat) :
    schedule (participants + 1) =
      schedule participants ++ (List.range participants).map fun a => (a, participants) := by
  rw [schedule, count_succ, List.range_add, List.map_append, List.map_map, schedule]
  refine congrArg (_ ++ ·) (List.map_congr_left fun a member => ?_)
  exact unrank_eq (List.mem_range.mp member)

theorem length_schedule (participants : Nat) :
    (schedule participants).length = count participants := by
  rw [schedule, List.length_map, List.length_range]

theorem getElem?_schedule {participants rank : Nat} (within : rank < count participants) :
    (schedule participants)[rank]? = some (unrank rank) := by
  rw [schedule, List.getElem?_map, List.getElem?_range within, Option.map_some]

theorem lt_of_mem_schedule {participants : Nat} {pair : Nat × Nat}
    (member : pair ∈ schedule participants) : pair.1 < pair.2 ∧ pair.2 < participants := by
  rcases List.mem_map.mp member with ⟨rank, within, rfl⟩
  exact ⟨(unrank_spec rank).1, unrank_lt (List.mem_range.mp within)⟩

/-! ## Who meets whom

A participant is the greater one in as many pairs as there are participants
before it, and the smaller one in as many as there are after it. -/

theorem countP_range_eq (participant participants : Nat) :
    (List.range participants).countP (· = participant) =
      if participant < participants then 1 else 0 := by
  induction participants with
  | zero => rfl
  | succ participants induction =>
      rw [List.range_succ, List.countP_append, induction, List.countP_singleton]
      simp only [decide_eq_true_eq]
      split <;> split <;> split <;> omega

theorem countP_schedule_fst (participant participants : Nat) :
    (schedule participants).countP (·.1 = participant) = participants - 1 - participant := by
  induction participants with
  | zero =>
      rw [show schedule 0 = [] from rfl, List.countP_nil]
      omega
  | succ participants induction =>
      have last : ((List.range participants).map fun a => (a, participants)).countP
          (fun pair => decide (pair.1 = participant)) =
            if participant < participants then 1 else 0 := by
        rw [List.countP_map]
        exact countP_range_eq participant participants
      rw [schedule_succ, List.countP_append, induction, last]
      split <;> omega

theorem countP_schedule_snd (participant participants : Nat) :
    (schedule participants).countP (·.2 = participant) =
      if participant < participants then participant else 0 := by
  induction participants with
  | zero => rfl
  | succ participants induction =>
      have last : ((List.range participants).map fun a => (a, participants)).countP
          (fun pair => decide (pair.2 = participant)) =
            if participants = participant then participants else 0 := by
        rw [List.countP_map]
        split
        · rename_i equal
          rw [List.countP_eq_length.mpr, List.length_range]
          intro a member
          exact decide_eq_true equal
        · rename_i differs
          exact List.countP_eq_zero.mpr fun a member => by simpa using differs
      rw [schedule_succ, List.countP_append, induction, last]
      split <;> split <;> split <;> omega

/-- Everybody meets everybody else once. -/
theorem countP_schedule {participant participants : Nat}
    (within : participant < participants) :
    (schedule participants).countP (·.1 = participant) +
      (schedule participants).countP (·.2 = participant) = participants - 1 := by
  rw [countP_schedule_fst, countP_schedule_snd, if_pos within]
  omega

/-! ## Within 64 bits -/

theorem ofMatchWithin?_eq {participants index : Nat}
    (fits : participants * (participants - 1) ≤ 2 ^ 62)
    (within : index < count participants) :
    ofMatchWithin? participants index = .ok (some (unrank index)) := by
  have bound : count participants ≤ 2 ^ 61 := by
    rw [count]
    omega
  have counted : countWithin participants = .ok (count participants) :=
    countWithin_eq (Nat.lt_of_le_of_lt fits (by decide))
  have small : 8 * index < UInt64.size := by
    have : UInt64.size = 2 ^ 64 := rfl
    omega
  simp only [ofMatchWithin?, counted, product, bind, Except.bind, pure, Except.pure,
    if_pos within, if_pos small]

end Dilemma.Pairing
