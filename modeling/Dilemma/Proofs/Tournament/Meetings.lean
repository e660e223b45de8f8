import Mathlib.Data.List.Sym
import Mathlib.Tactic.Abel
import Dilemma.Proofs.Tournament.Schedule

/-! # Meetings

The schedule speaks of places. Read off a list of members, it says who meets whom,
and as an unordered pair a meeting does not depend on the places: exchanging members
permutes the meetings and turns some of them round. -/

namespace Dilemma.Pairing

variable {α : Type}

/-- The members at two places, if there are any. -/
def membersAt? (members : List α) (pair : Nat × Nat) : Option (α × α) := do
  return (← members[pair.1]?, ← members[pair.2]?)

def meetings (members : List α) : List (α × α) :=
  (schedule members.length).filterMap (membersAt? members)

/-- The two of a pair, no matter which is named first. -/
def unordered (pair : α × α) : Sym2 α := s(pair.1, pair.2)

theorem filterMap_range_getElem? (members : List α) :
    (List.range members.length).filterMap (members[·]?) = members := by
  induction members with
  | nil => rfl
  | cons member rest induction =>
      rw [List.length_cons, List.range_succ_eq_map, List.filterMap_cons, List.filterMap_map]
      exact congrArg (member :: ·) induction

/-! ## Growth -/

theorem meetings_append_singleton (members : List α) (last : α) :
    meetings (members ++ [last]) =
      meetings members ++ members.map fun member => (member, last) := by
  have earlier : ∀ place < members.length, (members ++ [last])[place]? = members[place]? :=
    fun place within => List.getElem?_append_left within
  have newest : (members ++ [last])[members.length]? = some last := List.getElem?_concat_length
  rw [meetings, List.length_append, List.length_singleton, schedule_succ, List.filterMap_append,
    List.filterMap_map]
  refine congrArg₂ (· ++ ·) ?_ ?_
  · refine List.filterMap_congr fun pair scheduled => ?_
    have bounds := lt_of_mem_schedule scheduled
    rw [membersAt?, membersAt?, earlier pair.1 (Nat.lt_trans bounds.1 bounds.2),
      earlier pair.2 bounds.2]
  · conv_rhs => rw [← filterMap_range_getElem? members]
    rw [List.map_filterMap]
    refine List.filterMap_congr fun place within => ?_
    rw [Function.comp_apply, membersAt?, earlier place (List.mem_range.mp within), newest]
    cases members[place]? <;> rfl

/-! ## Members in another order -/

/-- Together with each member alone, the meetings are all unordered pairs. -/
theorem meetings_sym2 (members : List α) :
    ((meetings members).map unordered ++ members.map fun member => s(member, member)).Perm
      members.sym2 := by
  induction members using List.reverseRecOn with
  | nil =>
      have none : meetings ([] : List α) = [] := by simp [meetings, schedule, count]
      simp [none, List.sym2]
  | append_singleton members last induction =>
      have moved : (members ++ [last]).sym2.Perm (last :: members).sym2 :=
        (List.perm_append_singleton last members).sym2
      have turned : (members.map fun member => (member, last)).map unordered =
          members.map fun member => s(last, member) := by
        rw [List.map_map]
        exact List.map_congr_left fun member _ => Sym2.eq_swap
      refine List.Perm.trans ?_ moved.symm
      rw [meetings_append_singleton, List.map_append, List.map_append, turned, List.sym2]
      refine List.Perm.trans ?_ (induction.append_left _)
      rw [← Multiset.coe_eq_coe]
      simp only [List.map_cons, List.map_nil, List.cons_append, ← Multiset.coe_add,
        ← Multiset.cons_coe, ← Multiset.singleton_add, Multiset.coe_nil]
      abel

theorem meetings_perm {members others : List α} (permuted : members.Perm others) :
    ((meetings members).map unordered).Perm ((meetings others).map unordered) := by
  have pairs := (meetings_sym2 members).trans (permuted.sym2.trans (meetings_sym2 others).symm)
  have alone := (permuted.map fun member => s(member, member)).append_left
    ((meetings others).map unordered)
  exact (List.perm_append_right_iff _).mp (pairs.trans alone.symm)

/-! ## Pairs in another order -/

theorem unordered_membersAt? (members : List α) (a b : Nat) :
    (membersAt? members (a, b)).map unordered = (membersAt? members (b, a)).map unordered := by
  rw [membersAt?, membersAt?]
  cases members[a]? with
  | none => cases members[b]? <;> rfl
  | some first =>
      cases members[b]? with
      | none => rfl
      | some second => exact congrArg some Sym2.eq_swap

/-- Both members of an unordered pair of places. -/
def membersOf? (members : List α) : Sym2 Nat → Option (Sym2 α) :=
  Sym2.lift ⟨fun a b => (membersAt? members (a, b)).map unordered, unordered_membersAt? members⟩

theorem lt_of_unordered_mem {participants : Nat} {pair : Nat × Nat}
    (member : unordered pair ∈ (schedule participants).map unordered) :
    pair.1 < participants ∧ pair.2 < participants := by
  rcases List.mem_map.mp member with ⟨⟨a, b⟩, scheduled, same⟩
  have bounds := lt_of_mem_schedule scheduled
  dsimp only at bounds
  rcases Sym2.eq_iff.mp same with ⟨first, second⟩ | ⟨first, second⟩
  · dsimp only at first second
    omega
  · dsimp only at first second
    omega

end Dilemma.Pairing
