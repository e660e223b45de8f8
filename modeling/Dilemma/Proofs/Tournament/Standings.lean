import Mathlib.Algebra.BigOperators.Group.List.Basic
import Mathlib.Algebra.Ring.Int.Defs
import Mathlib.Algebra.Ring.Nat
import Dilemma.Tournament.Report

/-! # Standings of a run

A match changes every standing on its own, by the seats in which the name sits.
A run of matches can therefore be followed for one name at a time, and what it
adds to a standing is read off the appearances of that name. -/

namespace Dilemma

namespace NameMap

variable {α : Type}

/-! ## Maps from lists -/

theorem insertInto_perm {name : String} {value : α} {entries : List (String × α)}
    (fresh : name ∉ entries.map (·.1)) :
    (insertInto name value entries).Perm ((name, value) :: entries) := by
  induction entries with
  | nil => exact List.Perm.refl _
  | cons entry rest induction =>
      rcases entry with ⟨other, existing⟩
      rw [List.map_cons, List.mem_cons, not_or] at fresh
      rw [insertInto]
      split
      · exact List.Perm.refl _
      · rw [if_neg fresh.1]
        exact ((induction fresh.2).cons _).trans (List.Perm.swap _ _ _)

theorem foldl_insert_perm (pairs : List (String × α)) (map : NameMap α)
    (distinct : (map.names ++ pairs.map (·.1)).Nodup) :
    (pairs.foldl (fun map pair => map.insert pair.1 pair.2) map).entries.Perm
      (map.entries ++ pairs) := by
  induction pairs generalizing map with
  | nil =>
      rw [List.foldl_nil, List.append_nil]
  | cons pair rest induction =>
      have fresh : pair.1 ∉ map.names := by
        intro member
        rw [List.nodup_append] at distinct
        exact distinct.2.2 pair.1 member pair.1 (List.mem_cons_self ..) rfl
      have inserted : (map.insert pair.1 pair.2).entries.Perm (pair :: map.entries) :=
        insertInto_perm fresh
      have moved : (map.names ++ pair.1 :: rest.map (·.1)).Perm
          ((map.insert pair.1 pair.2).names ++ rest.map (·.1)) :=
        List.perm_middle.trans ((inserted.map (·.1)).symm.append_right _)
      rw [List.foldl_cons]
      refine (induction _ (moved.nodup_iff.mp distinct)).trans ?_
      exact (inserted.append_right rest).trans List.perm_middle.symm

/-- Distinct names all keep their values. -/
theorem ofList_perm {pairs : List (String × α)} (distinct : (pairs.map (·.1)).Nodup) :
    (ofList pairs).entries.Perm pairs :=
  foldl_insert_perm pairs empty distinct

/-! ## Order of names -/

/-- Maps with the same entries have them in the same order. -/
theorem eq_of_perm {map other : NameMap α} (same : map.entries.Perm other.entries) :
    map = other := by
  refine NameMap.ext (same.eq_of_pairwise ?_ map.sorted other.sorted)
  intro left right _ _ less greater
  exact absurd greater (String.lt_asymm less)

/-- A map has no entry that it was not given. -/
theorem mem_ofList {pairs : List (String × α)} {entry : String × α}
    (member : entry ∈ (ofList pairs).entries) : entry ∈ pairs := by
  suffices kept : ∀ map : NameMap α,
      entry ∈ (pairs.foldl (fun map pair => map.insert pair.1 pair.2) map).entries →
        entry ∈ map.entries ∨ entry ∈ pairs from
    (kept empty member).resolve_left List.not_mem_nil
  clear member
  induction pairs with
  | nil => exact fun _ kept => .inl kept
  | cons pair rest induction =>
      intro map member
      rcases induction _ member with earlier | later
      · exact (mem_insertInto earlier).symm.imp_right fun same => List.mem_cons.mpr (.inl same)
      · exact .inr (List.mem_cons_of_mem pair later)

/-- A map does not remember the order in which it was filled. -/
theorem ofList_congr {pairs others : List (String × α)} (permuted : pairs.Perm others)
    (distinct : (pairs.map (·.1)).Nodup) : ofList pairs = ofList others := by
  have otherDistinct := (permuted.map (·.1)).nodup_iff.mp distinct
  have entries := (ofList_perm distinct).trans (permuted.trans (ofList_perm otherDistinct).symm)
  exact eq_of_perm entries

/-! ## Changed values -/

theorem entries_modify (map : NameMap α) (name : String) (change : α → α) :
    (map.modify name change).entries = map.entries.map fun entry =>
      (entry.1, if entry.1 = name then change entry.2 else entry.2) := by
  refine List.map_congr_left fun entry member => ?_
  by_cases same : entry.1 = name
  · rw [if_pos same, if_pos same]
  · rw [if_neg same, if_neg same]

theorem names_modify (map : NameMap α) (name : String) (change : α → α) :
    (map.modify name change).names = map.names := by
  rw [names, entries_modify, List.map_map]
  rfl

end NameMap

/-! ## Appearances -/

namespace Match

/-- A match once for each seat in which the name sits. -/
def appearances (name : String) (game : Match) : List (Match × Seat) :=
  ([Seat.a, Seat.b].filter (game.player · = name)).map (game, ·)

theorem eq_of_mem_appearances {name : String} {game : Match} {seen : Match × Seat}
    (member : seen ∈ game.appearances name) : seen.1 = game := by
  rcases List.mem_map.mp member with ⟨seat, _, rfl⟩
  rfl

theorem length_appearances (name : String) (game : Match) :
    (game.appearances name).length =
      (if game.playerA = name then 1 else 0) + (if game.playerB = name then 1 else 0) := by
  rw [appearances, List.length_map, List.filter_cons, List.filter_cons, List.filter_nil]
  by_cases first : game.playerA = name <;> by_cases second : game.playerB = name <;>
    simp [player, first, second]

theorem length_flatMap_appearances (name : String) (games : List Match) :
    (games.flatMap (appearances name)).length =
      games.countP (·.playerA = name) + games.countP (·.playerB = name) := by
  induction games with
  | nil => rfl
  | cons game rest induction =>
      rw [List.flatMap_cons, List.length_append, induction, length_appearances,
        List.countP_cons, List.countP_cons]
      simp only [decide_eq_true_eq]
      omega

theorem sum_roundCount {seen : List (Match × Seat)} {rounds : Nat}
    (uniform : ∀ appearance ∈ seen, appearance.1.roundCount = rounds) :
    (seen.map (·.1.roundCount)).sum = seen.length * rounds := by
  induction seen with
  | nil => exact (Nat.zero_mul rounds).symm
  | cons appearance rest induction =>
      rw [List.map_cons, List.sum_cons, List.length_cons,
        uniform appearance (List.mem_cons_self ..),
        induction fun other member => uniform other (List.mem_cons_of_mem _ member),
        Nat.succ_mul, Nat.add_comm]

end Match

namespace Standing

/-- Count appearances one after the other. -/
def absorbAll (seen : List (Match × Seat)) (standing : Standing) : Standing :=
  seen.foldl (fun standing appearance => standing.absorb appearance.1 appearance.2) standing

theorem absorbAll_append (left right : List (Match × Seat)) (standing : Standing) :
    standing.absorbAll (left ++ right) = (standing.absorbAll left).absorbAll right :=
  List.foldl_append

/-- Every count grows by the sum over the appearances. -/
theorem absorbAll_eq (seen : List (Match × Seat)) (standing : Standing) :
    standing.absorbAll seen =
      { standing with
        totalScore := standing.totalScore + (seen.map fun (game, seat) => game.total seat).sum
        matchesPlayed := standing.matchesPlayed + seen.length
        roundsPlayed := standing.roundsPlayed + (seen.map (·.1.roundCount)).sum
        cooperations :=
          standing.cooperations + (seen.map fun (game, seat) => game.cooperations seat).sum
        anomalies :=
          standing.anomalies +
            (seen.map fun (game, seat) => (game.anomaliesOf seat).length).sum } := by
  induction seen generalizing standing with
  | nil =>
      simp only [List.map_nil, List.sum_nil, List.length_nil, Int.add_zero, Nat.add_zero]
      rfl
  | cons appearance rest induction =>
      have following := induction (standing.absorb appearance.1 appearance.2)
      simp only [List.map_cons, List.sum_cons, List.length_cons, ← Int.add_assoc, ← Nat.add_assoc,
        Nat.add_right_comm _ rest.length]
      exact following

theorem name_absorbAll (seen : List (Match × Seat)) (standing : Standing) :
    (standing.absorbAll seen).name = standing.name := by
  rw [absorbAll_eq]

theorem matchesPlayed_absorbAll (seen : List (Match × Seat)) (standing : Standing) :
    (standing.absorbAll seen).matchesPlayed = standing.matchesPlayed + seen.length := by
  rw [absorbAll_eq]

theorem roundsPlayed_absorbAll (seen : List (Match × Seat)) (standing : Standing) :
    (standing.absorbAll seen).roundsPlayed =
      standing.roundsPlayed + (seen.map (·.1.roundCount)).sum := by
  rw [absorbAll_eq]

end Standing

/-! ## Recording -/

namespace Report

theorem entries_absorbSeat (game : Match) (standings : NameMap Standing) (seat : Seat) :
    (absorbSeat game standings seat).entries = standings.entries.map fun entry =>
      (entry.1, if game.player seat = entry.1 then entry.2.absorb game seat else entry.2) := by
  rw [absorbSeat, NameMap.entries_modify]
  simp only [eq_comm]

theorem entries_record (report : Report) (game : Match) :
    (report.record game).standings.entries = report.standings.entries.map fun entry =>
      (entry.1, entry.2.absorbAll (game.appearances entry.1)) := by
  rw [record, List.foldl_cons, List.foldl_cons, List.foldl_nil, entries_absorbSeat,
    entries_absorbSeat, List.map_map]
  refine List.map_congr_left fun entry member => Prod.ext rfl ?_
  by_cases first : game.player .a = entry.1 <;> by_cases second : game.player .b = entry.1 <;>
    simp [Match.appearances, Standing.absorbAll, first, second]

/-- A run adds to each standing the appearances of its name, in their order. -/
theorem entries_recordAll (games : List Match) (report : Report) :
    (games.foldl record report).standings.entries = report.standings.entries.map fun entry =>
      (entry.1, entry.2.absorbAll (games.flatMap (Match.appearances entry.1))) := by
  induction games generalizing report with
  | nil => exact (List.map_id _).symm
  | cons game rest induction =>
      rw [List.foldl_cons, induction, entries_record, List.map_map]
      refine List.map_congr_left fun entry member => Prod.ext rfl ?_
      rw [List.flatMap_cons, Standing.absorbAll_append]
      rfl

theorem names_recordAll (games : List Match) (report : Report) :
    (games.foldl record report).standings.names = report.standings.names := by
  rw [NameMap.names, entries_recordAll, List.map_map]
  rfl

theorem played_recordAll (games : List Match) (report : Report) :
    (games.foldl record report).played = report.played ++ games := by
  induction games generalizing report with
  | nil => exact (List.append_nil _).symm
  | cons game rest induction =>
      rw [List.foldl_cons, induction]
      exact (List.append_assoc ..)

end Report

end Dilemma
