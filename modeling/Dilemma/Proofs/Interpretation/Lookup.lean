import Mathlib.Data.List.Nodup
import Dilemma.Interpretation.Cache

/-! # Lookup in the cache

What a key holds after competitors have been stored. The first to come stays,
whoever stores something afterwards. -/

namespace Dilemma

/-- With distinct keys a pair is found under its key. -/
theorem find?_of_mem {Key Value : Type} [DecidableEq Key] {pairs : List (Key × Value)}
    (distinct : (pairs.map (·.1)).Nodup) {pair : Key × Value}
    (member : pair ∈ pairs) : pairs.find? (·.1 = pair.1) = some pair := by
  induction pairs with
  | nil => cases member
  | cons head tail induction =>
      rcases List.nodup_cons.mp distinct with ⟨apart, rest⟩
      rcases List.mem_cons.mp member with rfl | later
      · rw [List.find?_cons, decide_eq_true rfl]
      · have different : head.1 ≠ pair.1 := fun equal =>
          apart (List.mem_map.mpr ⟨pair, later, equal.symm⟩)
        rw [List.find?_cons, decide_eq_false different]
        exact induction rest later

theorem mem_of_find? {Key Value : Type} [DecidableEq Key] {pairs : List (Key × Value)}
    {key : Key} {value : Value} (found : (pairs.find? (·.1 = key)).map (·.2) = some value) :
    (key, value) ∈ pairs := by
  rcases Option.map_eq_some_iff.mp found with ⟨⟨other, stored⟩, first, rfl⟩
  have named := List.find?_some first
  rw [decide_eq_true_eq] at named
  rw [← named]
  exact List.mem_of_find?_eq_some first

namespace Cache

variable (cache : Cache)

theorem get?_add (key other : StrategyKey) (value : Competitor) :
    (cache.add key value).get? other =
      (cache.get? other).or (if key = other then some value else none) := by
  rw [get?, get?, add, List.find?_append]
  cases cache.entries.find? (·.1 = other) with
  | some pair => rfl
  | none =>
      by_cases equal : key = other
      · simp [equal]
      · simp [equal]

theorem get?_add_self {cache : Cache} {key : StrategyKey} (value : Competitor)
    (missing : cache.get? key = none) : (cache.add key value).get? key = some value := by
  rw [get?_add, missing, if_pos rfl]
  rfl

theorem get?_add_other {key other : StrategyKey} (value : Competitor)
    (different : key ≠ other) : (cache.add key value).get? other = cache.get? other := by
  rw [get?_add, if_neg different, Option.or_none]

theorem get?_submit (key other : StrategyKey) (value : Competitor) :
    (cache.submit key value).get? other =
      (cache.get? other).or (if key = other then some value else none) := by
  cases found : cache.get? key with
  | none =>
      rw [submit, insert, found]
      exact cache.get?_add key other value
  | some existing =>
      have unchanged : cache.submit key value = cache := by
        rw [submit, insert, found]
        dsimp only
        split
        · rename_i inserted
          split at inserted
          · cases inserted
            rfl
          · cases inserted
        · rfl
      rw [unchanged]
      by_cases equal : key = other
      · rw [← equal, found, Option.some_or]
      · rw [if_neg equal, Option.or_none]

/-- Of all that is handed in for a key that was free, the first counts. -/
theorem get?_submitAll (submissions : List (StrategyKey × Competitor)) (key : StrategyKey) :
    (submissions.foldl (fun cache (key, value) => cache.submit key value) cache).get? key =
      (cache.get? key).or ((submissions.find? (·.1 = key)).map (·.2)) := by
  induction submissions generalizing cache with
  | nil => rw [List.foldl_nil, List.find?_nil, Option.map_none, Option.or_none]
  | cons submission rest induction =>
      rw [List.foldl_cons, induction, get?_submit, Option.or_assoc, List.find?_cons]
      by_cases equal : submission.1 = key
      · simp [equal]
      · simp [equal]

/-! ## Caches that have grown -/

/-- The second cache is the first one with new keys, each of them added once. -/
def Grows (before after : Cache) : Prop :=
  ∃ added, after.entries = before.entries ++ added ∧ (added.map (·.1)).Nodup ∧
    ∀ pair ∈ added, before.get? pair.1 = none

theorem Grows.refl : cache.Grows cache :=
  ⟨[], (List.append_nil _).symm, List.nodup_nil, fun _ member => by cases member⟩

variable {cache} {left right : Cache}

theorem Grows.add {after : Cache} (grows : cache.Grows after) {key : StrategyKey}
    (value : Competitor) (missing : after.get? key = none) :
    cache.Grows (after.add key value) := by
  rcases grows with ⟨added, entries, distinct, new⟩
  rw [get?, entries, List.find?_append, Option.map_eq_none_iff, Option.or_eq_none_iff] at missing
  rcases missing with ⟨before, unknown⟩
  refine ⟨added ++ [(key, value)], ?_, ?_, ?_⟩
  · rw [Cache.add, entries, List.append_assoc]
  · rw [List.map_append, List.map_singleton, ← List.concat_eq_append]
    refine distinct.concat fun member => ?_
    rcases List.mem_map.mp member with ⟨pair, known, equal⟩
    exact List.find?_eq_none.mp unknown pair known (decide_eq_true equal)
  · intro pair member
    rcases List.mem_append.mp member with old | last
    · exact new pair old
    · rw [List.mem_singleton.mp last]
      exact Option.map_eq_none_iff.mpr before

/-- What has been added is what is found now and was not found before. -/
theorem Grows.stored {after : Cache} (grows : cache.Grows after) :
    ∃ added, after.entries = cache.entries ++ added ∧ added.Nodup ∧
      ∀ pair, pair ∈ added ↔ cache.get? pair.1 = none ∧ after.get? pair.1 = some pair.2 := by
  rcases grows with ⟨added, entries, distinct, new⟩
  refine ⟨added, entries, List.Nodup.of_map _ distinct, fun pair => ?_⟩
  have looked : after.get? pair.1 =
      (cache.get? pair.1).or ((added.find? (·.1 = pair.1)).map (·.2)) := by
    rw [get?, get?, entries, List.find?_append, Option.map_or]
  constructor
  · intro member
    have missing := new pair member
    rw [looked, missing, find?_of_mem distinct member]
    exact ⟨rfl, rfl⟩
  · rintro ⟨missing, found⟩
    rw [looked, missing, Option.none_or] at found
    rcases Option.map_eq_some_iff.mp found with ⟨other, first, value⟩
    have named := List.find?_some first
    rw [decide_eq_true_eq] at named
    rw [← Prod.ext named value]
    exact List.mem_of_find?_eq_some first

/-- Two caches that have grown from one and answer alike hold the same. -/
theorem Grows.perm (leftGrows : cache.Grows left) (rightGrows : cache.Grows right)
    (same : ∀ key, left.get? key = right.get? key) : left.entries.Perm right.entries := by
  rcases leftGrows.stored with ⟨leftAdded, leftEntries, leftDistinct, leftStored⟩
  rcases rightGrows.stored with ⟨rightAdded, rightEntries, rightDistinct, rightStored⟩
  rw [leftEntries, rightEntries]
  refine List.Perm.append_left _ ?_
  rw [List.perm_ext_iff_of_nodup leftDistinct rightDistinct]
  intro pair
  rw [leftStored, rightStored, same]

end Cache

end Dilemma
