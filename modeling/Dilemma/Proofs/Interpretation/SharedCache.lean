import Dilemma.Interpretation.Cache

/-! # Competitors as shared objects

Copies of a competitor share its logic, so whoever compares addresses can tell a
copy from an equal logic that was made apart. The cache of plain competitors
cannot show this difference. Here every competitor carries the address of its
logic, and forgetting the addresses gives the plain cache back. -/

namespace Dilemma

/-- A competitor whose logic lies at an address. -/
structure Shared where
  address : Nat
  competitor : Competitor

namespace Shared

def logic (shared : Shared) : Logic := shared.competitor.logic

def key (shared : Shared) : StrategyKey := .ofText shared.competitor.entry.text

/-- The same logic object under another entry. -/
def rebind (shared : Shared) (entry : Entry) (provenance : Provenance) : Shared :=
  { shared with competitor := shared.competitor.rebind entry provenance }

/-- The same object, or else equal logics. -/
def sameResult (left right : Shared) : Bool :=
  left.address = right.address || left.competitor.sameLogic right.competitor

end Shared

structure SharedCache where
  entries : List (StrategyKey × Shared)

namespace SharedCache

def empty : SharedCache := ⟨[]⟩

def get? (cache : SharedCache) (key : StrategyKey) : Option Shared :=
  (cache.entries.find? (·.1 = key)).map (·.2)

def add (cache : SharedCache) (key : StrategyKey) (value : Shared) : SharedCache :=
  ⟨cache.entries ++ [(key, value)]⟩

def insert (cache : SharedCache) (key : StrategyKey) (value : Shared) :
    Except CacheConflict (Insertion × SharedCache) :=
  match cache.get? key with
  | some existing => if existing.sameResult value then .ok (.unchanged, cache) else .error ⟨key⟩
  | none => .ok (.new, cache.add key value)

def insertOrGet (cache : SharedCache) (key : StrategyKey) (value : Shared) :
    Shared × SharedCache :=
  match cache.get? key with
  | some existing => (existing, cache)
  | none => (value, cache.add key value)

/-! ## Looking up -/

theorem get?_add_self {cache : SharedCache} {key : StrategyKey} (value : Shared)
    (absent : cache.get? key = none) : (cache.add key value).get? key = some value := by
  have nowhere := Option.map_eq_none_iff.mp absent
  rw [get?, add, List.find?_append, nowhere]
  simp

/-- What is there stays, whatever is added. -/
theorem get?_add_of_get? {cache : SharedCache} {key : StrategyKey} {value : Shared}
    (other : StrategyKey) (added : Shared) (found : cache.get? key = some value) :
    (cache.add other added).get? key = some value := by
  rcases Option.map_eq_some_iff.mp found with ⟨pair, first, rfl⟩
  rw [get?, add, List.find?_append, first]
  rfl

/-! ## Forgetting addresses -/

/-- The same cache without the addresses. -/
def contents (cache : SharedCache) : Cache :=
  ⟨cache.entries.map fun pair => (pair.1, pair.2.competitor)⟩

theorem contents_get? (cache : SharedCache) (key : StrategyKey) :
    cache.contents.get? key = (cache.get? key).map (·.competitor) := by
  rw [Cache.get?, contents, List.find?_map, Option.map_map, get?, Option.map_map]
  rfl

theorem contents_add (cache : SharedCache) (key : StrategyKey) (value : Shared) :
    (cache.add key value).contents = cache.contents.add key value.competitor := by
  rw [contents, add, List.map_append]
  rfl

theorem contents_insertOrGet (cache : SharedCache) (key : StrategyKey) (value : Shared) :
    cache.contents.insertOrGet key value.competitor =
      ((cache.insertOrGet key value).1.competitor,
        (cache.insertOrGet key value).2.contents) := by
  rw [Cache.insertOrGet, insertOrGet, contents_get?]
  cases cache.get? key with
  | none => exact congrArg (Prod.mk _) (contents_add cache key value).symm
  | some existing => rfl

/-- Comparing addresses first is a shortcut where one object is always the same
as itself. -/
theorem contents_insert {cache : SharedCache} {key : StrategyKey} {value : Shared}
    (shortcut : ∀ existing, cache.get? key = some existing →
      existing.sameResult value = existing.competitor.sameLogic value.competitor) :
    cache.contents.insert key value.competitor =
      (cache.insert key value).map fun result => (result.1, result.2.contents) := by
  rw [Cache.insert, insert, contents_get?]
  cases found : cache.get? key with
  | none =>
      dsimp only [Option.map_none, Except.map]
      rw [contents_add]
  | some existing =>
      dsimp only [Option.map_some]
      rw [shortcut existing found]
      split
      · rfl
      · rfl

end SharedCache

end Dilemma
