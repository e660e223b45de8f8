import Dilemma.Interpretation.Key
import Dilemma.Strategy.Competitor

/-! # The cache of interpretations

A cache keeps one competitor for each key. What is stored first stays: later
submissions are only compared with it. -/

namespace Dilemma

structure Cache where
  entries : List (StrategyKey × Competitor)

/-- Another logic is already stored under the key. -/
structure CacheConflict where
  key : StrategyKey
  deriving DecidableEq

def CacheConflict.message (conflict : CacheConflict) : String :=
  s!"cache already holds a different interpretation for `{conflict.key.text}`"

/-- What storing did to the cache. -/
inductive Insertion where
  | new
  | unchanged
  deriving DecidableEq, Repr

namespace Cache

def empty : Cache := ⟨[]⟩

def get? (cache : Cache) (key : StrategyKey) : Option Competitor :=
  (cache.entries.find? (·.1 = key)).map (·.2)

def size (cache : Cache) : Nat := cache.entries.length

def isEmpty (cache : Cache) : Bool := cache.entries.isEmpty

/-- Add an entry for a key that has none. -/
def add (cache : Cache) (key : StrategyKey) (value : Competitor) : Cache :=
  ⟨cache.entries ++ [(key, value)]⟩

/-- Storing the same logic again changes nothing, storing another one is
refused. -/
def insert (cache : Cache) (key : StrategyKey) (value : Competitor) :
    Except CacheConflict (Insertion × Cache) :=
  match cache.get? key with
  | some existing =>
      if existing.sameLogic value then .ok (.unchanged, cache) else .error ⟨key⟩
  | none => .ok (.new, cache.add key value)

/-- Store unless the key is taken, and give what the key holds afterwards. -/
def insertOrGet (cache : Cache) (key : StrategyKey) (value : Competitor) :
    Competitor × Cache :=
  match cache.get? key with
  | some existing => (existing, cache)
  | none => (value, cache.add key value)

/-- Store without caring whether that is refused. -/
def submit (cache : Cache) (key : StrategyKey) (value : Competitor) : Cache :=
  match cache.insert key value with
  | .ok (_, cache) => cache
  | .error _ => cache

end Cache

end Dilemma
