import Dilemma.Interpretation.Interpreter
import Dilemma.Proofs.Interpretation.SharedCache

/-! # Interleaved interpretation

Any number of clients use one interpreter. A call looks up the cache, and after a
miss it resolves the text on its own and then settles with the cache. Between any
two of these turns others may do anything, storing interpretations of their own
under the same key included. A schedule is a list of turns in the order in which
they happen. -/

namespace Dilemma

/-! ## Clients

A client makes logics of templates, drafts and functions, and hands in what it
holds. Its own calls are idle, resolving, or about to settle. -/

inductive Blueprint where
  | template (template : Template) (seed : UInt64)
  | rule (draft : RuleDraft) (seed : UInt64)
  | fallback (function : DecisionFunction)

/-- A draft that is refused gives no logic. -/
def Blueprint.logic? : Blueprint → Option Logic
  | template chosen seed => some (.template chosen seed)
  | rule draft seed => (draft.check seed).toOption.map .rule
  | fallback function => some (.fallback function)

inductive Activity where
  | idle
  | resolving (entry : Entry)
  /-- The key is resolved, and the cache does not know yet. -/
  | resolved (fresh : Shared)

/-! ## Turns and what they return -/

inductive Event (Client : Type) where
  | interpreted (client : Client) (entry : Entry) (result : Shared)
  | stored (client : Client) (key : StrategyKey) (value : Shared)
      (outcome : Except CacheConflict Insertion)
  | fetched (client : Client) (key : StrategyKey) (result : Option Shared)

/-- A call for the key that did not come out as cached. -/
def Event.isFirst {Client : Type} (key : StrategyKey) : Event Client → Bool
  | interpreted _ entry result =>
      StrategyKey.ofText entry.text = key && result.competitor.provenance ≠ .cached
  | _ => false

/-- The end of a call of this client for this entry. -/
def Event.isAnswer {Client : Type} [DecidableEq Client] (client : Client) (entry : Entry) :
    Event Client → Bool
  | interpreted other named _ => other = client && named = entry
  | _ => false

inductive Turn (Client : Type) where
  | lookUp (client : Client) (entry : Entry)
  /-- An answer of the translator, or any failure on the way to one. -/
  | resolve (client : Client) (outcome : Except InterpretationError Answer)
  | settle (client : Client)
  | build (blueprint : Blueprint) (entry : Entry) (provenance : Provenance)
      (reason : Option String)
  /-- Another view of a logic that is held at a place. -/
  | relabel (place : Nat) (entry : Entry) (provenance : Provenance) (reason : Option String)
  | store (client : Client) (key : StrategyKey) (place : Nat)
  | fetch (client : Client) (key : StrategyKey)

structure World (Client : Type) where
  /-- Every logic object there is, by its address. -/
  heap : List Logic
  cache : SharedCache
  activity : Client → Activity
  held : List Shared
  events : List (Event Client)

namespace World

variable {Client : Type} [DecidableEq Client] {State : Type}

def start : World Client := ⟨[], .empty, fun _ => .idle, [], []⟩

/-! ## Parts of turns -/

def hold (world : World Client) (shared : Shared) : World Client :=
  { world with held := world.held ++ [shared] }

def report (world : World Client) (event : Event Client) : World Client :=
  { world with events := world.events ++ [event] }

def become (world : World Client) (client : Client) (activity : Activity) : World Client :=
  { world with activity := fun other => if other = client then activity else world.activity other }

def allocate (world : World Client) (logic : Logic) : World Client :=
  { world with heap := world.heap ++ [logic] }

/-- A call is over, and its client holds the result. -/
def answer (world : World Client) (client : Client) (entry : Entry) (result : Shared) :
    World Client :=
  ((world.become client .idle).hold result).report (.interpreted client entry result)

def lookUp (world : World Client) (client : Client) (entry : Entry) : World Client :=
  match world.cache.get? (.ofText entry.text) with
  | some stored => world.answer client entry (stored.rebind entry .cached)
  | none => world.become client (.resolving entry)

/-- Nobody else can see the new object. -/
def resolve (interpreter : Interpreter State) (world : World Client) (client : Client)
    (entry : Entry) (outcome : Except InterpretationError Answer) : World Client :=
  let fresh := interpreter.compete entry (outcome >>= Interpreter.logicOf (.ofText entry.text))
  (world.allocate fresh.logic).become client (.resolved ⟨world.heap.length, fresh⟩)

/-- The caller knows by the address whether its own object is the one stored. -/
def settle (world : World Client) (client : Client) (fresh : Shared) : World Client :=
  let (stored, cache) := world.cache.insertOrGet fresh.key fresh
  let entry := fresh.competitor.entry
  let result := if stored.address = fresh.address then fresh else stored.rebind entry .cached
  { world with cache }.answer client entry result

def build (world : World Client) (competitor : Competitor) : World Client :=
  (world.allocate competitor.logic).hold ⟨world.heap.length, competitor⟩

def store (world : World Client) (client : Client) (key : StrategyKey) (value : Shared) :
    World Client :=
  match world.cache.insert key value with
  | .ok (insertion, cache) => { world with cache }.report (.stored client key value (.ok insertion))
  | .error conflict => world.report (.stored client key value (.error conflict))

def fetch (world : World Client) (client : Client) (key : StrategyKey) : World Client :=
  match world.cache.get? key with
  | some stored => (world.hold stored).report (.fetched client key (some stored))
  | none => world.report (.fetched client key none)

/-! ## Schedules -/

/-- A turn that does not fit to the state of its client changes nothing. -/
def step (interpreter : Interpreter State) (world : World Client) : Turn Client → World Client
  | .lookUp client entry =>
      match world.activity client with
      | .idle => world.lookUp client entry
      | _ => world
  | .resolve client outcome =>
      match world.activity client with
      | .resolving entry => world.resolve interpreter client entry outcome
      | _ => world
  | .settle client =>
      match world.activity client with
      | .resolved fresh => world.settle client fresh
      | _ => world
  | .build blueprint entry provenance reason =>
      match blueprint.logic? with
      | some logic => world.build ⟨entry, logic, provenance, reason⟩
      | none => world
  | .relabel place entry provenance reason =>
      match world.held[place]? with
      | some shared =>
          world.hold ⟨shared.address, ⟨entry, shared.logic, provenance, reason⟩⟩
      | none => world
  | .store client key place =>
      match world.held[place]? with
      | some value => world.store client key value
      | none => world
  | .fetch client key => world.fetch client key

def run (interpreter : Interpreter State) (world : World Client)
    (schedule : List (Turn Client)) : World Client :=
  schedule.foldl (step interpreter) world

end World

end Dilemma
