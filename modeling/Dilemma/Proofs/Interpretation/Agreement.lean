import Dilemma.Proofs.Interpretation.Objects

/-! # Agreement of interleaved calls

Whatever the schedule, a turn changes the world in one of a few ways. The two
invariants, one about objects and one about what calls have returned, go through
all of them, and together they say that all calls for one key agree. -/

namespace Dilemma.World

variable {Client : Type} {world after : World Client}

/-! ## What calls have returned -/

/-- A result is the stored object under the entry of the call, and where it is not
marked as cached it is the stored value itself. -/
def Served (world : World Client) (entry : Entry) (result : Shared) : Prop :=
  ∃ stored, world.cache.get? (.ofText entry.text) = some stored ∧
    (result = stored.rebind entry .cached ∨
      result = stored ∧ stored.competitor.entry = entry)

/-- The result of a call has the object that is stored for its key. -/
theorem Served.object {entry : Entry} {result : Shared} (served : world.Served entry result) :
    result.competitor.entry = entry ∧
      ∃ stored, world.cache.get? (.ofText entry.text) = some stored ∧
        result.address = stored.address ∧ result.logic = stored.logic ∧
        (result.competitor.provenance ≠ .cached → result = stored) := by
  rcases served with ⟨stored, found, rfl | ⟨rfl, own⟩⟩
  · exact ⟨rfl, stored, found, rfl, rfl, fun fresh => absurd rfl fresh⟩
  · exact ⟨own, result, found, rfl, rfl, fun _ => rfl⟩

structure Recorded (world : World Client) : Prop where
  served : ∀ client entry result, .interpreted client entry result ∈ world.events →
    world.Served entry result
  first : ∀ key, world.events.countP (·.isFirst key) ≤ 1

theorem Recorded.start : (start : World Client).Recorded where
  served := fun _ _ _ member => by cases member
  first := fun _ => Nat.zero_le 1

/-- What is stored in the one is stored in the other. -/
def Keeps (world after : World Client) : Prop :=
  ∀ key stored, world.cache.get? key = some stored → after.cache.get? key = some stored

theorem Served.keep {entry : Entry} {result : Shared} (served : world.Served entry result)
    (keeps : world.Keeps after) : after.Served entry result := by
  rcases served with ⟨stored, found, shape⟩
  exact ⟨stored, keeps _ _ found, shape⟩

theorem isFirst_iff {event : Event Client} {key : StrategyKey} :
    event.isFirst key = true ↔ ∃ client entry result,
      event = .interpreted client entry result ∧ StrategyKey.ofText entry.text = key ∧
        result.competitor.provenance ≠ .cached := by
  cases event with
  | interpreted client entry result =>
      simp only [Event.isFirst, Bool.and_eq_true, decide_eq_true_eq]
      constructor
      · exact fun first => ⟨client, entry, result, rfl, first⟩
      · rintro ⟨_, _, _, ⟨⟩, first⟩
        exact first
  | stored client key value outcome => simp [Event.isFirst]
  | fetched client key result => simp [Event.isFirst]

/-- Nothing new has been returned to a call. -/
theorem Recorded.silent (recorded : world.Recorded) {others : List (Event Client)}
    (keeps : world.Keeps after) (events : after.events = world.events ++ others)
    (silent : ∀ client entry result, .interpreted client entry result ∉ others) :
    after.Recorded where
  served := by
    intro client entry result member
    rw [events, List.mem_append] at member
    rcases member with old | new
    · exact (recorded.served client entry result old).keep keeps
    · exact absurd new (silent client entry result)
  first := by
    intro key
    have none : others.countP (·.isFirst key) = 0 := by
      refine List.countP_eq_zero.mpr fun event member isFirst => ?_
      rcases isFirst_iff.mp isFirst with ⟨client, entry, result, rfl, _⟩
      exact silent client entry result member
    rw [events, List.countP_append, none]
    exact recorded.first key

/-- A key that holds nothing has not been served to anybody. -/
theorem Recorded.no_first (recorded : world.Recorded) {key : StrategyKey}
    (absent : world.cache.get? key = none) : world.events.countP (·.isFirst key) = 0 := by
  refine List.countP_eq_zero.mpr fun event member isFirst => ?_
  rcases isFirst_iff.mp isFirst with ⟨client, entry, result, rfl, rfl, _⟩
  rcases recorded.served client entry result member with ⟨stored, found, _⟩
  rw [absent] at found
  cases found

/-- A result is new only where the key had none. -/
theorem Recorded.interpreted (recorded : world.Recorded) {client : Client} {entry : Entry}
    {result : Shared} (keeps : world.Keeps after)
    (events : after.events = world.events ++ [.interpreted client entry result])
    (served : after.Served entry result)
    (new : result.competitor.provenance = .cached ∨
      world.cache.get? (.ofText entry.text) = none) : after.Recorded where
  served := by
    intro other otherEntry otherResult member
    rw [events, List.mem_append, List.mem_singleton] at member
    rcases member with old | equal
    · exact (recorded.served other otherEntry otherResult old).keep keeps
    · cases equal
      exact served
  first := by
    intro key
    rw [events, List.countP_append, List.countP_singleton]
    split
    · rename_i isNew
      rcases isFirst_iff.mp isNew with ⟨_, _, _, ⟨⟩, rfl, uncached⟩
      -- A second call cannot be new: the first one has left its object in the cache.
      rcases new with cached | absent
      · exact absurd cached uncached
      · exact Nat.le_of_eq (congrArg (· + 1) (recorded.no_first absent))
    · exact recorded.first key

/-! ## What a turn can do -/

theorem store_of_none (client : Client) {key : StrategyKey} (value : Shared)
    (absent : world.cache.get? key = none) :
    world.store client key value =
      { world with cache := world.cache.add key value }.report
        (.stored client key value (.ok .new)) := by
  simp only [store, SharedCache.insert, absent]

theorem store_of_some (client : Client) {key : StrategyKey} (value : Shared)
    {existing : Shared} (found : world.cache.get? key = some existing) :
    world.store client key value = world.report (.stored client key value
      (if existing.sameResult value then .ok .unchanged else .error ⟨key⟩)) := by
  simp only [store, SharedCache.insert, found]
  by_cases same : existing.sameResult value
  · simp only [if_pos same]
  · simp only [if_neg same]

/-- Storing succeeds if the key then holds an equal logic, and otherwise does nothing. -/
theorem Sound.store_spec (sound : world.Sound) (client : Client) (key : StrategyKey)
    {value : Shared} (known : value ∈ world.held) :
    ∃ outcome,
      (world.store client key value).events =
        world.events ++ [.stored client key value outcome] ∧
      ((∃ insertion, outcome = .ok insertion) ↔
        ∃ stored, (world.store client key value).cache.get? key = some stored ∧
          stored.competitor.sameLogic value.competitor = true) ∧
      ∀ conflict, outcome = .error conflict →
        (world.store client key value).cache = world.cache := by
  have member := visible_of_held known
  cases taken : world.cache.get? key with
  | none =>
      have now := SharedCache.get?_add_self value taken
      have same := sound.same _ (List.mem_of_getElem? (sound.located value member))
      rw [store_of_none client value taken]
      refine ⟨_, rfl, ⟨fun _ => ⟨value, now, same⟩, fun _ => ⟨_, rfl⟩⟩, ?_⟩
      intro conflict refused
      cases refused
  | some existing =>
      have compared := sound.sameResult_eq (visible_of_get? taken) member
      rw [store_of_some client value taken]
      refine ⟨_, rfl, ?_, fun _ _ => rfl⟩
      rw [compared]
      constructor
      · rintro ⟨insertion, accepted⟩
        split at accepted
        · rename_i same
          exact ⟨existing, taken, same⟩
        · cases accepted
      · rintro ⟨stored, found, same⟩
        have equal : existing = stored := Option.some.inj (taken.symm.trans found)
        rw [equal, if_pos same]
        exact ⟨_, rfl⟩

variable [DecidableEq Client] {State : Type}

theorem settle_of_none (client : Client) {fresh : Shared}
    (absent : world.cache.get? fresh.key = none) :
    world.settle client fresh =
      { world with cache := world.cache.add fresh.key fresh }.answer client
        fresh.competitor.entry fresh := by
  simp only [settle, SharedCache.insertOrGet, absent, if_true]

theorem settle_of_some (client : Client) {fresh stored : Shared}
    (found : world.cache.get? fresh.key = some stored)
    (apart : stored.address ≠ fresh.address) :
    world.settle client fresh =
      world.answer client fresh.competitor.entry
        (stored.rebind fresh.competitor.entry .cached) := by
  simp only [settle, SharedCache.insertOrGet, found, if_neg apart]

/-- Everything that can become of a world in one turn. -/
inductive Change (world : World Client) : World Client → Prop
  | nothing : Change world world
  | missed (client : Client) (entry : Entry) :
      Change world (world.become client (.resolving entry))
  | resolved (client : Client) (fresh : Competitor)
      (same : fresh.logic.same fresh.logic = true) :
      Change world ((world.allocate fresh.logic).become client
        (.resolved ⟨world.heap.length, fresh⟩))
  /-- A hit at once, or a race that somebody else has won. -/
  | served (client : Client) (entry : Entry) {stored : Shared}
      (found : world.cache.get? (.ofText entry.text) = some stored) :
      Change world (world.answer client entry (stored.rebind entry .cached))
  | won (client : Client) {fresh : Shared} (own : world.activity client = .resolved fresh)
      (absent : world.cache.get? fresh.key = none) :
      Change world ({ world with cache := world.cache.add fresh.key fresh }.answer client
        fresh.competitor.entry fresh)
  | built (competitor : Competitor) (same : competitor.logic.same competitor.logic = true) :
      Change world (world.build competitor)
  | relabelled (entry : Entry) (provenance : Provenance) (reason : Option String)
      {shared : Shared} (known : shared ∈ world.held) :
      Change world (world.hold ⟨shared.address, ⟨entry, shared.logic, provenance, reason⟩⟩)
  | stored (client : Client) {key : StrategyKey} {value : Shared} (known : value ∈ world.held)
      (absent : world.cache.get? key = none) :
      Change world ({ world with cache := world.cache.add key value }.report
        (.stored client key value (.ok .new)))
  | compared (client : Client) (key : StrategyKey) (value : Shared)
      (outcome : Except CacheConflict Insertion) :
      Change world (world.report (.stored client key value outcome))
  | fetched (client : Client) {key : StrategyKey} {stored : Shared}
      (found : world.cache.get? key = some stored) :
      Change world ((world.hold stored).report (.fetched client key (some stored)))
  | absent (client : Client) (key : StrategyKey) :
      Change world (world.report (.fetched client key none))

theorem step_change (interpreter : Interpreter State) (sound : world.Sound)
    (turn : Turn Client) : Change world (world.step interpreter turn) := by
  cases turn with
  | lookUp client entry =>
      rw [step]
      split
      · rw [lookUp]
        split
        · rename_i stored found
          exact .served client entry found
        · exact .missed client entry
      · exact .nothing
  | resolve client outcome =>
      rw [step]
      split
      · exact .resolved client _ (interpreter.compete_same_self _ _ outcome)
      · exact .nothing
  | settle client =>
      rw [step]
      split
      · rename_i fresh own
        cases found : world.cache.get? fresh.key with
        | none =>
            rw [settle_of_none client found]
            exact .won client own found
        | some stored =>
            -- Its own object is not in the cache, so the addresses differ.
            have apart := sound.apart client fresh own stored (visible_of_get? found)
            rw [settle_of_some client found apart]
            exact .served client _ found
      · exact .nothing
  | build blueprint entry provenance reason =>
      rw [step]
      split
      · rename_i logic made
        exact .built _ (Blueprint.same_self made)
      · exact .nothing
  | relabel place entry provenance reason =>
      rw [step]
      split
      · rename_i shared found
        exact .relabelled entry provenance reason (List.mem_of_getElem? found)
      · exact .nothing
  | store client key place =>
      rw [step]
      split
      · rename_i value found
        cases taken : world.cache.get? key with
        | none =>
            rw [store_of_none client value taken]
            exact .stored client (List.mem_of_getElem? found) taken
        | some existing =>
            rw [store_of_some client value taken]
            exact .compared client key value _
      · exact .nothing
  | fetch client key =>
      rw [step, fetch]
      split
      · rename_i stored found
        exact .fetched client found
      · exact .absent client key

/-! ## Invariants of a turn -/

theorem Sound.change (sound : world.Sound) (change : Change world after) : after.Sound := by
  cases change with
  | nothing => exact sound
  | missed client entry => exact sound.become client fun _ => Activity.noConfusion
  | resolved client fresh same => exact sound.resolve client same
  | served client entry found =>
      rename_i stored
      have quiet : (world.become client .idle).Sound :=
        sound.become client fun _ => Activity.noConfusion
      have copied : ((world.become client .idle).hold (stored.rebind entry .cached)).Sound :=
        quiet.hold (visible_of_get? found) rfl rfl
      exact copied.report _
  | won client own absent =>
      have published := sound.publish own
      exact (published.add _ (mem_visible_hold.mpr (.inr rfl))).report _
  | built competitor same => exact sound.build same
  | relabelled entry provenance reason known =>
      exact sound.hold (visible_of_held known) rfl rfl
  | stored client known absent => exact (sound.add _ (visible_of_held known)).report _
  | compared client key value outcome => exact sound.report _
  | fetched client found => exact (sound.hold (visible_of_get? found) rfl rfl).report _
  | absent client key => exact sound.report _

/-- What is stored stays, whatever the turn. -/
theorem Change.keeps (change : Change world after) : world.Keeps after := by
  intro key stored found
  cases change with
  | won client own absent => exact SharedCache.get?_add_of_get? _ _ found
  | stored client known absent => exact SharedCache.get?_add_of_get? _ _ found
  | _ => exact found

theorem Recorded.change (recorded : world.Recorded) (change : Change world after) :
    after.Recorded := by
  have keeps := change.keeps
  cases change with
  | nothing => exact recorded
  | missed client entry =>
      exact recorded.silent keeps (List.append_nil _).symm fun _ _ _ => List.not_mem_nil
  | resolved client fresh same =>
      exact recorded.silent keeps (List.append_nil _).symm fun _ _ _ => List.not_mem_nil
  | served client entry found =>
      exact recorded.interpreted keeps rfl ⟨_, found, .inl rfl⟩ (.inl rfl)
  | won client own absent =>
      exact recorded.interpreted keeps rfl
        ⟨_, SharedCache.get?_add_self _ absent, .inr ⟨rfl, rfl⟩⟩ (.inr absent)
  | built competitor same =>
      exact recorded.silent keeps (List.append_nil _).symm fun _ _ _ => List.not_mem_nil
  | relabelled entry provenance reason known =>
      exact recorded.silent keeps (List.append_nil _).symm fun _ _ _ => List.not_mem_nil
  | stored client known absent =>
      exact recorded.silent keeps rfl fun _ _ _ member => by cases member; contradiction
  | compared client key value outcome =>
      exact recorded.silent keeps rfl fun _ _ _ member => by cases member; contradiction
  | fetched client found =>
      exact recorded.silent keeps rfl fun _ _ _ member => by cases member; contradiction
  | absent client key =>
      exact recorded.silent keeps rfl fun _ _ _ member => by cases member; contradiction

/-! ## Schedules -/

theorem Sound.run (sound : world.Sound) (interpreter : Interpreter State)
    (schedule : List (Turn Client)) : (world.run interpreter schedule).Sound := by
  induction schedule generalizing world with
  | nil => exact sound
  | cons turn rest induction => exact induction (sound.change (step_change interpreter sound turn))

theorem Recorded.run (recorded : world.Recorded) (sound : world.Sound)
    (interpreter : Interpreter State) (schedule : List (Turn Client)) :
    (world.run interpreter schedule).Recorded := by
  induction schedule generalizing world with
  | nil => exact recorded
  | cons turn rest induction =>
      have change := step_change interpreter sound turn
      exact induction (recorded.change change) (sound.change change)

theorem keeps_run (sound : world.Sound) (interpreter : Interpreter State)
    (schedule : List (Turn Client)) : world.Keeps (world.run interpreter schedule) := by
  induction schedule generalizing world with
  | nil => exact fun key stored found => found
  | cons turn rest induction =>
      intro key stored found
      have change := step_change interpreter sound turn
      exact induction (sound.change change) key stored (change.keeps key stored found)

/-- All clients agree, whatever they do and in whatever order it happens. -/
theorem interleavings_agree (interpreter : Interpreter State)
    (schedule : List (Turn Client)) :
    let world : World Client := start.run interpreter schedule
    (∀ later key stored, world.cache.get? key = some stored →
      (world.run interpreter later).cache.get? key = some stored) ∧
    (∀ client entry result, .interpreted client entry result ∈ world.events →
      result.competitor.entry = entry ∧
        ∃ stored, world.cache.get? (.ofText entry.text) = some stored ∧
          result.address = stored.address ∧ result.logic = stored.logic ∧
          (result.competitor.provenance ≠ .cached → result = stored)) ∧
    (∀ key, world.events.countP (·.isFirst key) ≤ 1) ∧
    ∀ client key place value, world.held[place]? = some value →
      let after := world.step interpreter (.store client key place)
      ∃ outcome, after.events = world.events ++ [.stored client key value outcome] ∧
        ((∃ insertion, outcome = .ok insertion) ↔
          ∃ stored, after.cache.get? key = some stored ∧
            stored.competitor.sameLogic value.competitor = true) ∧
        ∀ conflict, outcome = .error conflict → after.cache = world.cache := by
  intro world
  have sound : world.Sound := Sound.start.run interpreter schedule
  have recorded : world.Recorded := Recorded.start.run Sound.start interpreter schedule
  refine ⟨keeps_run sound interpreter, ?_, recorded.first, ?_⟩
  · intro client entry result member
    exact (recorded.served client entry result member).object
  · intro client key place value found
    have stores : world.step interpreter (.store client key place) =
        world.store client key value := by
      simp only [step, found]
    rw [stores]
    exact sound.store_spec client key (List.mem_of_getElem? found)

/-- Two calls miss the same key. The first to settle has failed, and its fallback becomes
the object of both. -/
theorem interleavings_agree_race :
    let interpreter : Interpreter Unit :=
      ⟨⟨fun _ state => (.immediate (.ok (.failed "silent")), state)⟩, .standard,
        ⟨0, "crash", fun _ => .crashes none⟩⟩
    let schedule : List (Turn Bool) :=
      [.lookUp true ⟨"left", "grim"⟩, .lookUp false ⟨"right", "GRIM"⟩,
        .resolve true (.ok (.template "grim_trigger")),
        .resolve false (.error (.declined "silent")), .settle false, .settle true,
        .build (.template .grimTrigger 0) ⟨"other", "grim"⟩ .freshlyInterpreted none]
    let world := start.run interpreter schedule
    ∃ stored result value outcome,
      .interpreted true ⟨"left", "grim"⟩ result ∈ world.events ∧
      result.address = stored.address ∧
      (∀ later, (world.run interpreter later).cache.get? ⟨"grim"⟩ = some stored) ∧
      world.events.countP (·.isFirst ⟨"grim"⟩) ≤ 1 ∧
      (world.step interpreter (.store true ⟨"grim"⟩ 2)).events =
        world.events ++ [.stored true ⟨"grim"⟩ value outcome] := by
  intro interpreter schedule world
  have agree := interleavings_agree interpreter schedule
  have key : StrategyKey.ofText "grim" = ⟨"grim"⟩ := by decide +kernel
  have answered : world.events.any (·.isAnswer true ⟨"left", "grim"⟩) = true := by
    decide +kernel
  have builds : world.held[2]?.isSome = true := by decide +kernel
  rcases List.any_eq_true.mp answered with
    ⟨⟨client, entry, result⟩ | ⟨_, _, _, _⟩ | ⟨_, _, _⟩, member, shape⟩
  · rcases Bool.and_eq_true_iff.mp shape with ⟨who, what⟩
    rw [of_decide_eq_true who, of_decide_eq_true what] at member
    rcases agree.2.1 true _ result member with ⟨_, stored, found, address, _⟩
    rcases Option.isSome_iff_exists.mp builds with ⟨value, held⟩
    rcases agree.2.2.2 true ⟨"grim"⟩ 2 value held with ⟨outcome, events, _⟩
    rw [key] at found
    exact ⟨stored, result, value, outcome, member, address,
      fun later => agree.1 later _ stored found, agree.2.2.1 _, events⟩
  · cases shape
  · cases shape

end Dilemma.World
