import Dilemma.Proofs.Interpretation.Interleaving
import Dilemma.Proofs.Interpretation.Lookup
import Dilemma.Proofs.Rule.Sameness

/-! # Objects of clients

An address gives its logic, and the object that a call has just made lies at an
address that nobody else knows. Handing out copies, storing and making new
objects all keep this. It is the reason why a settling call can tell its own
object from any other. -/

namespace Dilemma

theorem Interpreter.logicOf_same_self {key : StrategyKey} {answer : Answer} {logic : Logic}
    (meant : logicOf key answer = .ok logic) : logic.same logic = true := by
  rcases logicOf_cases meant with ⟨draft, rule, -, accepted, rfl⟩ | ⟨name, template, -, -, rfl⟩
  · exact RuleDraft.same_self_of_check accepted
  · simp [Logic.same]

theorem Interpreter.compete_same_self {State : Type} (interpreter : Interpreter State)
    (entry : Entry) (key : StrategyKey) (outcome : Except InterpretationError Answer) :
    let logic := (interpreter.compete entry (outcome >>= logicOf key)).logic
    logic.same logic = true := by
  cases resolution : (outcome >>= logicOf key) with
  | error error => exact decide_eq_true rfl
  | ok logic =>
      rcases bind_eq_ok.mp resolution with ⟨answer, _, meant⟩
      exact logicOf_same_self meant

theorem Blueprint.same_self {blueprint : Blueprint} {logic : Logic}
    (made : blueprint.logic? = some logic) : logic.same logic = true := by
  cases blueprint with
  | template chosen seed =>
      cases made
      simp [Logic.same]
  | rule draft seed =>
      rw [logic?] at made
      cases accepted : draft.check seed with
      | error error =>
          rw [accepted] at made
          cases made
      | ok rule =>
          rw [accepted] at made
          cases made
          exact RuleDraft.same_self_of_check accepted
  | fallback function =>
      cases made
      exact decide_eq_true rfl

namespace World

variable {Client : Type} {world : World Client}

/-! ## Addresses -/

/-- What is not known to one client alone. -/
def visible (world : World Client) : List Shared :=
  world.cache.entries.map (·.2) ++ world.held

structure Sound (world : World Client) : Prop where
  located : ∀ shared ∈ world.visible, world.heap[shared.address]? = some shared.logic
  own : ∀ client fresh, world.activity client = .resolved fresh →
    world.heap[fresh.address]? = some fresh.logic
  apart : ∀ client fresh, world.activity client = .resolved fresh →
    ∀ shared ∈ world.visible, shared.address ≠ fresh.address
  distinct : ∀ client other fresh another, world.activity client = .resolved fresh →
    world.activity other = .resolved another → fresh.address = another.address →
    client = other
  same : ∀ logic ∈ world.heap, logic.same logic = true

theorem visible_of_get? {key : StrategyKey} {stored : Shared}
    (found : world.cache.get? key = some stored) : stored ∈ world.visible :=
  List.mem_append_left _ (List.mem_map.mpr ⟨_, mem_of_find? found, rfl⟩)

theorem visible_of_held {shared : Shared} (known : shared ∈ world.held) :
    shared ∈ world.visible :=
  List.mem_append_right _ known

theorem mem_visible_hold {shared other : Shared} :
    other ∈ (world.hold shared).visible ↔ other ∈ world.visible ∨ other = shared := by
  simp [visible, hold, or_assoc]

theorem mem_visible_add {key : StrategyKey} {shared other : Shared}
    (member : other ∈ ({ world with cache := world.cache.add key shared } : World Client).visible) :
    other ∈ world.visible ∨ other = shared := by
  simp only [visible, SharedCache.add, List.map_append, List.mem_append, List.map_cons,
    List.map_nil, List.mem_singleton] at member ⊢
  rcases member with (stored | equal) | held
  · exact .inl (.inl stored)
  · exact .inr equal
  · exact .inl (.inr held)

/-- A visible object is the same as itself, so its address decides nothing. -/
theorem Sound.sameResult_eq (sound : world.Sound) {left right : Shared}
    (leftVisible : left ∈ world.visible) (rightVisible : right ∈ world.visible) :
    left.sameResult right = left.competitor.sameLogic right.competitor := by
  rw [Shared.sameResult]
  by_cases equal : left.address = right.address
  · have leftLogic := sound.located left leftVisible
    have rightLogic := sound.located right rightVisible
    rw [equal, rightLogic] at leftLogic
    have oneLogic : right.competitor.logic = left.competitor.logic :=
      Option.some.inj leftLogic
    have same : left.competitor.sameLogic right.competitor = true := by
      rw [Competitor.sameLogic, ← oneLogic]
      exact sound.same _ (List.mem_of_getElem? rightLogic)
    rw [same, decide_eq_true equal, Bool.true_or]
  · rw [decide_eq_false equal, Bool.false_or]

theorem Sound.start : (start : World Client).Sound where
  located := fun _ member => by cases member
  own := fun _ _ resolved => by cases resolved
  apart := fun _ _ resolved => by cases resolved
  distinct := fun _ _ _ _ resolved => by cases resolved
  same := fun _ member => by cases member

theorem Sound.report (sound : world.Sound) (event : Event Client) :
    (world.report event).Sound :=
  ⟨sound.located, sound.own, sound.apart, sound.distinct, sound.same⟩

/-- Another copy of a visible object. -/
theorem Sound.hold (sound : world.Sound) {original shared : Shared}
    (known : original ∈ world.visible) (address : original.address = shared.address)
    (logic : original.logic = shared.logic) : (world.hold shared).Sound where
  located := by
    intro other member
    rcases mem_visible_hold.mp member with old | rfl
    · exact sound.located other old
    · rw [← address, ← logic]
      exact sound.located original known
  own := sound.own
  apart := by
    intro client fresh own other member
    rcases mem_visible_hold.mp member with old | rfl
    · exact sound.apart client fresh own other old
    · rw [← address]
      exact sound.apart client fresh own original known
  distinct := sound.distinct
  same := sound.same

theorem Sound.add (sound : world.Sound) (key : StrategyKey) {shared : Shared}
    (known : shared ∈ world.visible) :
    ({ world with cache := world.cache.add key shared } : World Client).Sound where
  located := by
    intro other member
    rcases mem_visible_add member with old | rfl
    · exact sound.located other old
    · exact sound.located other known
  own := sound.own
  apart := by
    intro client fresh own other member
    rcases mem_visible_add member with old | rfl
    · exact sound.apart client fresh own other old
    · exact sound.apart client fresh own other known
  distinct := sound.distinct
  same := sound.same

/-! ## New objects -/

theorem getElem?_allocate {logic known : Logic} {address : Nat}
    (found : world.heap[address]? = some known) :
    (world.allocate logic).heap[address]? = some known := by
  rcases List.getElem?_eq_some_iff.mp found with ⟨within, _⟩
  exact (List.getElem?_append_left within).trans found

theorem getElem?_allocate_new (logic : Logic) :
    (world.allocate logic).heap[world.heap.length]? = some logic := by
  rw [allocate, List.getElem?_append_right (Nat.le_refl _), Nat.sub_self]
  rfl

theorem Sound.allocate (sound : world.Sound) {logic : Logic}
    (same : logic.same logic = true) : (world.allocate logic).Sound where
  located := fun shared member => getElem?_allocate (sound.located shared member)
  own := fun client fresh own => getElem?_allocate (sound.own client fresh own)
  apart := sound.apart
  distinct := sound.distinct
  same := by
    intro known member
    rcases List.mem_append.mp member with old | new
    · exact sound.same known old
    · rw [List.mem_singleton.mp new]
      exact same

/-- The next address is not in use yet. -/
theorem Sound.visible_ne_next (sound : world.Sound) {shared : Shared}
    (member : shared ∈ world.visible) : shared.address ≠ world.heap.length := by
  rcases List.getElem?_eq_some_iff.mp (sound.located shared member) with ⟨within, _⟩
  omega

theorem Sound.own_ne_next (sound : world.Sound) {client : Client} {fresh : Shared}
    (own : world.activity client = .resolved fresh) : fresh.address ≠ world.heap.length := by
  rcases List.getElem?_eq_some_iff.mp (sound.own client fresh own) with ⟨within, _⟩
  omega

theorem Sound.build (sound : world.Sound) {competitor : Competitor}
    (same : competitor.logic.same competitor.logic = true) :
    (world.build competitor).Sound where
  located := by
    intro shared member
    rcases mem_visible_hold.mp member with old | rfl
    · exact (sound.allocate same).located shared old
    · exact getElem?_allocate_new competitor.logic
  own := (sound.allocate same).own
  apart := by
    intro client fresh own shared member
    rcases mem_visible_hold.mp member with old | rfl
    · exact sound.apart client fresh own shared old
    · exact (sound.own_ne_next own).symm
  distinct := sound.distinct
  same := (sound.allocate same).same

/-! ## Objects of a call -/

variable [DecidableEq Client]

theorem activity_become {client other : Client} {activity : Activity} {fresh : Shared}
    (own : (world.become client activity).activity other = .resolved fresh) :
    other = client ∧ activity = .resolved fresh ∨
      other ≠ client ∧ world.activity other = .resolved fresh := by
  change (if other = client then activity else world.activity other) = .resolved fresh at own
  by_cases equal : other = client
  · rw [if_pos equal] at own
    exact .inl ⟨equal, own⟩
  · rw [if_neg equal] at own
    exact .inr ⟨equal, own⟩

/-- An activity without an object of its own. -/
theorem Sound.become (sound : world.Sound) (client : Client) {activity : Activity}
    (none : ∀ fresh, activity ≠ .resolved fresh) : (world.become client activity).Sound where
  located := sound.located
  own := by
    intro other fresh own
    rcases activity_become own with ⟨_, mine⟩ | ⟨_, before⟩
    · exact absurd mine (none fresh)
    · exact sound.own other fresh before
  apart := by
    intro other fresh own
    rcases activity_become own with ⟨_, mine⟩ | ⟨_, before⟩
    · exact absurd mine (none fresh)
    · exact sound.apart other fresh before
  distinct := by
    intro left right fresh another leftOwn rightOwn
    rcases activity_become leftOwn with ⟨_, mine⟩ | ⟨_, leftBefore⟩
    · exact absurd mine (none fresh)
    rcases activity_become rightOwn with ⟨_, mine⟩ | ⟨_, rightBefore⟩
    · exact absurd mine (none another)
    exact sound.distinct left right fresh another leftBefore rightBefore
  same := sound.same

theorem Sound.resolve (sound : world.Sound) (client : Client) {fresh : Competitor}
    (same : fresh.logic.same fresh.logic = true) :
    ((world.allocate fresh.logic).become client
      (.resolved ⟨world.heap.length, fresh⟩)).Sound where
  located := (sound.allocate same).located
  own := by
    intro other unseen own
    rcases activity_become own with ⟨_, ⟨⟩⟩ | ⟨_, before⟩
    · exact getElem?_allocate_new fresh.logic
    · exact (sound.allocate same).own other unseen before
  apart := by
    intro other unseen own shared member
    rcases activity_become own with ⟨_, ⟨⟩⟩ | ⟨_, before⟩
    · exact sound.visible_ne_next member
    · exact sound.apart other unseen before shared member
  distinct := by
    intro left right one another leftOwn rightOwn equal
    rcases activity_become leftOwn with ⟨leftMine, ⟨⟩⟩ | ⟨_, leftBefore⟩
    · rcases activity_become rightOwn with ⟨rightMine, _⟩ | ⟨_, rightBefore⟩
      · rw [leftMine, rightMine]
      · exact absurd equal.symm (sound.own_ne_next rightBefore)
    · rcases activity_become rightOwn with ⟨_, ⟨⟩⟩ | ⟨_, rightBefore⟩
      · exact absurd equal (sound.own_ne_next leftBefore)
      · exact sound.distinct left right one another leftBefore rightBefore equal
  same := (sound.allocate same).same

/-- A client makes its own object known. -/
theorem Sound.publish (sound : world.Sound) {client : Client} {fresh : Shared}
    (own : world.activity client = .resolved fresh) :
    ((world.become client .idle).hold fresh).Sound := by
  have quiet : (world.become client .idle).Sound :=
    sound.become client fun _ => Activity.noConfusion
  refine ⟨?_, quiet.own, ?_, quiet.distinct, quiet.same⟩
  · intro shared member
    rcases mem_visible_hold.mp member with old | rfl
    · exact sound.located shared old
    · exact sound.own client shared own
  · intro other unseen otherOwn shared member
    rcases mem_visible_hold.mp member with old | rfl
    · exact quiet.apart other unseen otherOwn shared old
    · rcases activity_become otherOwn with ⟨_, ⟨⟩⟩ | ⟨different, before⟩
      intro equal
      exact different (sound.distinct client other shared unseen own before equal).symm

end World

end Dilemma
