import Dilemma.Proofs.Interpretation.Backing

/-! # The ledger of resolutions

The cache does not tell how it came to be what it is. A ledger beside it does: it names the
resolutions in the order in which they were settled, those included that came too late. As
long as nobody else stores anything, a key holds what its first resolution came to. So all
that is handed out under the key, fresh or from the cache and under whatever name, says of
itself what there is to say of that first resolution. -/

namespace Dilemma

/-- A resolution, and the entry for which it was made. -/
structure Settlement where
  entry : Entry
  outcome : Except InterpretationError Logic

def Settlement.key (settlement : Settlement) : StrategyKey := .ofText settlement.entry.text

/-- The first to be settled for a key. -/
def firstFor? (ledger : List Settlement) (key : StrategyKey) : Option Settlement :=
  ledger.find? (·.key = key)

/-- What the first resolution of a key came to. -/
def firstOutcome? (ledger : List Settlement) (key : StrategyKey) :
    Option (Except InterpretationError Logic) :=
  (firstFor? ledger key).map (·.outcome)

theorem firstFor?_append (ledger more : List Settlement) (key : StrategyKey) :
    firstFor? (ledger ++ more) key = (firstFor? ledger key).or (firstFor? more key) :=
  List.find?_append

theorem firstFor?_singleton (settlement : Settlement) (key : StrategyKey) :
    firstFor? [settlement] key = if settlement.key = key then some settlement else none := by
  rw [firstFor?, List.find?_singleton]
  simp only [decide_eq_true_eq]

theorem firstOutcome?_append (ledger more : List Settlement) (key : StrategyKey) :
    firstOutcome? (ledger ++ more) key =
      (firstOutcome? ledger key).or (firstOutcome? more key) := by
  rw [firstOutcome?, firstFor?_append, Option.map_or]
  rfl

/-- The first resolution of this text came to nothing. -/
def failedFirst (ledger : List Settlement) (text : String) : Bool :=
  match firstOutcome? ledger (.ofText text) with
  | some (.error _) => true
  | _ => false

theorem failedFirst_iff {ledger : List Settlement} {text : String} :
    failedFirst ledger text = true ↔
      ∃ error, firstOutcome? ledger (.ofText text) = some (.error error) := by
  rw [failedFirst]
  rcases firstOutcome? ledger (.ofText text) with _ | error | logic
  · simp
  · simp
  · simp

/-- No answer names the fallback, so no resolution that succeeds comes to it. -/
def Genuine (outcome : Except InterpretationError Logic) : Prop :=
  ∀ logic, outcome = .ok logic → logic.isFallback = false

/-- What is said of an interpretation agrees with the first resolution of its key. -/
structure Audited (ledger : List Settlement) (key : StrategyKey) (degraded : Bool)
    (provenance : Provenance) (reason : Option String) : Prop where
  resolved : ∃ outcome, firstOutcome? ledger key = some outcome
  failed : degraded = true ↔ ∃ error, firstOutcome? ledger key = some (.error error)
  reasoned : degraded = true ↔ reason.isSome = true
  reason : ∀ error, firstOutcome? ledger key = some (.error error) → reason = some error.message
  fallback : provenance = .fallback → degraded = true
  fresh : provenance = .freshlyInterpreted → degraded = false

namespace Interpreter

variable {State : Type} (interpreter : Interpreter State)

/-- Nobody stores anything while the translator is asked. -/
def Undisturbed : Prop :=
  ∀ request state, (interpreter.translator.translate request state).1.submissions = []

/-- The competitor that is stored if it is the first one for its key. -/
def settle (settlement : Settlement) : Competitor :=
  interpreter.compete settlement.entry settlement.outcome

/-- The cache holds what the ledger says, and nothing else. -/
structure Accounted (ledger : List Settlement) (cache : Cache) : Prop where
  held : ∀ key, cache.get? key = (firstFor? ledger key).map interpreter.settle
  stored : ∀ pair ∈ cache.entries, ∃ settlement ∈ ledger, pair.2 = interpreter.settle settlement
  genuine : ∀ settlement ∈ ledger, Genuine settlement.outcome

/-- The competitor is what this outcome makes of its entry, perhaps by way of the cache. -/
structure Reflects (outcome : Except InterpretationError Logic) (result : Competitor) : Prop where
  logic : result.logic = (interpreter.compete result.entry outcome).logic
  reason : result.fallbackReason = (interpreter.compete result.entry outcome).fallbackReason
  provenance : result.provenance = .cached ∨
    result.provenance = (interpreter.compete result.entry outcome).provenance

/-- The competitor reflects the first resolution of its text. -/
def Tells (ledger : List Settlement) (result : Competitor) : Prop :=
  ∃ outcome, firstOutcome? ledger (.ofText result.entry.text) = some outcome ∧ Genuine outcome ∧
    interpreter.Reflects outcome result

variable {interpreter} {ledger : List Settlement} {cache : Cache} {entry : Entry}
  {outcome : Except InterpretationError Logic} {result : Competitor}

theorem Tells.mono (tells : interpreter.Tells ledger result) (more : List Settlement) :
    interpreter.Tells (ledger ++ more) result := by
  rcases tells with ⟨outcome, first, genuine, reflects⟩
  refine ⟨outcome, ?_, genuine, reflects⟩
  rw [firstOutcome?_append, first, Option.some_or]

theorem Tells.audited (tells : interpreter.Tells ledger result) :
    Audited ledger (.ofText result.entry.text) result.isDegraded result.provenance
      result.fallbackReason := by
  rcases tells with ⟨outcome, first, genuine, reflects⟩
  have provenance := reflects.provenance
  rw [Competitor.isDegraded, reflects.logic, reflects.reason]
  cases outcome with
  | error error =>
      refine ⟨⟨_, first⟩, ⟨fun _ => ⟨error, first⟩, fun _ => rfl⟩, ⟨fun _ => rfl, fun _ => rfl⟩, ?_,
        fun _ => rfl, ?_⟩
      · intro other again
        cases first.symm.trans again
        rfl
      · intro fresh
        rw [fresh] at provenance
        rcases provenance with same | same
        · cases same
        · cases same
  | ok logic =>
      have own : logic.isFallback = false := genuine logic rfl
      have succeeded : ∀ error, firstOutcome? ledger (.ofText result.entry.text) ≠
          some (.error error) := by
        intro error failed
        cases first.symm.trans failed
      have sound : (interpreter.compete result.entry (.ok logic)).logic.isFallback = false := own
      rw [sound]
      refine ⟨⟨_, first⟩, ⟨?_, ?_⟩, ⟨?_, ?_⟩, ?_, ?_, fun _ => rfl⟩
      · exact Bool.noConfusion
      · rintro ⟨error, failed⟩
        exact absurd failed (succeeded error)
      · exact Bool.noConfusion
      · exact Bool.noConfusion
      · exact fun error failed => absurd failed (succeeded error)
      · intro fallback
        rw [fallback] at provenance
        rcases provenance with same | same
        · cases same
        · cases same

/-! ## Growing ledgers -/

theorem accounted_empty : interpreter.Accounted [] .empty :=
  ⟨fun _ => rfl, fun _ member => (List.not_mem_nil member).elim,
    fun _ member => (List.not_mem_nil member).elim⟩

theorem genuine_of_becomes {last : Option Reaction}
    (becomes : interpreter.Becomes entry last (interpreter.compete entry outcome)) :
    Genuine outcome := by
  rintro logic rfl
  change interpreter.Becomes entry last ⟨entry, logic, .freshlyInterpreted, none⟩ at becomes
  cases becomes with
  | rule replied checked => rfl
  | template replied => rfl

section Settled

variable {settlement : Settlement} (accounted : interpreter.Accounted ledger cache)
  (genuine : Genuine settlement.outcome)

include accounted genuine

theorem Accounted.genuine_append :
    ∀ settled ∈ ledger ++ [settlement], Genuine settled.outcome := by
  intro settled member
  rcases List.mem_append.mp member with old | new
  · exact accounted.genuine settled old
  · rw [List.mem_singleton.mp new]
    exact genuine

/-- A resolution that comes too late leaves the cache as it is. -/
theorem Accounted.lost {hit : Competitor} (found : cache.get? settlement.key = some hit) :
    interpreter.Accounted (ledger ++ [settlement]) cache := by
  refine ⟨fun key => ?_, fun pair member => ?_, accounted.genuine_append genuine⟩
  · rw [firstFor?_append, firstFor?_singleton, accounted.held]
    by_cases same : settlement.key = key
    · rw [same, accounted.held] at found
      rcases Option.map_eq_some_iff.mp found with ⟨first, known, _⟩
      rw [known, Option.some_or]
    · rw [if_neg same, Option.or_none]
  · rcases accounted.stored pair member with ⟨settled, known, same⟩
    exact ⟨settled, List.mem_append_left _ known, same⟩

/-- A resolution in time is what the key holds from now on. -/
theorem Accounted.won :
    interpreter.Accounted (ledger ++ [settlement])
      (cache.add settlement.key (interpreter.settle settlement)) := by
  refine ⟨fun key => ?_, fun pair member => ?_, accounted.genuine_append genuine⟩
  · rw [Cache.get?_add, firstFor?_append, firstFor?_singleton, Option.map_or, ← accounted.held]
    split
    · rfl
    · rfl
  · rcases List.mem_append.mp member with old | new
    · rcases accounted.stored pair old with ⟨settled, known, same⟩
      exact ⟨settled, List.mem_append_left _ known, same⟩
    · rw [List.mem_singleton.mp new]
      exact ⟨settlement, List.mem_append_right _ (List.mem_singleton_self _), rfl⟩

theorem Accounted.tells_fresh (missing : cache.get? settlement.key = none) :
    interpreter.Tells (ledger ++ [settlement]) (interpreter.settle settlement) := by
  have kept : (interpreter.settle settlement).entry = settlement.entry :=
    interpreter.entry_compete settlement.outcome
  have unsettled : firstFor? ledger settlement.key = none := by
    rw [accounted.held] at missing
    exact Option.map_eq_none_iff.mp missing
  refine ⟨settlement.outcome, ?_, genuine, ?_⟩
  · rw [kept, firstOutcome?, ← Settlement.key, firstFor?_append, unsettled, firstFor?_singleton,
      if_pos rfl]
    rfl
  · rw [settle] at kept ⊢
    constructor
    · rw [kept]
    · rw [kept]
    · rw [kept]
      exact .inr rfl

end Settled

/-- Whatever is served from the cache reflects the first resolution. -/
theorem Accounted.tells_hit (accounted : interpreter.Accounted ledger cache) {hit : Competitor}
    (found : cache.get? (.ofText entry.text) = some hit) :
    interpreter.Tells ledger (hit.rebind entry .cached) := by
  rw [accounted.held, Option.map_eq_some_iff] at found
  rcases found with ⟨settlement, first, rfl⟩
  refine ⟨settlement.outcome, ?_, accounted.genuine _ (List.mem_of_find?_eq_some first), ?_⟩
  · rw [firstOutcome?]
    exact congrArg (Option.map _) first
  · rw [settle]
    cases settlement.outcome with
    | error error => exact ⟨rfl, rfl, .inl rfl⟩
    | ok logic => exact ⟨rfl, rfl, .inl rfl⟩

theorem Accounted.not_cached (accounted : interpreter.Accounted ledger cache)
    {pair : StrategyKey × Competitor} (member : pair ∈ cache.entries) :
    pair.2.provenance ≠ .cached := by
  rcases accounted.stored pair member with ⟨settlement, _, same⟩
  rw [same, settle]
  cases settlement.outcome with
  | error error => exact Provenance.noConfusion
  | ok logic => exact Provenance.noConfusion

/-- Whoever is the first to settle a key stores its own competitor. -/
theorem Accounted.first (accounted : interpreter.Accounted ledger cache)
    (genuine : Genuine outcome) (missing : cache.get? (.ofText entry.text) = none) :
    interpreter.Accounted (ledger ++ [⟨entry, outcome⟩])
        (cache.add (.ofText entry.text) (interpreter.compete entry outcome)) ∧
      interpreter.Tells (ledger ++ [⟨entry, outcome⟩]) (interpreter.compete entry outcome) :=
  ⟨accounted.won genuine, accounted.tells_fresh genuine missing⟩

/-! ## Calls -/

variable (interpreter)

/-- A call resolves its key only if the cache has nothing for it. -/
def settles (entry : Entry) (progress : Progress State) : List Settlement :=
  match progress.cache.get? (.ofText entry.text) with
  | some _ => []
  | none => [⟨entry, (interpreter.resolve (.ofText entry.text) progress).1⟩]

variable {interpreter} {progress : Progress State}

theorem Undisturbed.submissions_consult (undisturbed : interpreter.Undisturbed)
    (key : StrategyKey) (times : Nat) (translator : State) :
    (interpreter.consult key times translator).submissions = [] := by
  induction times generalizing translator with
  | zero => rfl
  | succ times induction =>
      exact List.append_eq_nil_iff.mpr ⟨undisturbed _ _, induction _⟩

theorem Undisturbed.cache_resolve (undisturbed : interpreter.Undisturbed)
    (missing : progress.cache.get? (.ofText entry.text) = none) :
    (interpreter.resolve (.ofText entry.text) progress).2.cache = progress.cache := by
  rw [(interpreter.resolve_spec entry missing).2, Consultation.absorbed,
    undisturbed.submissions_consult]
  rfl

theorem Accounted.interpret (accounted : interpreter.Accounted ledger progress.cache)
    (undisturbed : interpreter.Undisturbed) (entry : Entry) :
    interpreter.Accounted (ledger ++ interpreter.settles entry progress)
        (interpreter.interpret entry progress).2.cache ∧
      interpreter.Tells (ledger ++ interpreter.settles entry progress)
        (interpreter.interpret entry progress).1 := by
  rw [settles]
  cases looked : progress.cache.get? (.ofText entry.text) with
  | some hit =>
      rw [interpreter.interpret_of_hit looked, List.append_nil]
      exact ⟨accounted, accounted.tells_hit looked⟩
  | none =>
      have unchanged := undisturbed.cache_resolve looked
      have genuine := genuine_of_becomes (interpreter.resolve_spec entry looked).1
      have free := looked
      rw [← unchanged] at free
      rw [interpreter.interpret_of_won looked free, unchanged]
      dsimp only
      exact accounted.first genuine looked

/-! ## Turns of a worker -/

/-- What a worker settles with its next turn. -/
def settledNext (entry : Entry) : Stage → List Settlement
  | .resolved outcome => [⟨entry, outcome⟩]
  | _ => []

variable (interpreter)

/-- A resolution is one that an answer can lead to, and a result reflects the first one. -/
def Grounded (ledger : List Settlement) (entry : Entry) : Stage → Prop
  | .resolved outcome => Genuine outcome
  | .done result => result.entry = entry ∧ interpreter.Tells ledger result
  | _ => True

variable {interpreter} {stage next : Stage} {following : Progress State}

theorem Grounded.mono (grounded : interpreter.Grounded ledger entry stage)
    (more : List Settlement) : interpreter.Grounded (ledger ++ more) entry stage := by
  cases stage with
  | done result => exact ⟨grounded.1, grounded.2.mono more⟩
  | _ => exact grounded

/-- Unless it is a result, what is justified is grounded as well. -/
theorem Justified.grounded (justified : interpreter.Justified cache entry stage)
    (unfinished : ∀ result, stage ≠ .done result) : interpreter.Grounded ledger entry stage := by
  cases stage with
  | resolved outcome =>
      rcases justified with ⟨last, becomes⟩
      exact genuine_of_becomes becomes
  | done result => exact absurd rfl (unfinished result)
  | _ => trivial

theorem settledNext_eq_nil (unresolved : ∀ outcome, stage ≠ .resolved outcome) :
    settledNext entry stage = [] := by
  cases stage with
  | resolved outcome => exact absurd rfl (unresolved outcome)
  | _ => rfl

/-- Whoever finds the key taken has resolved it too late, or not at all. -/
theorem Accounted.late (accounted : interpreter.Accounted ledger cache)
    (grounded : interpreter.Grounded ledger entry stage) {hit : Competitor}
    (found : cache.get? (.ofText entry.text) = some hit) :
    interpreter.Accounted (ledger ++ settledNext entry stage) cache := by
  cases stage with
  | resolved outcome => exact accounted.lost grounded found
  | _ =>
      rw [settledNext_eq_nil fun _ => Stage.noConfusion, List.append_nil]
      exact accounted

theorem Undisturbed.cache_attempt (undisturbed : interpreter.Undisturbed) (request : Request)
    (progress : Progress State) :
    (interpreter.attempt request progress).2.cache = progress.cache := by
  change List.foldl _ progress.cache _ = progress.cache
  rw [undisturbed]
  rfl

/-- One turn keeps the accounts. -/
theorem Turn.accounted (turn : interpreter.Turn entry progress stage next following)
    (undisturbed : interpreter.Undisturbed)
    (follows : stage.Next interpreter.settings.retries next)
    (accounted : interpreter.Accounted ledger progress.cache)
    (grounded : interpreter.Grounded ledger entry stage) :
    interpreter.Accounted (ledger ++ settledNext entry stage) following.cache ∧
      interpreter.Grounded (ledger ++ settledNext entry stage) entry next := by
  cases turn with
  | rest ended =>
      have unresolved : ∀ outcome, stage ≠ .resolved outcome := by
        rintro outcome rfl
        cases ended
      rw [settledNext_eq_nil unresolved, List.append_nil]
      exact ⟨accounted, grounded⟩
  | serve found =>
      exact ⟨accounted.late grounded found, rfl, (accounted.tells_hit found).mono _⟩
  | begin justified missing =>
      rw [settledNext_eq_nil fun _ => Stage.noConfusion, List.append_nil]
      refine ⟨accounted, justified.grounded ?_⟩
      rintro result rfl
      rcases justified with ⟨rfl, stored, found, _⟩
      rw [missing] at found
      cases found
  | ask justified =>
      rw [settledNext_eq_nil fun _ => Stage.noConfusion, List.append_nil,
        undisturbed.cache_attempt]
      refine ⟨accounted, justified.grounded ?_⟩
      rintro result rfl
      cases follows
  | store missing =>
      rcases accounted.first grounded missing with ⟨kept, tells⟩
      exact ⟨kept, interpreter.entry_compete _, tells⟩

end Interpreter

end Dilemma
