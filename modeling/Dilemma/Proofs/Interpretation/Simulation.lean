import Dilemma.Proofs.Interpretation.Agreement

/-! # Interpretation as a schedule

The interpreter runs a call from its beginning to its end, and only the
translator lets others store something on the way. Without addresses, such a call
is one schedule among many: looking up, building and storing what comes in with
the answers, resolving, and settling. -/

namespace Dilemma

/-! ## The ways in which a call can end -/

namespace Interpreter

variable {State : Type} (interpreter : Interpreter State) {entry : Entry}
  {progress : Progress State}

theorem interpret_of_hit {hit : Competitor}
    (found : progress.cache.get? (.ofText entry.text) = some hit) :
    interpreter.interpret entry progress = (hit.rebind entry .cached, progress) := by
  simp only [interpret, found]

theorem interpret_of_lost {winner : Competitor}
    (missed : progress.cache.get? (.ofText entry.text) = none)
    (taken : (interpreter.resolve (.ofText entry.text) progress).2.cache.get?
      (.ofText entry.text) = some winner) :
    interpreter.interpret entry progress =
      (winner.rebind entry .cached, (interpreter.resolve (.ofText entry.text) progress).2) := by
  simp only [interpret, missed, taken]

theorem interpret_of_won
    (missed : progress.cache.get? (.ofText entry.text) = none)
    (free : (interpreter.resolve (.ofText entry.text) progress).2.cache.get?
      (.ofText entry.text) = none) :
    let resolved := interpreter.resolve (.ofText entry.text) progress
    let fresh := interpreter.compete entry resolved.1
    interpreter.interpret entry progress =
      (fresh, { resolved.2 with
        cache := resolved.2.cache.add (.ofText entry.text) fresh }) := by
  simp only [interpret, missed, free]

theorem entry_compete (resolution : Except InterpretationError Logic) :
    (interpreter.compete entry resolution).entry = entry := by
  cases resolution with
  | error error => rfl
  | ok logic => rfl

end Interpreter

namespace World

variable {Client : Type} {world : World Client} {State : Type}

/-- The plain cache decides about a visible value as the shared one does. -/
theorem Sound.contents_store (sound : world.Sound) (client : Client) (key : StrategyKey)
    {value : Shared} (known : value ∈ world.held) :
    (world.store client key value).cache.contents =
      world.cache.contents.submit key value.competitor := by
  have inserted : world.cache.contents.insert key value.competitor =
      (world.cache.insert key value).map fun result => (result.1, result.2.contents) :=
    SharedCache.contents_insert fun existing found =>
      sound.sameResult_eq (visible_of_get? found) (visible_of_held known)
  rw [Cache.submit, inserted, World.store]
  cases world.cache.insert key value with
  | error conflict => rfl
  | ok result => rfl

variable [DecidableEq Client]

theorem run_append (interpreter : Interpreter State) (first rest : List (Turn Client)) :
    world.run interpreter (first ++ rest) = (world.run interpreter first).run interpreter rest :=
  List.foldl_append

/-! ## What comes in with an answer -/

theorem submit_simulated (interpreter : Interpreter State) (sound : world.Sound)
    (client : Client) (key : StrategyKey) {value : Competitor} {blueprint : Blueprint}
    (made : blueprint.logic? = some value.logic) :
    ∃ schedule, (world.run interpreter schedule).cache.contents =
        world.cache.contents.submit key value ∧
      (world.run interpreter schedule).activity = world.activity := by
  have built := sound.build (Blueprint.same_self made)
  have known : ⟨world.heap.length, value⟩ ∈ (world.build value).held :=
    List.mem_append_right _ (List.mem_singleton.mpr rfl)
  have place : (world.build value).held[world.held.length]? =
      some ⟨world.heap.length, value⟩ := by
    rw [build, hold, allocate, List.getElem?_append_right (Nat.le_refl _), Nat.sub_self]
    rfl
  have ran : world.run interpreter
      [.build blueprint value.entry value.provenance value.fallbackReason,
        .store client key world.held.length] =
        (world.build value).store client key ⟨world.heap.length, value⟩ := by
    have first : world.step interpreter
        (.build blueprint value.entry value.provenance value.fallbackReason) =
          world.build value := by
      simp only [step, made]
    rw [run, List.foldl_cons, List.foldl_cons, List.foldl_nil, first]
    simp only [step, place]
  refine ⟨_, by rw [ran, built.contents_store client key known]; rfl, ?_⟩
  rw [ran]
  cases taken : (world.build value).cache.get? key with
  | none => rw [store_of_none client _ taken]; rfl
  | some existing => rw [store_of_some client _ taken]; rfl

theorem submissions_simulated (interpreter : Interpreter State) (sound : world.Sound)
    (client : Client) (submissions : List (StrategyKey × Competitor))
    (made : ∀ submission ∈ submissions, ∃ blueprint : Blueprint,
      blueprint.logic? = some submission.2.logic) :
    ∃ schedule, (world.run interpreter schedule).cache.contents =
        submissions.foldl (fun cache submission => cache.submit submission.1 submission.2)
          world.cache.contents ∧
      (world.run interpreter schedule).activity = world.activity := by
  induction submissions generalizing world with
  | nil => exact ⟨[], rfl, rfl⟩
  | cons submission rest induction =>
      rcases made submission (List.mem_cons_self ..) with ⟨blueprint, first⟩
      rcases submit_simulated interpreter sound client submission.1 first with
        ⟨schedule, contents, activity⟩
      rcases induction (sound.run interpreter schedule)
        (fun other member => made other (List.mem_cons_of_mem _ member)) with
        ⟨later, laterContents, laterActivity⟩
      refine ⟨schedule ++ later, ?_, ?_⟩
      · rw [run_append, laterContents, contents, List.foldl_cons]
      · rw [run_append, laterActivity, activity]

/-! ## The end of a call -/

/-- A call that has missed ends with what the plain cache holds, or with its own result. -/
theorem finish_simulated (interpreter : Interpreter State) (sound : world.Sound)
    {client : Client} {entry : Entry}
    (resolving : world.activity client = .resolving entry)
    (outcome : Except InterpretationError Answer) :
    let key := StrategyKey.ofText entry.text
    let fresh := interpreter.compete entry (outcome >>= Interpreter.logicOf key)
    let after := world.run interpreter [.resolve client outcome, .settle client]
    ∃ result, .interpreted client entry result ∈ after.events ∧
      match world.cache.contents.get? key with
      | some winner => after.cache.contents = world.cache.contents ∧
          result.competitor = winner.rebind entry .cached
      | none => after.cache.contents = world.cache.contents.add key fresh ∧
          result.competitor = fresh := by
  intro key fresh after
  have entryKept : fresh.entry = entry := interpreter.entry_compete _
  have keyKept : (Shared.mk world.heap.length fresh).key = key := by
    rw [Shared.key, entryKept]
  have resolved : world.step interpreter (.resolve client outcome) =
      world.resolve interpreter client entry outcome := by
    simp only [step, resolving]
  have own : (world.resolve interpreter client entry outcome).activity client =
      .resolved ⟨world.heap.length, fresh⟩ := if_pos rfl
  have resolvedSound : (world.resolve interpreter client entry outcome).Sound :=
    sound.resolve client (interpreter.compete_same_self entry key outcome)
  have ran : after = (world.resolve interpreter client entry outcome).settle client
      ⟨world.heap.length, fresh⟩ := by
    change (world.step interpreter (.resolve client outcome)).step interpreter
      (.settle client) = _
    rw [resolved]
    simp only [step, own]
  have looked := SharedCache.contents_get? world.cache key
  rw [ran]
  cases found : world.cache.get? key with
  | none =>
      have absent : (world.resolve interpreter client entry outcome).cache.get?
          (Shared.mk world.heap.length fresh).key = none := by
        rw [keyKept]
        exact found
      rw [found, Option.map_none] at looked
      rw [settle_of_none client absent, looked]
      refine ⟨⟨world.heap.length, fresh⟩, ?_, ?_, rfl⟩
      · rw [entryKept]
        exact List.mem_append_right _ (List.mem_singleton.mpr rfl)
      · rw [keyKept]
        exact SharedCache.contents_add world.cache key _
  | some stored =>
      have present : (world.resolve interpreter client entry outcome).cache.get?
          (Shared.mk world.heap.length fresh).key = some stored := by
        rw [keyKept]
        exact found
      have apart := resolvedSound.apart client _ own stored (visible_of_get? present)
      rw [found, Option.map_some] at looked
      rw [settle_of_some client present apart, looked]
      refine ⟨stored.rebind fresh.entry .cached, ?_, rfl, ?_⟩
      · rw [entryKept]
        exact List.mem_append_right _ (List.mem_singleton.mpr rfl)
      · rw [entryKept]
        rfl

/-! ## A whole call -/

/-- The translator passes on only what can be made. -/
def Makes (interpreter : Interpreter State) : Prop :=
  ∀ request state, ∀ submission ∈ (interpreter.translator.translate request state).1.submissions,
    ∃ blueprint : Blueprint, blueprint.logic? = some submission.2.logic

variable {interpreter : Interpreter State} {progress : Interpreter.Progress State}

theorem attempt_simulated (makes : Makes interpreter) (sound : world.Sound)
    (same : world.cache.contents = progress.cache) (client : Client) (request : Request) :
    ∃ schedule, (world.run interpreter schedule).cache.contents =
        (interpreter.attempt request progress).2.cache ∧
      (world.run interpreter schedule).activity = world.activity := by
  rcases submissions_simulated interpreter sound client _ (makes request progress.translator)
    with ⟨schedule, contents, activity⟩
  refine ⟨schedule, ?_, activity⟩
  rw [contents, same]
  rfl

theorem translate_simulated (makes : Makes interpreter) (sound : world.Sound)
    (same : world.cache.contents = progress.cache) (client : Client) (request : Request)
    (retries : Nat) :
    ∃ schedule, (world.run interpreter schedule).cache.contents =
        (interpreter.translate request retries progress).2.cache ∧
      (world.run interpreter schedule).activity = world.activity := by
  induction retries generalizing world progress with
  | zero => exact attempt_simulated makes sound same client request
  | succ retries induction =>
      rcases attempt_simulated makes sound same client request with
        ⟨schedule, contents, activity⟩
      rw [Interpreter.translate]
      split
      · rename_i error following attempted
        rw [attempted] at contents
        split
        · rcases induction (sound.run interpreter schedule) contents with
            ⟨later, laterContents, laterActivity⟩
          refine ⟨schedule ++ later, ?_, ?_⟩
          · rw [run_append, laterContents]
          · rw [run_append, laterActivity, activity]
        · exact ⟨schedule, contents, activity⟩
      · rename_i answer following attempted
        rw [attempted] at contents
        exact ⟨schedule, contents, activity⟩

theorem resolve_simulated (makes : Makes interpreter) (sound : world.Sound)
    (same : world.cache.contents = progress.cache) (client : Client) (key : StrategyKey) :
    ∃ schedule outcome, (world.run interpreter schedule).cache.contents =
        (interpreter.resolve key progress).2.cache ∧
      (world.run interpreter schedule).activity = world.activity ∧
      (interpreter.resolve key progress).1 = (outcome >>= Interpreter.logicOf key) := by
  rw [Interpreter.resolve]
  split
  · exact ⟨[], .error _, same, rfl, rfl⟩
  · rcases translate_simulated makes sound same client (.ofKey key)
      interpreter.settings.retries with ⟨schedule, contents, activity⟩
    split
    · rename_i answer following translated
      rw [translated] at contents
      exact ⟨schedule, .ok answer, contents, activity, rfl⟩
    · rename_i error following translated
      rw [translated] at contents
      exact ⟨schedule, .error (.translator error), contents, activity, rfl⟩

/-- A call of the interpreter is a schedule in which one client runs from lookup to
settling, with the same result and the same cache in the end. -/
theorem interpret_simulated (makes : Makes interpreter) (sound : world.Sound)
    (same : world.cache.contents = progress.cache) {client : Client}
    (idle : world.activity client = .idle) (entry : Entry) :
    ∃ schedule result,
      let after := world.run interpreter schedule
      after.cache.contents = (interpreter.interpret entry progress).2.cache ∧
        .interpreted client entry result ∈ after.events ∧
        result.competitor = (interpreter.interpret entry progress).1 := by
  have looked := SharedCache.contents_get? world.cache (.ofText entry.text)
  rw [same] at looked
  have begun : world.step interpreter (.lookUp client entry) = world.lookUp client entry := by
    simp only [step, idle]
  cases found : world.cache.get? (.ofText entry.text) with
  | some stored =>
      have served : world.run interpreter [.lookUp client entry] =
          world.answer client entry (stored.rebind entry .cached) := by
        rw [run, List.foldl_cons, List.foldl_nil, begun, lookUp, found]
      refine ⟨[.lookUp client entry], stored.rebind entry .cached, ?_⟩
      rw [found, Option.map_some] at looked
      rw [served, interpreter.interpret_of_hit looked]
      exact ⟨same, List.mem_append_right _ (List.mem_singleton.mpr rfl), rfl⟩
  | none =>
      -- Others store only while the key is being resolved, after the lookup.
      have waiting : (world.become client (.resolving entry)).Sound :=
        sound.become client fun _ => Activity.noConfusion
      rcases resolve_simulated makes waiting same client (.ofText entry.text) with
        ⟨schedule, outcome, contents, activity, resolution⟩
      have resolving : ((world.become client (.resolving entry)).run interpreter
          schedule).activity client = .resolving entry := by
        rw [activity]
        exact if_pos rfl
      rcases finish_simulated interpreter (waiting.run interpreter schedule) resolving outcome
        with ⟨result, reported, rest⟩
      have ran : world.run interpreter
          (.lookUp client entry :: (schedule ++ [.resolve client outcome, .settle client])) =
            ((world.become client (.resolving entry)).run interpreter schedule).run interpreter
              [.resolve client outcome, .settle client] := by
        rw [run, List.foldl_cons, begun, lookUp, found]
        exact run_append interpreter schedule _
      refine ⟨.lookUp client entry :: (schedule ++ [.resolve client outcome, .settle client]),
        result, ?_⟩
      rw [ran]
      rw [contents, ← resolution] at rest
      rw [found, Option.map_none] at looked
      split at rest
      · rename_i winner taken
        rw [interpreter.interpret_of_lost looked taken]
        exact ⟨rest.1, reported, rest.2⟩
      · rename_i free
        rw [interpreter.interpret_of_won looked free]
        exact ⟨rest.1, reported, rest.2⟩

end World

end Dilemma
