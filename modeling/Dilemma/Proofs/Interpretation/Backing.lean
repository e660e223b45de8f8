import Dilemma.Proofs.Interpretation.Budget
import Dilemma.Proofs.Interpretation.Worker

/-! # Competitors and the cache

Whatever way an entry takes through the interpreter, in the end the cache holds the
logic that the entry plays, and the reason for it, under the key of the entry. Since
the cache loses nothing, this stays so. It is shown for one turn of a worker first; a
call of the interpreter is a worker that has its turns in a row. -/

namespace Dilemma

namespace Cache

/-- Whatever the first cache holds, the second one holds too. -/
def KeptBy (before after : Cache) : Prop :=
  ∀ key value, before.get? key = some value → after.get? key = some value

variable {cache before middle after : Cache}

theorem KeptBy.refl (cache : Cache) : cache.KeptBy cache := fun _ _ found => found

theorem KeptBy.trans (first : before.KeptBy middle) (second : middle.KeptBy after) :
    before.KeptBy after :=
  fun key value found => second key value (first key value found)

theorem keptBy_add (key : StrategyKey) (value : Competitor) :
    cache.KeptBy (cache.add key value) := by
  intro other held found
  rw [get?_add, found, Option.some_or]

theorem keptBy_submitAll (submissions : List (StrategyKey × Competitor)) :
    cache.KeptBy (submissions.foldl (fun cache (key, value) => cache.submit key value) cache) := by
  intro other held found
  refine (cache.get?_submitAll submissions other).trans ?_
  rw [found, Option.some_or]

theorem mem_submit {key : StrategyKey} {value : Competitor} {pair : StrategyKey × Competitor}
    (member : pair ∈ (cache.submit key value).entries) :
    pair ∈ cache.entries ∨ pair = (key, value) := by
  rw [submit, insert] at member
  cases found : cache.get? key with
  | none =>
      rw [found] at member
      rcases List.mem_append.mp member with old | new
      · exact .inl old
      · exact .inr (List.mem_singleton.mp new)
  | some existing =>
      rw [found] at member
      left
      by_cases same : existing.sameLogic value = true
      · simpa [same] using member
      · simpa [same] using member

theorem mem_submitAll {submissions : List (StrategyKey × Competitor)}
    {pair : StrategyKey × Competitor}
    (member : pair ∈ (submissions.foldl (fun cache (key, value) => cache.submit key value)
      cache).entries) : pair ∈ cache.entries ∨ pair ∈ submissions := by
  induction submissions generalizing cache with
  | nil => exact .inl member
  | cons submission rest induction =>
      rcases induction member with earlier | later
      · rcases mem_submit earlier with old | rfl
        · exact .inl old
        · exact .inr (List.mem_cons_self ..)
      · exact .inr (List.mem_cons_of_mem _ later)

end Cache

/-! ## Backed competitors -/

namespace Competitor

/-- The cache holds the logic of the competitor and the reason for it. -/
def BackedBy (cache : Cache) (competitor : Competitor) : Prop :=
  ∃ stored, cache.get? (.ofText competitor.entry.text) = some stored ∧
    stored.logic = competitor.logic ∧ stored.fallbackReason = competitor.fallbackReason

variable {cache after : Cache} {competitor left right : Competitor}

theorem BackedBy.mono (backed : competitor.BackedBy cache) (kept : cache.KeptBy after) :
    competitor.BackedBy after := by
  rcases backed with ⟨stored, found, logic, reason⟩
  exact ⟨stored, kept _ _ found, logic, reason⟩

/-- There is one logic for each key. -/
theorem BackedBy.logic_eq (leftBacked : left.BackedBy cache) (rightBacked : right.BackedBy cache)
    (same : StrategyKey.ofText left.entry.text = .ofText right.entry.text) :
    left.logic = right.logic := by
  rcases leftBacked with ⟨stored, found, logic, _⟩
  rcases rightBacked with ⟨storedToo, foundToo, logicToo, _⟩
  rw [same, foundToo, Option.some.injEq] at found
  rw [← logic, ← logicToo, found]

/-- The competitor as it comes out of the cache. -/
def asCached (competitor : Competitor) : Competitor := competitor.rebind competitor.entry .cached

theorem backedBy_rebind {hit : Competitor} {entry : Entry}
    (found : cache.get? (.ofText entry.text) = some hit) (provenance : Provenance) :
    (hit.rebind entry provenance).BackedBy cache :=
  ⟨hit, found, rfl, rfl⟩

end Competitor

/-! ## Turns of a worker -/

namespace Interpreter

variable {State : Type} (interpreter : Interpreter State)

/-- What an interpretation puts into a cache: the competitor that an entry becomes, under
the key of the entry. -/
def Makes (stored : StrategyKey × Competitor) : Prop :=
  ∃ entry last, stored.1 = .ofText entry.text ∧ interpreter.Becomes entry last stored.2

/-- The cache has been filled by interpretations with this fallback and by nothing else,
and nothing else comes in while the translator is asked. -/
structure Unaided (cache : Cache) : Prop where
  stored : ∀ pair ∈ cache.entries, interpreter.Makes pair
  submitted : ∀ request state,
    ∀ pair ∈ (interpreter.translator.translate request state).1.submissions,
      interpreter.Makes pair

/-- A resolution is one that the interpreter can come to, and a result is backed. -/
def Justified (cache : Cache) (entry : Entry) : Stage → Prop
  | .resolved resolution =>
      ∃ last, interpreter.Becomes entry last (interpreter.compete entry resolution)
  | .done result => result.entry = entry ∧ result.BackedBy cache
  | _ => True

variable {interpreter} {cache after : Cache} {entry : Entry} {stage : Stage}
  {progress : Progress State}

theorem Justified.mono (justified : interpreter.Justified cache entry stage)
    (kept : cache.KeptBy after) : interpreter.Justified after entry stage := by
  cases stage with
  | done result => exact ⟨justified.1, justified.2.mono kept⟩
  | _ => exact justified

variable (interpreter)

theorem becomes_of_attempt (entry : Entry) (progress : Progress State) :
    let key := StrategyKey.ofText entry.text
    ∃ last, interpreter.Becomes entry last (interpreter.compete entry
      (resolution key (interpreter.attempt (.ofKey key) progress).1)) := by
  intro key
  let last := (interpreter.translator.translate (.ofKey key) progress.translator).1
  have once : (interpreter.attempt (.ofKey key) progress).1 =
      receive interpreter.settings.timeout last := rfl
  refine ⟨some last, ?_⟩
  rw [once]
  cases received : receive interpreter.settings.timeout last with
  | ok answer => exact interpreter.becomes_of_answer entry (repliesInTime_of_receive_ok received)
  | error error => exact .fallback (interpreter.fails_of_receive_error key received)

/-- All that a turn can do: nothing, serve the entry from the cache, go on without
touching the cache, ask the translator, or store what the entry becomes. -/
inductive Turn (entry : Entry) (progress : Progress State) :
    Stage → Stage → Progress State → Prop where
  | rest {stage : Stage} (ended : stage.isOver = true) : Turn entry progress stage stage progress
  | serve {stage : Stage} {hit : Competitor}
      (found : progress.cache.get? (.ofText entry.text) = some hit) :
      Turn entry progress stage (.done (hit.rebind entry .cached)) progress
  | begin {stage : Stage} (justified : interpreter.Justified progress.cache entry stage)
      (missing : progress.cache.get? (.ofText entry.text) = none) :
      Turn entry progress .waiting stage progress
  | ask {retries : Nat} {stage : Stage}
      (justified : interpreter.Justified
        (interpreter.attempt (.ofKey (.ofText entry.text)) progress).2.cache entry stage) :
      Turn entry progress (.asking retries) stage
        (interpreter.attempt (.ofKey (.ofText entry.text)) progress).2
  | store {resolution : Except InterpretationError Logic}
      (missing : progress.cache.get? (.ofText entry.text) = none) :
      Turn entry progress (.resolved resolution) (.done (interpreter.compete entry resolution))
        { progress with
          cache := progress.cache.add (.ofText entry.text) (interpreter.compete entry resolution) }

theorem advance_turn (entry : Entry) (stage : Stage) (progress : Progress State) :
    interpreter.Turn entry progress stage (interpreter.advance entry (stage, progress)).1
      (interpreter.advance entry (stage, progress)).2 := by
  cases stage with
  | postponed => exact .rest rfl
  | done result => exact .rest rfl
  | waiting =>
      dsimp only [advance]
      cases found : progress.cache.get? (.ofText entry.text) with
      | some hit => exact .serve found
      | none =>
          dsimp only
          split
          · rename_i long
            exact .begin ⟨none, .fallback (.tooLong long)⟩ found
          · exact .begin trivial found
  | asking retries =>
      have heard := interpreter.becomes_of_attempt entry progress
      have asked := fun left stage =>
        @Turn.ask _ interpreter entry progress left stage
      rcases attempted : interpreter.attempt (.ofKey (.ofText entry.text)) progress with
        ⟨outcome, following⟩
      dsimp only at heard
      rw [attempted] at heard asked
      cases retries with
      | zero =>
          dsimp only [advance]
          rw [attempted]
          exact asked 0 _ heard
      | succ retries =>
          dsimp only [advance]
          rw [attempted]
          cases outcome with
          | ok answer => exact asked _ _ heard
          | error error =>
              dsimp only
              split
              · exact asked _ _ trivial
              · exact asked _ _ heard
  | resolved resolution =>
      dsimp only [advance]
      cases found : progress.cache.get? (.ofText entry.text) with
      | some winner => exact .serve found
      | none => exact .store found

variable {interpreter} {next : Stage} {following : Progress State}

theorem Turn.kept (turn : interpreter.Turn entry progress stage next following) :
    progress.cache.KeptBy following.cache := by
  cases turn with
  | rest ended => exact .refl _
  | serve found => exact .refl _
  | begin justified missing => exact .refl _
  | ask justified => exact Cache.keptBy_submitAll _
  | store missing => exact Cache.keptBy_add _ _

theorem Turn.justified (turn : interpreter.Turn entry progress stage next following)
    (justified : interpreter.Justified progress.cache entry stage) :
    interpreter.Justified following.cache entry next := by
  cases turn with
  | rest ended => exact justified
  | serve found => exact ⟨rfl, Competitor.backedBy_rebind found .cached⟩
  | begin justified missing => exact justified
  | ask justified => exact justified
  | @store resolution missing =>
      have kept : (interpreter.compete entry resolution).entry = entry :=
        interpreter.entry_compete resolution
      refine ⟨kept, _, ?_, rfl, rfl⟩
      rw [kept]
      exact Cache.get?_add_self _ missing

theorem Turn.unaided (turn : interpreter.Turn entry progress stage next following)
    (justified : interpreter.Justified progress.cache entry stage)
    (unaided : interpreter.Unaided progress.cache) : interpreter.Unaided following.cache := by
  refine ⟨fun pair member => ?_, unaided.submitted⟩
  cases turn with
  | rest ended => exact unaided.stored pair member
  | serve found => exact unaided.stored pair member
  | begin justified missing => exact unaided.stored pair member
  | ask justified =>
      rcases Cache.mem_submitAll member with old | new
      · exact unaided.stored pair old
      · exact unaided.submitted _ _ pair new
  | store missing =>
      rcases List.mem_append.mp member with old | new
      · exact unaided.stored pair old
      · rcases justified with ⟨last, becomes⟩
        rw [List.mem_singleton.mp new]
        exact ⟨entry, last, rfl, becomes⟩

/-! ## Turns in a row -/

variable (interpreter)

/-- On the way to the second cache nothing was lost, and only interpretations came in. -/
structure Enlarged (before after : Cache) : Prop where
  kept : before.KeptBy after
  unaided : interpreter.Unaided before → interpreter.Unaided after

variable {interpreter} {middle : Cache}

theorem Enlarged.refl (cache : Cache) : interpreter.Enlarged cache cache := ⟨.refl cache, id⟩

theorem Enlarged.trans (first : interpreter.Enlarged cache middle)
    (second : interpreter.Enlarged middle after) : interpreter.Enlarged cache after :=
  ⟨first.kept.trans second.kept, fun unaided => second.unaided (first.unaided unaided)⟩

theorem Turn.enlarged (turn : interpreter.Turn entry progress stage next following)
    (justified : interpreter.Justified progress.cache entry stage) :
    interpreter.Enlarged progress.cache following.cache :=
  ⟨turn.kept, turn.unaided justified⟩

variable (interpreter) (entry) (progress)

/-- Where a worker has come to, seen from the cache with which it began. -/
structure Course (start : Cache) (entry : Entry) (reached : Stage × Progress State) : Prop where
  enlarged : interpreter.Enlarged start reached.2.cache
  justified : interpreter.Justified reached.2.cache entry reached.1

theorem Course.advance {start : Cache} {reached : Stage × Progress State}
    (course : interpreter.Course start entry reached) :
    interpreter.Course start entry (interpreter.advance entry reached) := by
  rcases reached with ⟨stage, progress⟩
  have turn := interpreter.advance_turn entry stage progress
  exact ⟨course.enlarged.trans (turn.enlarged course.justified), turn.justified course.justified⟩

theorem interpret_course :
    interpreter.Course progress.cache entry
      (.done (interpreter.interpret entry progress).1,
        (interpreter.interpret entry progress).2) := by
  have began : interpreter.Course progress.cache entry (.waiting, progress) := ⟨.refl _, trivial⟩
  rcases interpreter.advance_waiting entry progress with ⟨turns, alone⟩
  rw [← alone]
  exact Function.Iterate.rec (interpreter.Course progress.cache entry) began
    (fun _ => Course.advance interpreter entry) turns

/-! ## Served from the cache -/

variable {progress}

/-- Whoever is backed is served, and nobody is asked. -/
theorem interpret_backed {competitor : Competitor} (backed : competitor.BackedBy progress.cache) :
    interpreter.interpret competitor.entry progress = (competitor.asCached, progress) := by
  rcases backed with ⟨stored, found, logic, reason⟩
  rw [interpreter.interpret_of_hit found, Competitor.rebind, logic, reason]
  rfl

variable {interpreter}

/-- Where interpretations alone have filled the cache, no other fallback plays than that
of the interpreter. -/
theorem Unaided.logic_eq {cache : Cache} {competitor : Competitor}
    (unaided : interpreter.Unaided cache) (backed : competitor.BackedBy cache)
    (degraded : competitor.isDegraded = true) :
    competitor.logic = .fallback interpreter.fallback := by
  rcases backed with ⟨stored, found, logic, _⟩
  rcases unaided.stored _ (mem_of_find? found) with ⟨entry, last, _, becomes⟩
  rw [Competitor.isDegraded, ← logic] at degraded
  rw [← logic]
  cases becomes with
  | rule replied checked => cases degraded
  | template replied => cases degraded
  | fallback fails => rfl

end Interpreter

end Dilemma
