import Mathlib.Data.Finset.Card
import Mathlib.Data.Finset.Dedup
import Dilemma.Proofs.Interpretation.Consultation
import Dilemma.Proofs.Interpretation.Simulation

/-! # The translation budget

One client uses an interpreter in any way it likes. A text costs at most two
requests to the translator in all, since whatever comes of them stays in the
cache. -/

namespace Dilemma.Interpreter

variable {State : Type} (interpreter : Interpreter State)

/-! ## One call -/

theorem interpret_spec (entry : Entry) (before : Progress State) :
    let key := StrategyKey.ofText entry.text
    let consultation := interpreter.consult key (interpreter.requests key before) before.translator
    let result := (interpreter.interpret entry before).1
    let after := (interpreter.interpret entry before).2
    after.calls = before.calls + interpreter.requests key before ∧
      after.translator = consultation.translator ∧
      match before.cache.get? key with
      | some hit => result = hit.rebind entry .cached ∧ after.cache = before.cache
      | none =>
          match consultation.submissions.find? (·.1 = key) with
          | some (_, winner) =>
              result = winner.rebind entry .cached ∧ after.cache.get? key = some winner
          | none =>
              interpreter.Becomes entry consultation.reactions.getLast? result ∧
                after.cache.get? key = some result := by
  dsimp only
  cases found : before.cache.get? (.ofText entry.text) with
  | some hit =>
      have none : interpreter.requests (.ofText entry.text) before = 0 := by
        rw [requests, found]
        rfl
      rw [interpreter.interpret_of_hit found, none]
      exact ⟨rfl, rfl, rfl, rfl⟩
  | none =>
      rcases interpreter.resolve_spec entry found with ⟨becomes, absorbed⟩
      rcases consulted : interpreter.consult (.ofText entry.text)
        (interpreter.requests (.ofText entry.text) before) before.translator with
        ⟨reactions, translator⟩
      have many := interpreter.length_reactions_consult (.ofText entry.text)
        (interpreter.requests (.ofText entry.text) before) before.translator
      rw [consulted] at becomes absorbed many
      -- The key was free, so only what comes in with the reactions can hold it.
      have held : (interpreter.resolve (.ofText entry.text) before).2.cache.get?
          (.ofText entry.text) = ((Consultation.mk reactions translator).submissions.find?
            (·.1 = .ofText entry.text)).map (·.2) := by
        rw [absorbed]
        refine (before.cache.get?_submitAll _ _).trans ?_
        rw [found, Option.none_or]
      rw [← many]
      cases submitted : (Consultation.mk reactions translator).submissions.find?
          (·.1 = .ofText entry.text) with
      | some submission =>
          rw [submitted] at held
          rw [interpreter.interpret_of_lost found held]
          rw [absorbed] at held ⊢
          exact ⟨rfl, rfl, rfl, held⟩
      | none =>
          rw [submitted] at held
          rw [interpreter.interpret_of_won found held]
          rw [absorbed] at held ⊢
          dsimp only
          exact ⟨rfl, rfl, becomes, Cache.get?_add_self _ held⟩

/-! ## The calls of a client -/

inductive Call where
  | interpret (entry : Entry)
  | store (key : StrategyKey) (value : Competitor)
  | fetch (key : StrategyKey)

/-- The key that a call wants to have interpreted. -/
def Call.wanted? : Call → Option StrategyKey
  | .interpret entry => some (.ofText entry.text)
  | .store _ _ => none
  | .fetch _ => none

/-- A store that is refused and a fetch leave everything as it is. -/
def perform (call : Call) (progress : Progress State) : Progress State :=
  match call with
  | .interpret entry => (interpreter.interpret entry progress).2
  | .store key value =>
      match Interpreter.store key value progress with
      | .ok progress => progress
      | .error _ => progress
  | .fetch _ => progress

def run (calls : List Call) (progress : Progress State) : Progress State :=
  calls.foldl (fun progress call => interpreter.perform call progress) progress

theorem run_append (calls : List Call) (call : Call) (start : Progress State) :
    interpreter.run (calls ++ [call]) start =
      interpreter.perform call (interpreter.run calls start) := by
  rw [run, List.foldl_append]
  rfl

/-! ## What is cached stays -/

theorem interpreted_cached (entry : Entry) (before : Progress State) :
    ((interpreter.interpret entry before).2.cache.get? (.ofText entry.text)).isSome = true := by
  rcases interpreter.interpret_spec entry before with ⟨_, _, outcome⟩
  split at outcome
  · rename_i hit found
    rw [outcome.2, found]
    rfl
  · split at outcome
    · rw [outcome.2]
      rfl
    · rw [outcome.2]
      rfl

theorem interpret_keeps (entry : Entry) {before : Progress State} {key : StrategyKey}
    {value : Competitor} (found : before.cache.get? key = some value) :
    (interpreter.interpret entry before).2.cache.get? key = some value := by
  cases looked : before.cache.get? (.ofText entry.text) with
  | some hit => rw [interpreter.interpret_of_hit looked, found]
  | none =>
      have resolved : (interpreter.resolve (.ofText entry.text) before).2.cache.get? key =
          some value := by
        rw [(interpreter.resolve_spec entry looked).2]
        refine (before.cache.get?_submitAll _ _).trans ?_
        rw [found, Option.some_or]
      cases held : (interpreter.resolve (.ofText entry.text) before).2.cache.get?
          (.ofText entry.text) with
      | some winner => rw [interpreter.interpret_of_lost looked held, resolved]
      | none =>
          rw [interpreter.interpret_of_won looked held, Cache.get?_add, resolved, Option.some_or]

/-- What is stored without a conflict is submitted. -/
theorem cache_of_store {key : StrategyKey} {value : Competitor} {before after : Progress State}
    (stored : Interpreter.store key value before = .ok after) :
    after.cache = before.cache.submit key value := by
  rw [Interpreter.store] at stored
  rw [Cache.submit]
  cases inserted : before.cache.insert key value with
  | error conflict =>
      rw [inserted] at stored
      cases stored
  | ok result =>
      rw [inserted] at stored
      cases stored
      rfl

theorem store_keeps {other key : StrategyKey} {value added : Competitor}
    {before after : Progress State} (stored : Interpreter.store other added before = .ok after)
    (found : before.cache.get? key = some value) : after.cache.get? key = some value := by
  rw [cache_of_store stored, before.cache.get?_submit other key added, found, Option.some_or]

theorem perform_keeps (call : Call) {before : Progress State} {key : StrategyKey}
    {value : Competitor} (found : before.cache.get? key = some value) :
    (interpreter.perform call before).cache.get? key = some value := by
  cases call with
  | interpret entry => exact interpreter.interpret_keeps entry found
  | store other added =>
      rw [perform]
      split
      · rename_i after stored
        exact store_keeps stored found
      · exact found
  | fetch other => exact found

theorem run_keeps (calls : List Call) {start : Progress State} {key : StrategyKey}
    {value : Competitor} (found : start.cache.get? key = some value) :
    (interpreter.run calls start).cache.get? key = some value := by
  induction calls generalizing start with
  | nil => exact found
  | cons call rest induction => exact induction (interpreter.perform_keeps call found)

/-! ## Runs of one client -/

/-- Only a call for a key asks the translator, and only as often as the key needs. -/
theorem perform_asks (call : Call) (before : Progress State) :
    let after := interpreter.perform call before
    match call.wanted? with
    | some key =>
        after.calls = before.calls + interpreter.requests key before ∧
          after.translator = (interpreter.consult key (interpreter.requests key before)
            before.translator).translator
    | none => after.calls = before.calls ∧ after.translator = before.translator := by
  cases call with
  | interpret entry =>
      rcases interpreter.interpret_spec entry before with ⟨counted, translator, _⟩
      exact ⟨counted, translator⟩
  | store key value =>
      dsimp only [perform, Call.wanted?]
      rw [Interpreter.store]
      cases before.cache.insert key value with
      | error conflict => exact ⟨rfl, rfl⟩
      | ok result => exact ⟨rfl, rfl⟩
  | fetch key => exact ⟨rfl, rfl⟩

theorem perform_cached {call : Call} {key : StrategyKey} (wanted : call.wanted? = some key)
    (before : Progress State) :
    ((interpreter.perform call before).cache.get? key).isSome = true := by
  cases call with
  | interpret entry =>
      cases wanted
      exact interpreter.interpreted_cached entry before
  | store other value => cases wanted
  | fetch other => cases wanted

theorem run_cached (calls : List Call) (start : Progress State) {key : StrategyKey}
    (member : key ∈ calls.filterMap Call.wanted?) :
    ((interpreter.run calls start).cache.get? key).isSome = true := by
  rcases List.mem_filterMap.mp member with ⟨call, made, wanted⟩
  rcases List.append_of_mem made with ⟨earlier, later, rfl⟩
  have cached := interpreter.perform_cached wanted (interpreter.run earlier start)
  rcases Option.isSome_iff_exists.mp cached with ⟨value, found⟩
  have ran : interpreter.run (earlier ++ call :: later) start =
      interpreter.run later (interpreter.perform call (interpreter.run earlier start)) :=
    List.foldl_append
  rw [ran, interpreter.run_keeps later found]
  rfl

/-- The keys that were wanted so far are cached, and a cached key costs nothing. -/
theorem calls_run_le (calls : List Call) (start : Progress State) :
    (interpreter.run calls start).calls ≤
      start.calls + 2 * (calls.filterMap Call.wanted?).toFinset.card := by
  induction calls using List.reverseRecOn with
  | nil => exact Nat.le_add_right ..
  | append_singleton calls call induction =>
      have asked := interpreter.perform_asks call (interpreter.run calls start)
      rw [run_append, List.filterMap_append, List.filterMap_cons, List.filterMap_nil]
      cases wanted : call.wanted? with
      | none =>
          rw [wanted] at asked
          rw [asked.1, List.append_nil]
          exact induction
      | some key =>
          rw [wanted] at asked
          have perKey := interpreter.requests_le key (interpreter.run calls start)
          have union : (calls.filterMap Call.wanted? ++ [key]).toFinset =
              insert key (calls.filterMap Call.wanted?).toFinset := by
            rw [List.toFinset_append, Finset.union_comm]
            rfl
          rw [asked.1]
          dsimp only
          rw [union]
          by_cases known : key ∈ calls.filterMap Call.wanted?
          · have free : interpreter.requests key (interpreter.run calls start) = 0 :=
              if_pos (.inl (interpreter.run_cached calls start known))
            rw [Finset.insert_eq_of_mem (List.mem_toFinset.mpr known)]
            omega
          · rw [Finset.card_insert_of_notMem (fun member => known (List.mem_toFinset.mp member))]
            omega

/-- A call for a cached key, or for a text that is too long, does not ask the
translator. Any other asks once, or twice when the only retry is due, and the last
reaction decides what the entry becomes: a reply in time counts as it is, and one that
is late does not count. The key is cached from then on. If others
have stored something under the key while the translator was busy, that counts. -/
theorem run_within_budget (calls : List Call) (start : Progress State) :
    let before := interpreter.run calls start
    before.calls ≤ start.calls + 2 * (calls.filterMap Call.wanted?).toFinset.card ∧
    (∀ key value,
      let after := interpreter.perform (.store key value) before
      after.calls = before.calls ∧ after.translator = before.translator) ∧
    (∀ key, interpreter.perform (.fetch key) before = before) ∧
    ∀ entry,
      let key := StrategyKey.ofText entry.text
      let consultation :=
        interpreter.consult key (interpreter.requests key before) before.translator
      let result := (interpreter.interpret entry before).1
      let after := (interpreter.interpret entry before).2
      after.calls = before.calls + interpreter.requests key before ∧
      after.translator = consultation.translator ∧
      (∃ stored, ∀ more, (interpreter.run more after).cache.get? key = some stored) ∧
      match before.cache.get? key with
      | some hit => result = hit.rebind entry .cached ∧ after.cache = before.cache
      | none =>
          match consultation.submissions.find? (·.1 = key) with
          | some (_, winner) =>
              result = winner.rebind entry .cached ∧ after.cache.get? key = some winner
          | none =>
              interpreter.Becomes entry consultation.reactions.getLast? result ∧
                after.cache.get? key = some result := by
  intro before
  refine ⟨interpreter.calls_run_le calls start,
    fun key value => interpreter.perform_asks (.store key value) before, fun key => rfl, ?_⟩
  intro entry
  rcases interpreter.interpret_spec entry before with ⟨counted, translator, outcome⟩
  have cached := interpreter.interpreted_cached entry before
  rcases Option.isSome_iff_exists.mp cached with ⟨stored, found⟩
  exact ⟨counted, translator, ⟨stored, fun more => interpreter.run_keeps more found⟩, outcome⟩

/-- The translator crashes when it is asked first, and then it names a template in time. -/
theorem run_within_budget_after_crash :
    let translator : Translator Nat := ⟨fun _ asked =>
      (if asked = 0 then ⟨.crashes, ⟨0⟩, []⟩ else .immediate (.ok (.template "grim_trigger")),
        asked + 1)⟩
    let interpreter : Interpreter Nat := ⟨translator, .standard, Template.titForTat.asFunction 0⟩
    let entry : Entry := ⟨"a", "Never forgive"⟩
    let key := StrategyKey.ofText entry.text
    let after := (interpreter.interpret entry (.start 0)).2
    after.calls = 2 ∧ after.cache.get? key =
      some ⟨entry, .template .grimTrigger key.fingerprint, .freshlyInterpreted, none⟩ := by
  -- Of two reactions to a free key the second one decides.
  have decided (interpreter : Interpreter Nat) (entry : Entry) {first last : Reaction}
      (twice : interpreter.requests (.ofText entry.text) (.start 0) = 2)
      (consulted : interpreter.consult (.ofText entry.text)
        (interpreter.requests (.ofText entry.text) (.start 0)) (Progress.start 0).translator =
          ⟨[first, last], 2⟩)
      (alone : first.submissions ++ last.submissions = []) :
      (interpreter.interpret entry (.start 0)).2.calls = 2 ∧
        ∃ result, interpreter.Becomes entry (some last) result ∧
          (interpreter.interpret entry (.start 0)).2.cache.get? (.ofText entry.text) =
            some result := by
    have spec := (interpreter.run_within_budget [] (.start 0)).2.2.2 entry
    have before : interpreter.run [] (.start 0) = .start 0 := rfl
    have free : (Progress.start 0).cache.get? (.ofText entry.text) = none := rfl
    have silent : Consultation.submissions ⟨[first, last], 2⟩ = [] := by
      simpa [Consultation.submissions] using alone
    rw [before] at spec
    simp only [free, consulted, silent, List.find?_nil] at spec
    exact ⟨spec.1.trans (congrArg (0 + ·) twice), _, spec.2.2.2⟩
  intro translator interpreter entry key after
  have twice : interpreter.requests key (.start 0) = 2 := by decide +kernel
  have consulted : interpreter.consult key (interpreter.requests key (.start 0)) 0 =
      ⟨[⟨.crashes, ⟨0⟩, []⟩, .immediate (.ok (.template "grim_trigger"))], 2⟩ := by
    rw [twice]
    rfl
  have replied : Reaction.RepliesInTime interpreter.settings.timeout
      (.returns (.ok (.template Template.grimTrigger.name)))
      (.immediate (.ok (.template "grim_trigger"))) := ⟨by decide, rfl⟩
  rcases decided interpreter entry twice consulted rfl with ⟨calls, result, becomes, cached⟩
  exact ⟨calls, cached.trans (congrArg some (becomes.eq_of_template replied))⟩

end Dilemma.Interpreter
