import Dilemma.Proofs.Interpretation.Budget
import Dilemma.Proofs.Interpretation.Recognition
import Dilemma.Proofs.Play.Anomalies

/-! # Interpretation without a service

An interpreter that asks the recogniser hears an answer at the first attempt. It falls back
only where a text is too long or not recognised, and whatever it recognised plays every
match without a failed decision. -/

namespace Dilemma

open Recognizer (recognize)

/-! ## Recognised logic -/

namespace Interpreter

/-- The recogniser gives up, or what it answers is a logic that always names a move. -/
theorem logicOf_recognize (key : StrategyKey) (text : String) :
    (∃ reason, recognize text = .failed reason ∧
      logicOf key (recognize text) = .error (.declined reason)) ∨
    ∃ logic, logicOf key (recognize text) = .ok logic ∧ logic.isFallback = false ∧
      ∀ situation, ∃ move, logic.decide situation = .plays move := by
  have sensible := Recognizer.sensible_recognize text
  cases answer : recognize text with
  | rule draft =>
      rw [answer] at sensible
      rcases sensible.exists_check key.fingerprint with ⟨rule, accepted⟩
      refine .inr ⟨.rule rule, by rw [logicOf, accepted], rfl, fun situation => ?_⟩
      rcases sensible.plays accepted situation with ⟨move, played⟩
      exact ⟨move, by rw [Logic.decide, played, Decision.ofExcept]⟩
  | template name =>
      rw [answer] at sensible
      rcases sensible with ⟨template, known⟩
      exact .inr ⟨.template template key.fingerprint, by rw [logicOf, known], rfl,
        fun situation => ⟨_, rfl⟩⟩
  | failed reason => exact .inl ⟨reason, rfl, rfl⟩

theorem flawless_of_recognized {key : StrategyKey} {text : String} {competitor : Competitor}
    (recognized : logicOf key (recognize text) = .ok competitor.logic) :
    competitor.Flawless := by
  rcases logicOf_recognize key text with ⟨reason, -, declined⟩ | ⟨logic, resolved, -, steady⟩
  · rw [declined] at recognized
    cases recognized
  · rw [resolved] at recognized
    cases recognized
    exact Competitor.NeverFails.flawless steady

/-! ## Asking the recogniser -/

variable {State : Type}

/-- The translator answers what the recogniser does, in time, and nobody else stores the key
that it is asked about. -/
structure Recognizes (interpreter : Interpreter State) : Prop where
  answers : ∀ request state, (interpreter.translator.translate request state).1.reply =
    .returns (.ok (recognize request.text))
  inTime : ∀ request state,
    (interpreter.translator.translate request state).1.delay.nanoseconds <
      interpreter.settings.timeout.nanoseconds
  undisturbed : ∀ request state,
    ∀ submission ∈ (interpreter.translator.translate request state).1.submissions,
      submission.1.text ≠ request.text

/-- The recogniser itself answers at once. -/
theorem recognizes_translator {settings : InterpreterSettings} (fallback : DecisionFunction)
    (patient : 0 < settings.timeout.nanoseconds) :
    (⟨Recognizer.translator, settings, fallback⟩ : Interpreter State).Recognizes :=
  ⟨fun _ _ => rfl, fun _ _ => patient, fun _ _ _ member => absurd member List.not_mem_nil⟩

variable {interpreter : Interpreter State}

theorem attempt_recognizes (asks : interpreter.Recognizes) (request : Request)
    (progress : Progress State) :
    (interpreter.attempt request progress).1 = .ok (recognize request.text) := by
  have inTime := asks.inTime request progress.translator
  change receive interpreter.settings.timeout
    (interpreter.translator.translate request progress.translator).1 = _
  unfold receive
  rw [if_neg (Nat.not_le.mpr inTime), asks.answers request progress.translator]

/-- The first answer counts, so no retry is made. -/
theorem translate_recognizes (asks : interpreter.Recognizes) (request : Request)
    (retries : Nat) (progress : Progress State) :
    interpreter.translate request retries progress =
      (.ok (recognize request.text), (interpreter.attempt request progress).2) := by
  have answered := attempt_recognizes asks request progress
  cases attempted : interpreter.attempt request progress with
  | mk result after =>
      rw [attempted] at answered
      cases answered
      cases retries with
      | zero => rw [translate, attempted]
      | succ retries => rw [translate, attempted]

/-- What others store in the meantime is stored for other keys. -/
theorem get?_attempt {request : Request} {key : StrategyKey} {progress : Progress State}
    (unseeded : ∀ submission ∈
      (interpreter.translator.translate request progress.translator).1.submissions,
      submission.1 ≠ key) :
    (interpreter.attempt request progress).2.cache.get? key = progress.cache.get? key := by
  let reaction := (interpreter.translator.translate request progress.translator).1
  have unseen : reaction.submissions.find? (·.1 = key) = none := by
    refine List.find?_eq_none.mpr fun submission member => ?_
    rw [decide_eq_true_eq]
    exact unseeded submission member
  refine (progress.cache.get?_submitAll reaction.submissions key).trans ?_
  rw [unseen, Option.map_none, Option.or_none]

theorem resolve_recognizes (asks : interpreter.Recognizes) (key : StrategyKey)
    (progress : Progress State) :
    (interpreter.resolve key progress).1 =
      if interpreter.settings.maxTextBytes < key.size then
        .error (.textTooLong key.size interpreter.settings.maxTextBytes)
      else logicOf key (recognize key.text) := by
  rw [resolve, translate_recognizes asks]
  dsimp only
  split <;> rfl

theorem get?_resolve (asks : interpreter.Recognizes) {asked key : StrategyKey}
    {progress : Progress State} (unseeded : ∀ submission ∈
      (interpreter.translator.translate (.ofKey asked) progress.translator).1.submissions,
      submission.1 ≠ key) :
    (interpreter.resolve asked progress).2.cache.get? key = progress.cache.get? key := by
  rw [resolve, translate_recognizes asks]
  dsimp only
  split
  · rfl
  · exact get?_attempt unseeded

/-- Nobody else stores the key that is resolved. -/
theorem get?_resolve_self (asks : interpreter.Recognizes) {key : StrategyKey}
    {progress : Progress State} (absent : progress.cache.get? key = none) :
    (interpreter.resolve key progress).2.cache.get? key = none := by
  refine (get?_resolve asks fun submission member same => ?_).trans absent
  subst same
  exact asks.undisturbed (.ofKey submission.1) progress.translator submission member rfl

/-- What became of an entry whose key was free is what its key was resolved to. -/
theorem interpret_recognizes (asks : interpreter.Recognizes) {entry : Entry}
    {progress : Progress State}
    (absent : progress.cache.get? (.ofText entry.text) = none) :
    (interpreter.interpret entry progress).1 =
      interpreter.compete entry (interpreter.resolve (.ofText entry.text) progress).1 :=
  congrArg Prod.fst (interpreter.interpret_of_won absent (get?_resolve_self asks absent))

/-- The text is too long, or nothing is recognised in it. -/
def Unrecognized (interpreter : Interpreter State) (key : StrategyKey) : Prop :=
  interpreter.settings.maxTextBytes < key.size ∨ ∃ reason, recognize key.text = .failed reason

/-- A key is resolved unless it is too long or was declined, and no other error occurs. -/
theorem resolve_cases (asks : interpreter.Recognizes) (key : StrategyKey)
    (progress : Progress State) :
    (interpreter.Unrecognized key ∧ ∃ error,
      (interpreter.resolve key progress).1 = .error error ∧
      (error = .textTooLong key.size interpreter.settings.maxTextBytes ∨
        ∃ reason, error = .declined reason)) ∨
    (¬ interpreter.Unrecognized key ∧ ∃ logic, logic.isFallback = false ∧
      (interpreter.resolve key progress).1 = .ok logic ∧
      logicOf key (recognize key.text) = .ok logic) := by
  rw [resolve_recognizes asks]
  by_cases long : interpreter.settings.maxTextBytes < key.size
  · rw [if_pos long]
    exact .inl ⟨.inl long, _, rfl, .inl rfl⟩
  · rw [if_neg long]
    rcases logicOf_recognize key key.text with
      ⟨reason, failed, declined⟩ | ⟨logic, resolved, real, -⟩
    · exact .inl ⟨.inr ⟨reason, failed⟩, _, declined, .inr ⟨reason, rfl⟩⟩
    · refine .inr ⟨?_, logic, real, resolved, resolved⟩
      rintro (tooLong | ⟨reason, failed⟩)
      · exact long tooLong
      · rw [failed] at resolved
        cases resolved

/-! ## Keys that the interpreter has cached itself -/

/-- The key is free, or it holds what an earlier call has made of an entry. -/
def Earned (interpreter : Interpreter State) (key : StrategyKey) (cache : Cache) : Prop :=
  ∀ hit, cache.get? key = some hit → ∃ (entry : Entry) (earlier : Progress State),
    StrategyKey.ofText entry.text = key ∧ earlier.cache.get? key = none ∧
      (interpreter.interpret entry earlier).1 = hit

theorem earned_of_absent {key : StrategyKey} {cache : Cache} (absent : cache.get? key = none) :
    interpreter.Earned key cache := by
  intro hit found
  rw [absent] at found
  cases found

section Earning

variable (asks : interpreter.Recognizes) {key : StrategyKey}
  (unseeded : ∀ request state,
    ∀ submission ∈ (interpreter.translator.translate request state).1.submissions,
      submission.1 ≠ key)

include asks unseeded

/-- A call stores only what it has made of its entry. -/
theorem Earned.interpret {before : Progress State}
    (earned : interpreter.Earned key before.cache) (entry : Entry) :
    interpreter.Earned key (interpreter.interpret entry before).2.cache := by
  cases looked : before.cache.get? (.ofText entry.text) with
  | some hit =>
      rw [interpreter.interpret_of_hit looked]
      exact earned
  | none =>
      have free := get?_resolve_self asks looked
      have kept : (interpreter.resolve (.ofText entry.text) before).2.cache.get? key =
          before.cache.get? key := get?_resolve asks (unseeded _ _)
      have won := interpreter.interpret_of_won looked free
      intro hit found
      rw [won] at found
      by_cases own : StrategyKey.ofText entry.text = key
      · subst own
        rw [Cache.get?_add_self _ free] at found
        refine ⟨entry, before, rfl, looked, ?_⟩
        rw [won]
        exact Option.some.inj found
      · rw [Cache.get?_add_other _ _ own, kept] at found
        exact earned hit found

theorem Earned.perform {before : Progress State}
    (earned : interpreter.Earned key before.cache) {call : Call}
    (other : ∀ value, call ≠ .store key value) :
    interpreter.Earned key (interpreter.perform call before).cache := by
  cases call with
  | interpret entry => exact earned.interpret asks unseeded entry
  | fetch fetched => exact earned
  | store stored value =>
      rw [Interpreter.perform]
      split
      · rename_i after done
        have different : stored ≠ key := by
          rintro rfl
          exact other value rfl
        rw [Earned, cache_of_store done, before.cache.get?_submit, if_neg different,
          Option.or_none]
        exact earned
      · exact earned

/-- Where a client does not store the key, it is free or earned. -/
theorem earned_run (calls : List Call) (unstored : ∀ value, .store key value ∉ calls)
    (state : State) :
    interpreter.Earned key (interpreter.run calls (.start state)).cache := by
  induction calls using List.reverseRecOn with
  | nil => exact earned_of_absent rfl
  | append_singleton calls call induction =>
      rw [run_append]
      refine (induction fun value member => ?_).perform asks unseeded fun value same => ?_
      · exact unstored value (List.mem_append_left _ member)
      · exact unstored value (List.mem_append_right _ (List.mem_singleton.mpr same.symm))

end Earning

/-- What plays for a key: the fallback where its text is not recognised, and else the logic that
was recognised. -/
inductive Renders (interpreter : Interpreter State) (key : StrategyKey) : Logic → Prop where
  | fallback (unrecognized : interpreter.Unrecognized key) :
      Renders interpreter key (.fallback interpreter.fallback)
  | own {logic : Logic} (recognized : ¬ interpreter.Unrecognized key)
      (real : logic.isFallback = false) (found : logicOf key (recognize key.text) = .ok logic) :
      Renders interpreter key logic

theorem renders_of_absent (asks : interpreter.Recognizes) {entry : Entry}
    {progress : Progress State}
    (absent : progress.cache.get? (.ofText entry.text) = none) :
    interpreter.Renders (.ofText entry.text) (interpreter.interpret entry progress).1.logic := by
  rw [interpret_recognizes asks absent]
  rcases resolve_cases asks (.ofText entry.text) progress with
    ⟨unrecognized, error, failed, -⟩ | ⟨recognized, logic, real, resolved, found⟩
  · rw [failed]
    exact .fallback unrecognized
  · rw [resolved]
    exact .own recognized real found

/-- What is served from the cache was made of the same key when it was free. -/
theorem renders_of_earned (asks : interpreter.Recognizes) {entry : Entry}
    {progress : Progress State}
    (earned : interpreter.Earned (.ofText entry.text) progress.cache) :
    interpreter.Renders (.ofText entry.text) (interpreter.interpret entry progress).1.logic := by
  cases looked : progress.cache.get? (.ofText entry.text) with
  | none => exact renders_of_absent asks looked
  | some hit =>
      rcases earned hit looked with ⟨first, earlier, same, absent, made⟩
      have served : (interpreter.interpret entry progress).1.logic = hit.logic :=
        congrArg (·.1.logic) (interpreter.interpret_of_hit looked)
      rw [← same] at absent
      have rendered := renders_of_absent asks absent
      rw [same, made] at rendered
      rwa [served]

/-- What an entry becomes is the fallback exactly where its text is not recognised. -/
theorem outcome_recognizes (asks : interpreter.Recognizes) {entry : Entry}
    {progress : Progress State}
    (earned : interpreter.Earned (.ofText entry.text) progress.cache) :
    ((interpreter.interpret entry progress).1.isDegraded = true ↔
      interpreter.Unrecognized (.ofText entry.text)) ∧
    (¬ interpreter.Unrecognized (.ofText entry.text) →
      (interpreter.interpret entry progress).1.Flawless) := by
  have rendered := renders_of_earned asks earned
  rw [Competitor.isDegraded]
  generalize played : (interpreter.interpret entry progress).1.logic = logic at rendered ⊢
  cases rendered with
  | fallback unrecognized => exact ⟨iff_of_true rfl unrecognized, absurd unrecognized⟩
  | own recognized real found =>
      rw [← played] at found
      rw [real]
      exact ⟨iff_of_false Bool.false_ne_true recognized, fun _ => flawless_of_recognized found⟩

/-- Of a key that was free the provenance tells whether its text was recognised. -/
theorem provenance_recognizes (asks : interpreter.Recognizes) {entry : Entry}
    {progress : Progress State}
    (absent : progress.cache.get? (.ofText entry.text) = none) :
    (interpreter.interpret entry progress).1.provenance = .fallback ↔
      interpreter.Unrecognized (.ofText entry.text) := by
  rw [interpret_recognizes asks absent]
  rcases resolve_cases asks (.ofText entry.text) progress with
    ⟨unrecognized, error, failed, -⟩ | ⟨recognized, logic, -, resolved, -⟩
  · rw [failed]
    exact iff_of_true rfl unrecognized
  · rw [resolved]
    exact iff_of_false Provenance.noConfusion recognized

end Interpreter

/-- The recogniser answers nothing that an interpreter would not accept. So only texts that
are too long or not recognised make it fall back, be they new or cached by it before, and what
it does recognise plays without a failed decision. -/
theorem recognized_is_accepted :
    (∀ text, (∃ reason, recognize text = .failed reason) ∨
      (∃ name template, recognize text = .template name ∧
        Template.ofName? name = some template) ∨
      ∃ draft, recognize text = .rule draft ∧ ∀ seed, ∃ rule, draft.check seed = .ok rule) ∧
    (∀ (tokens : List String) (position : Nat),
      tokens.findIdx? (· = "first") = some position →
      ∃ before after, Recognizer.slice? tokens 0 position = some before ∧
        Recognizer.slice? tokens (position + 1) tokens.length = some after ∧
        Recognizer.opening? tokens = (after.findSome? Recognizer.number?).map
          (Recognizer.openingClause ((before.findSome? Recognizer.move?).getD .cooperate))) ∧
    (∀ {State : Type} (interpreter : Interpreter State), interpreter.Recognizes →
      (∀ (entry : Entry) (progress : Interpreter.Progress State),
        interpreter.Earned (.ofText entry.text) progress.cache →
        ((interpreter.interpret entry progress).1.isDegraded = true ↔
          interpreter.Unrecognized (.ofText entry.text)) ∧
        (progress.cache.get? (.ofText entry.text) = none →
          ((interpreter.interpret entry progress).1.provenance = .fallback ↔
            interpreter.Unrecognized (.ofText entry.text))) ∧
        (∀ error, (interpreter.resolve (.ofText entry.text) progress).1 = .error error →
          (∃ size limit, error = .textTooLong size limit) ∨ ∃ reason, error = .declined reason) ∧
        (¬ interpreter.Unrecognized (.ofText entry.text) →
          (interpreter.interpret entry progress).1.Flawless)) ∧
      ∀ (key : StrategyKey) (calls : List Interpreter.Call) (state : State),
        (∀ value, .store key value ∉ calls) →
        (∀ request other,
          ∀ submission ∈ (interpreter.translator.translate request other).1.submissions,
            submission.1 ≠ key) →
        interpreter.Earned key (interpreter.run calls (.start state)).cache) ∧
    (∀ (key : StrategyKey) (text : String) (competitor : Competitor),
      Interpreter.logicOf key (recognize text) = .ok competitor.logic → competitor.Flawless) := by
  refine ⟨fun text => ?_, fun tokens position => Recognizer.opening?_eq_slices, ?_,
    fun key text competitor => Interpreter.flawless_of_recognized⟩
  · have sensible := Recognizer.sensible_recognize text
    cases answer : recognize text with
    | rule draft =>
        rw [answer] at sensible
        exact .inr (.inr ⟨draft, rfl, sensible.exists_check⟩)
    | template name =>
        rw [answer] at sensible
        rcases sensible with ⟨template, known⟩
        exact .inr (.inl ⟨name, template, rfl, known⟩)
    | failed reason => exact .inl ⟨reason, rfl⟩
  · intro State interpreter asks
    refine ⟨fun entry progress earned => ?_, fun key calls state unstored unseeded =>
      Interpreter.earned_run asks unseeded calls unstored state⟩
    rcases Interpreter.outcome_recognizes asks earned with ⟨degraded, flawless⟩
    refine ⟨degraded, Interpreter.provenance_recognizes asks, ?_, flawless⟩
    intro error resolved
    rcases Interpreter.resolve_cases asks (.ofText entry.text) progress with
      ⟨-, other, failed, kind⟩ | ⟨-, logic, -, accepted, -⟩
    · rw [failed] at resolved
      cases resolved
      exact kind.imp_left fun tooLong => ⟨_, _, tooLong⟩
    · rw [accepted] at resolved
      cases resolved

/-- The same text twice, the second time served from the cache. -/
theorem recognized_is_accepted_offline :
    let interpreter : Interpreter Unit :=
      ⟨Recognizer.translator, .standard, Template.titForTat.asFunction 0⟩
    let entry : Entry := ⟨"a", "Betray me"⟩
    let before := interpreter.run [.interpret ⟨"b", "betray ME"⟩] (.start ())
    (∃ before after, Recognizer.slice? ["defect", "first", "3"] 0 1 = some before ∧
      Recognizer.slice? ["defect", "first", "3"] 2 3 = some after ∧
      Recognizer.opening? ["defect", "first", "3"] = (after.findSome? Recognizer.number?).map
        (Recognizer.openingClause ((before.findSome? Recognizer.move?).getD .cooperate))) ∧
    ((interpreter.interpret entry (.start ())).1.provenance = .fallback ↔
      interpreter.Unrecognized (.ofText entry.text)) ∧
    ((interpreter.interpret entry before).1.isDegraded = true ↔
      interpreter.Unrecognized (.ofText entry.text)) ∧
    ∃ logic, Interpreter.logicOf ⟨"betray me"⟩ (recognize "betray me") = .ok logic ∧
      Competitor.Flawless ⟨entry, logic, .freshlyInterpreted, none⟩ := by
  intro interpreter entry before
  have asks : interpreter.Recognizes := Interpreter.recognizes_translator _ (by decide)
  have succeeds : (Interpreter.logicOf ⟨"betray me"⟩ (recognize "betray me")).toOption.isSome =
      true := by decide +kernel
  rcases recognized_is_accepted with ⟨_, slices, interpreted, flawless⟩
  rcases interpreted interpreter asks with ⟨outcome, earns⟩
  have fresh := outcome entry (.start ()) (Interpreter.earned_of_absent rfl)
  have earned : interpreter.Earned (.ofText entry.text) before.cache :=
    earns _ _ () (fun _ => by simp) (fun _ _ _ member => absurd member List.not_mem_nil)
  refine ⟨slices _ 1 rfl, fresh.2.1 rfl, (outcome entry before earned).1, ?_⟩
  cases resolved : Interpreter.logicOf ⟨"betray me"⟩ (recognize "betray me") with
  | ok logic => exact ⟨logic, rfl, flawless _ _ _ resolved⟩
  | error error =>
      rw [resolved] at succeeds
      cases succeeds

end Dilemma
