import Dilemma.Interpretation.Translator
import Dilemma.Rule.Checking
import Dilemma.Settings

/-! # Interpretation

The interpreter turns entries into competitors, once for each key. It asks the
translator, checks the answer, and puts the fallback in place of whatever
fails. The outcome is cached, failures included. -/

namespace Dilemma

inductive InterpretationError where
  | translator (error : TranslatorError)
  | declined (reason : String)
  | invalidRule (error : RuleError)
  | textTooLong (size limit : Nat)
  deriving DecidableEq, Repr

def InterpretationError.message : InterpretationError → String
  | translator error => s!"translation failed: {error.message}"
  | declined reason => s!"translator declined the strategy: {reason}"
  | invalidRule error => s!"unsafe rule: {error.message}"
  | textTooLong size limit => s!"strategy text is {size} bytes, limit is {limit}"

structure Interpreter (State : Type) where
  translator : Translator State
  settings : InterpreterSettings
  fallback : DecisionFunction

/-- What changes while an interpreter works. -/
structure Interpreter.Progress (State : Type) where
  translator : State
  cache : Cache
  /-- How often the translator has been asked so far. -/
  calls : Nat

namespace Interpreter

variable {State : Type}

def Progress.start (translator : State) : Progress State := ⟨translator, .empty, 0⟩

/-! ## Asking the translator -/

/-- A reply counts if it comes before the time is up. -/
def receive (timeout : Duration) (reaction : Reaction) : Except TranslatorError Answer :=
  if timeout.nanoseconds ≤ reaction.delay.nanoseconds then .error (.timedOut timeout)
  else match reaction.reply with
    | .returns result => result
    | .crashes => .error (.unavailable "translator panicked before answering")

/-- One attempt. -/
def attempt (interpreter : Interpreter State) (request : Request)
    (progress : Progress State) : Except TranslatorError Answer × Progress State :=
  let (reaction, translator) := interpreter.translator.translate request progress.translator
  let cache := reaction.submissions.foldl (fun cache (key, value) => cache.submit key value)
    progress.cache
  (receive interpreter.settings.timeout reaction, ⟨translator, cache, progress.calls + 1⟩)

/-- Attempts until one is not a transient failure or no retry is left. -/
def translate (interpreter : Interpreter State) (request : Request) :
    (retries : Nat) → Progress State → Except TranslatorError Answer × Progress State
  | 0, progress => interpreter.attempt request progress
  | retries + 1, progress =>
      match interpreter.attempt request progress with
      | (.error error, progress) =>
          if error.isTransient then interpreter.translate request retries progress
          else (.error error, progress)
      | (.ok answer, progress) => (.ok answer, progress)

/-! ## Resolving a key -/

/-- The logic that an answer describes. -/
def logicOf (key : StrategyKey) : Answer → Except InterpretationError Logic
  | .rule draft =>
      match draft.check key.fingerprint with
      | .ok rule => .ok (.rule rule)
      | .error error => .error (.invalidRule error)
  | .template name =>
      match Template.ofName? name with
      | some template => .ok (.template template key.fingerprint)
      | none => .error (.invalidRule (.unknownTemplate name))
  | .failed reason => .error (.declined reason)

/-- An answer has a meaning in one of two ways. -/
theorem logicOf_cases {key : StrategyKey} {answer : Answer} {logic : Logic}
    (meant : logicOf key answer = .ok logic) :
    (∃ draft rule, answer = .rule draft ∧ draft.check key.fingerprint = .ok rule ∧
      logic = .rule rule) ∨
    ∃ name template, answer = .template name ∧ Template.ofName? name = some template ∧
      logic = .template template key.fingerprint := by
  cases answer with
  | rule draft =>
      rw [logicOf] at meant
      split at meant
      · rename_i rule accepted
        cases meant
        exact .inl ⟨draft, rule, rfl, accepted, rfl⟩
      · cases meant
  | template name =>
      rw [logicOf] at meant
      split at meant
      · rename_i template found
        cases meant
        exact .inr ⟨name, template, rfl, found, rfl⟩
      · cases meant
  | failed reason => cases meant

def resolve (interpreter : Interpreter State) (key : StrategyKey)
    (progress : Progress State) : Except InterpretationError Logic × Progress State :=
  let limit := interpreter.settings.maxTextBytes
  if limit < key.size then (.error (.textTooLong key.size limit), progress)
  else
    match interpreter.translate (.ofKey key) interpreter.settings.retries progress with
    | (.ok answer, progress) => (logicOf key answer, progress)
    | (.error error, progress) => (.error (.translator error), progress)

/-- The competitor for an entry whose key was resolved just now. -/
def compete (interpreter : Interpreter State) (entry : Entry) :
    Except InterpretationError Logic → Competitor
  | .ok logic => ⟨entry, logic, .freshlyInterpreted, none⟩
  | .error error => ⟨entry, .fallback interpreter.fallback, .fallback, some error.message⟩

/-! ## Interpretation -/

/-- Never fails. If another client stored the key in the meantime, that
interpretation is the one that counts. -/
def interpret (interpreter : Interpreter State) (entry : Entry)
    (progress : Progress State) : Competitor × Progress State :=
  let key := StrategyKey.ofText entry.text
  match progress.cache.get? key with
  | some hit => (hit.rebind entry .cached, progress)
  | none =>
      let (resolution, progress) := interpreter.resolve key progress
      let fresh := interpreter.compete entry resolution
      match progress.cache.get? key with
      | some winner => (winner.rebind entry .cached, progress)
      | none => (fresh, { progress with cache := progress.cache.add key fresh })

/-- Store an interpretation from elsewhere. -/
def store (key : StrategyKey) (value : Competitor) (progress : Progress State) :
    Except CacheConflict (Progress State) := do
  let (_, cache) ← progress.cache.insert key value
  return { progress with cache }

end Interpreter

end Dilemma
