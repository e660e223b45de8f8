import Dilemma.Interpretation.Interpreter
import Dilemma.Proofs.Interpretation.Lookup

/-! # Consulting the translator

How often a key needs the translator, what is heard in the end, and what an entry
becomes through it. All of this is said without following the attempts of the
interpreter, and then the attempts are shown to come to the same. -/

namespace Dilemma

/-! ## Failures that may pass -/

/-- No reply in time, a crash, or a reply that says that the service is away. -/
def Reaction.isTransient (timeout : Duration) (reaction : Reaction) : Bool :=
  timeout.nanoseconds ≤ reaction.delay.nanoseconds ||
    match reaction.reply with
    | .crashes => true
    | .returns (.error (.unavailable _)) => true
    | .returns (.error (.timedOut _)) => true
    | .returns (.error (.malformed _)) => false
    | .returns (.ok _) => false

theorem Reaction.isTransient_eq (timeout : Duration) (reaction : Reaction) :
    reaction.isTransient timeout =
      match Interpreter.receive timeout reaction with
      | .error error => error.isTransient
      | .ok _ => false := by
  rw [isTransient, Interpreter.receive]
  by_cases late : timeout.nanoseconds ≤ reaction.delay.nanoseconds
  · simp [late, TranslatorError.isTransient]
  · simp only [late, decide_false, Bool.false_or, if_false]
    cases reaction.reply with
    | crashes => rfl
    | returns result =>
        cases result with
        | ok answer => rfl
        | error error => cases error <;> rfl

/-- The reply comes before the time is up. -/
structure Reaction.RepliesInTime (timeout : Duration) (reply : Reply) (reaction : Reaction) :
    Prop where
  inTime : reaction.delay.nanoseconds < timeout.nanoseconds
  replied : reaction.reply = reply

theorem Template.name_of_ofName? {name : String} {template : Template}
    (found : Template.ofName? name = some template) : template.name = name := by
  simpa using List.find?_some found

namespace Interpreter

variable {State : Type}

/-! ## Reactions in a row -/

/-- The reactions to requests for one key, and the translator after them. -/
structure Consultation (State : Type) where
  reactions : List Reaction
  translator : State

namespace Consultation

variable (consultation : Consultation State)

/-- What the last reaction tells an interpreter that waits no longer than this. -/
def heard (timeout : Duration) : Option (Except TranslatorError Answer) :=
  consultation.reactions.getLast?.map (receive timeout)

/-- What others stored in the meantime. -/
def submissions : List (StrategyKey × Competitor) :=
  consultation.reactions.flatMap (·.submissions)

/-- The progress of an interpreter that has heard it all. -/
def absorbed (progress : Progress State) : Progress State where
  translator := consultation.translator
  cache := consultation.submissions.foldl
    (fun cache (key, value) => cache.submit key value) progress.cache
  calls := progress.calls + consultation.reactions.length

end Consultation

variable (interpreter : Interpreter State) (key : StrategyKey)

def consult : Nat → State → Consultation State
  | 0, translator => ⟨[], translator⟩
  | times + 1, translator =>
      let (reaction, translator) := interpreter.translator.translate (.ofKey key) translator
      let others := consult times translator
      ⟨reaction :: others.reactions, others.translator⟩

@[simp] theorem length_reactions_consult (times : Nat) (translator : State) :
    (interpreter.consult key times translator).reactions.length = times := by
  induction times generalizing translator with
  | zero => rfl
  | succ times induction => exact congrArg (· + 1) (induction _)

/-- How many attempts there are until one is final. -/
def attempts : (retries : Nat) → State → Nat
  | 0, _ => 1
  | retries + 1, translator =>
      let (reaction, translator) := interpreter.translator.translate (.ofKey key) translator
      if reaction.isTransient interpreter.settings.timeout then
        attempts retries translator + 1
      else 1

/-- The first of several reactions does not change what the last one tells. -/
theorem heard_consult_succ (timeout : Duration) (times : Nat) (translator : State) :
    let first := interpreter.translator.translate (.ofKey key) translator
    (interpreter.consult key (times + 1) translator).heard timeout =
      ((interpreter.consult key times first.2).heard timeout).or
        (some (receive timeout first.1)) := by
  intro first
  change (first.1 :: (interpreter.consult key times first.2).reactions).getLast?.map _ = _
  rw [List.getLast?_cons, Consultation.heard]
  cases (interpreter.consult key times first.2).reactions.getLast? with
  | none => rfl
  | some last => rfl

/-! ## Attempts as a consultation -/

theorem absorbed_consult_succ (times : Nat) (progress : Progress State) :
    let attempted := (interpreter.attempt (.ofKey key) progress).2
    (interpreter.consult key (times + 1) progress.translator).absorbed progress =
      (interpreter.consult key times attempted.translator).absorbed attempted := by
  intro attempted
  simp only [Consultation.absorbed, Consultation.submissions, consult, List.flatMap_cons,
    List.foldl_append, List.length_cons, Progress.mk.injEq]
  refine ⟨rfl, rfl, ?_⟩
  exact Nat.add_right_comm progress.calls _ 1

/-- Attempts follow each other as the reactions do, and the last one counts. -/
theorem translate_eq (retries : Nat) (progress : Progress State) :
    let times := interpreter.attempts key retries progress.translator
    let consultation := interpreter.consult key times progress.translator
    consultation.heard interpreter.settings.timeout =
        some (interpreter.translate (.ofKey key) retries progress).1 ∧
      (interpreter.translate (.ofKey key) retries progress).2 =
        consultation.absorbed progress := by
  induction retries generalizing progress with
  | zero => exact ⟨rfl, (interpreter.absorbed_consult_succ key 0 progress).symm⟩
  | succ retries induction =>
      let first := interpreter.translator.translate (.ofKey key) progress.translator
      let attempted := (interpreter.attempt (.ofKey key) progress).2
      have once : interpreter.attempt (.ofKey key) progress =
          (receive interpreter.settings.timeout first.1, attempted) := rfl
      have last := (interpreter.absorbed_consult_succ key 0 progress).symm
      have classified := first.1.isTransient_eq interpreter.settings.timeout
      rw [translate, once, attempts]
      dsimp only
      cases received : receive interpreter.settings.timeout first.1 with
      | ok answer =>
          rw [received] at classified
          rw [if_neg (Bool.eq_false_iff.mp classified)]
          exact ⟨congrArg some received, last⟩
      | error error =>
          rw [received] at classified
          by_cases transient : error.isTransient = true
          · rw [if_pos (classified.trans transient)]
            dsimp only
            rw [if_pos transient, heard_consult_succ, absorbed_consult_succ]
            rcases induction attempted with ⟨heard, absorbed⟩
            exact ⟨congrArg (Option.or · _) heard, absorbed⟩
          · rw [if_neg (fun raised => transient (classified.symm.trans raised))]
            dsimp only
            rw [if_neg transient]
            exact ⟨congrArg some received, last⟩

/-! ## Requests of a call -/

/-- How often a call for the key asks the translator. -/
def requests (progress : Progress State) : Nat :=
  let first := (interpreter.translator.translate (.ofKey key) progress.translator).1
  if (progress.cache.get? key).isSome ∨ interpreter.settings.maxTextBytes < key.size then 0
  else if interpreter.settings.retries = 1 ∧ first.isTransient interpreter.settings.timeout then 2
  else 1

theorem requests_le (progress : Progress State) : interpreter.requests key progress ≤ 2 := by
  dsimp only [requests]
  split
  · omega
  · split
    · omega
    · omega

/-- There is at most one retry, so only the first reaction matters. -/
theorem attempts_eq_requests {progress : Progress State}
    (missing : progress.cache.get? key = none)
    (short : ¬ interpreter.settings.maxTextBytes < key.size) :
    interpreter.attempts key interpreter.settings.retries progress.translator =
      interpreter.requests key progress := by
  have asked : ¬ ((progress.cache.get? key).isSome ∨
      interpreter.settings.maxTextBytes < key.size) := by
    simp [missing, short]
  rw [requests, if_neg asked]
  have atMostOne := interpreter.settings.retries_le_one
  cases left : interpreter.settings.retries with
  | zero => simp [attempts]
  | succ retries =>
      have last : retries = 0 := by omega
      subst last
      simp [attempts]

/-! ## What an entry becomes

The reactions are taken as they come from the translator: what is done with the last one is
said anew for each reply, in time or not. -/

/-- Why a key has no logic of its own, given the last reaction, if the translator was asked
at all. -/
inductive Fails : Option Reaction → InterpretationError → Prop where
  | tooLong (long : interpreter.settings.maxTextBytes < key.size) :
      Fails none (.textTooLong key.size interpreter.settings.maxTextBytes)
  | late {last : Reaction}
      (late : interpreter.settings.timeout.nanoseconds ≤ last.delay.nanoseconds) :
      Fails (some last) (.translator (.timedOut interpreter.settings.timeout))
  | crashed {last : Reaction} (replied : last.RepliesInTime interpreter.settings.timeout .crashes) :
      Fails (some last) (.translator (.unavailable "translator panicked before answering"))
  | failed {last : Reaction} {error : TranslatorError}
      (replied : last.RepliesInTime interpreter.settings.timeout (.returns (.error error))) :
      Fails (some last) (.translator error)
  | declined {last : Reaction} {reason : String}
      (replied : last.RepliesInTime interpreter.settings.timeout
        (.returns (.ok (.failed reason)))) :
      Fails (some last) (.declined reason)
  | invalid {last : Reaction} {draft : RuleDraft} {error : RuleError}
      (replied : last.RepliesInTime interpreter.settings.timeout (.returns (.ok (.rule draft))))
      (refused : draft.check key.fingerprint = .error error) :
      Fails (some last) (.invalidRule error)
  | unknown {last : Reaction} {name : String}
      (replied : last.RepliesInTime interpreter.settings.timeout (.returns (.ok (.template name))))
      (nameless : ∀ template : Template, template.name ≠ name) :
      Fails (some last) (.invalidRule (.unknownTemplate name))

/-- The competitor that an entry becomes, given the last reaction to its key. -/
inductive Becomes (entry : Entry) : Option Reaction → Competitor → Prop where
  | rule {last : Reaction} {draft : RuleDraft} {rule : Rule}
      (replied : last.RepliesInTime interpreter.settings.timeout (.returns (.ok (.rule draft))))
      (checked : draft.check (StrategyKey.ofText entry.text).fingerprint = .ok rule) :
      Becomes entry (some last) ⟨entry, .rule rule, .freshlyInterpreted, none⟩
  | template {last : Reaction} {template : Template}
      (replied : last.RepliesInTime interpreter.settings.timeout
        (.returns (.ok (.template template.name)))) :
      Becomes entry (some last)
        ⟨entry, .template template (StrategyKey.ofText entry.text).fingerprint,
          .freshlyInterpreted, none⟩
  | fallback {last : Option Reaction} {error : InterpretationError}
      (fails : interpreter.Fails (.ofText entry.text) last error) :
      Becomes entry last ⟨entry, .fallback interpreter.fallback, .fallback, some error.message⟩

section Received

variable {timeout : Duration} {last : Reaction}

/-- An answer is heard only if it was given in time. -/
theorem repliesInTime_of_receive_ok {answer : Answer}
    (received : receive timeout last = .ok answer) :
    last.RepliesInTime timeout (.returns (.ok answer)) := by
  rw [receive] at received
  split at received
  · cases received
  · rename_i early
    refine ⟨Nat.not_le.mp early, ?_⟩
    split at received
    · rename_i replied
      rw [replied, received]
    · cases received

theorem fails_of_receive_error {error : TranslatorError}
    (received : receive interpreter.settings.timeout last = .error error) :
    interpreter.Fails key (some last) (.translator error) := by
  rw [receive] at received
  split at received
  · rename_i late
    cases received
    exact .late late
  · rename_i early
    have inTime := Nat.not_le.mp early
    split at received
    · rename_i replied
      rw [received] at replied
      exact .failed ⟨inTime, replied⟩
    · rename_i crashed
      cases received
      exact .crashed ⟨inTime, crashed⟩

theorem becomes_of_answer (entry : Entry) {answer : Answer}
    (replied : last.RepliesInTime interpreter.settings.timeout (.returns (.ok answer))) :
    interpreter.Becomes entry (some last)
      (interpreter.compete entry (logicOf (.ofText entry.text) answer)) := by
  cases answer with
  | rule draft =>
      rw [logicOf]
      cases checked : draft.check (StrategyKey.ofText entry.text).fingerprint with
      | ok rule => exact .rule replied checked
      | error error => exact .fallback (.invalid replied checked)
  | template name =>
      rw [logicOf]
      cases found : Template.ofName? name with
      | some template =>
          rw [← Template.name_of_ofName? found] at replied
          exact .template replied
      | none =>
          refine .fallback (.unknown replied fun template named => ?_)
          rw [← named, Template.ofName?_name] at found
          cases found
  | failed reason => exact .fallback (.declined replied)

end Received

variable {interpreter} in
/-- A template that is named in time is what the entry becomes, and nothing else. -/
theorem Becomes.eq_of_template {entry : Entry} {last : Reaction} {template : Template}
    {result : Competitor} (becomes : interpreter.Becomes entry (some last) result)
    (replied : last.RepliesInTime interpreter.settings.timeout
      (.returns (.ok (.template template.name)))) :
    result = ⟨entry, .template template (StrategyKey.ofText entry.text).fingerprint,
      .freshlyInterpreted, none⟩ := by
  have only {reply : Reply}
      (again : last.RepliesInTime interpreter.settings.timeout reply) :
      reply = .returns (.ok (.template template.name)) :=
    again.replied.symm.trans replied.replied
  cases becomes with
  | rule again checked => cases only again
  | @template _ other again =>
      have named : other.name = template.name :=
        Answer.template.inj (Except.ok.inj (Reply.returns.inj (only again)))
      have known := Template.ofName?_name other
      rw [named, Template.ofName?_name] at known
      cases known
      rfl
  | fallback fails =>
      cases fails with
      | late late => exact absurd replied.inTime (Nat.not_lt.mpr late)
      | crashed again => cases only again
      | failed again => cases only again
      | declined again => cases only again
      | invalid again refused => cases only again
      | unknown again nameless =>
          cases only again
          exact absurd rfl (nameless template)

/-- A key that is missing is resolved by a consultation, and the last reaction decides. -/
theorem resolve_spec (entry : Entry) {progress : Progress State}
    (missing : progress.cache.get? (.ofText entry.text) = none) :
    let key := StrategyKey.ofText entry.text
    let consultation :=
      interpreter.consult key (interpreter.requests key progress) progress.translator
    interpreter.Becomes entry consultation.reactions.getLast?
        (interpreter.compete entry (interpreter.resolve key progress).1) ∧
      (interpreter.resolve key progress).2 = consultation.absorbed progress := by
  intro key consultation
  by_cases long : interpreter.settings.maxTextBytes < key.size
  · have none : consultation = ⟨[], progress.translator⟩ := by
      change interpreter.consult key (interpreter.requests key progress) _ = _
      rw [requests, if_pos (.inr long)]
      rfl
    rw [resolve, if_pos long, none]
    exact ⟨.fallback (.tooLong long), rfl⟩
  · have attempted := interpreter.translate_eq key interpreter.settings.retries progress
    rw [interpreter.attempts_eq_requests key missing long] at attempted
    rcases attempted with ⟨heard, absorbed⟩
    rcases Option.map_eq_some_iff.mp heard with ⟨last, lastOfAll, received⟩
    have ending : consultation.reactions.getLast? = some last := lastOfAll
    rw [resolve, if_neg long, ending]
    rcases translated : interpreter.translate (.ofKey key) interpreter.settings.retries progress
      with ⟨outcome, following⟩
    rw [translated] at absorbed received
    cases outcome with
    | ok answer =>
        exact ⟨interpreter.becomes_of_answer entry (repliesInTime_of_receive_ok received), absorbed⟩
    | error error =>
        exact ⟨.fallback (interpreter.fails_of_receive_error key received), absorbed⟩

end Interpreter

end Dilemma
