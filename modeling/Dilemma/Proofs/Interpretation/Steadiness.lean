import Mathlib.Data.List.Count
import Dilemma.Proofs.Interpretation.Lookup
import Dilemma.Proofs.Interpretation.Worker

/-! # Steady translators

A steady translator answers each text by itself: what it says depends on how often
it was asked about this text, and on no other text. With such a translator
everybody can tell in advance what becomes of a key, whoever else is at work. -/

namespace Dilemma

/-- The translator after requests for these keys, one after another. -/
def Translator.after {State : Type} (translator : Translator State) (state : State)
    (keys : List StrategyKey) : State :=
  keys.foldl (fun state key => (translator.translate (.ofKey key) state).2) state

/-- A translator that notes each text it is asked about, and answers by how often the text
was noted before. -/
def Translator.noting (answers : String → Nat → Except TranslatorError Answer) :
    Translator (List String) where
  translate request noted :=
    (.immediate (answers request.text (noted.count request.text)), request.text :: noted)

theorem Translator.after_noting (answers : String → Nat → Except TranslatorError Answer)
    (noted : List String) (keys : List StrategyKey) :
    (noting answers).after noted keys = (keys.map (·.text)).reverse ++ noted := by
  induction keys generalizing noted with
  | nil => rfl
  | cons key rest induction =>
      rw [List.map_cons, List.reverse_cons, List.append_assoc]
      exact induction (key.text :: noted)

namespace Interpreter

variable {State : Type} (interpreter : Interpreter State)

/-- The reaction to a request for the last key, after requests for the others. -/
def reaction (state : State) (earlier : List StrategyKey) (key : StrategyKey) : Reaction :=
  (interpreter.translator.translate (.ofKey key) (interpreter.translator.after state earlier)).1

def hears (state : State) (earlier : List StrategyKey) (key : StrategyKey) :
    Except TranslatorError Answer :=
  receive interpreter.settings.timeout (interpreter.reaction state earlier key)

/-- The keys of some texts. Requests are made for such keys only. -/
def keysOf (texts : List String) : List StrategyKey := texts.map .ofText

structure Steady (state : State) : Prop where
  alike : ∀ (earlier other : List String) (text : String),
    (keysOf earlier).count (.ofText text) = (keysOf other).count (.ofText text) →
      interpreter.hears state (keysOf earlier) (.ofText text) =
        interpreter.hears state (keysOf other) (.ofText text)
  /-- The translator does not touch the interpreter. -/
  silent : ∀ (earlier : List String) (text : String),
    (interpreter.reaction state (keysOf earlier) (.ofText text)).submissions = []

theorem steady_noting (answers : String → Nat → Except TranslatorError Answer)
    (settings : InterpreterSettings) (fallback : DecisionFunction) (noted : List String) :
    Steady ⟨.noting answers, settings, fallback⟩ noted where
  alike := by
    intro earlier other text same
    have textInjective : Function.Injective StrategyKey.text := by
      intro left right equal
      cases left
      cases right
      cases equal
      rfl
    have count (keys : List StrategyKey) :
        ((keys.map (·.text)).reverse ++ noted).count (StrategyKey.ofText text).text =
          keys.count (.ofText text) + noted.count (StrategyKey.ofText text).text := by
      rw [List.count_append, List.count_reverse, List.count_map_of_injective _ _ textInjective]
    rw [hears, hears, reaction, reaction, Translator.after_noting, Translator.after_noting]
    dsimp only [Translator.noting, Request.ofKey, Request.ofText]
    rw [count, count, same]
  silent := fun _ _ => rfl

/-! ## What becomes of a key -/

/-- The answer to a request for the key that comes after so many of them. -/
def answer (state : State) (key : StrategyKey) (asked : Nat) : Except TranslatorError Answer :=
  interpreter.hears state (List.replicate asked key) key

/-- What is heard in the end and how many requests there are then, if so many have
been made and so many retries are left. -/
def hear (answers : Nat → Except TranslatorError Answer) :
    (retries asked : Nat) → Except TranslatorError Answer × Nat
  | 0, asked => (answers asked, asked + 1)
  | retries + 1, asked =>
      match answers asked with
      | .error error =>
          if error.isTransient then hear answers retries (asked + 1)
          else (.error error, asked + 1)
      | .ok answer => (.ok answer, asked + 1)

/-- What the key is resolved to, and the number of requests that this takes. -/
def verdict (state : State) (key : StrategyKey) : Except InterpretationError Logic × Nat :=
  let limit := interpreter.settings.maxTextBytes
  if limit < key.size then (.error (.textTooLong key.size limit), 0)
  else
    let (outcome, asked) := hear (interpreter.answer state key) interpreter.settings.retries 0
    (resolution key outcome, asked)

variable (start : Progress State)

/-- The competitor of an entry that is the first with its key. -/
def fresh (entry : Entry) : Competitor :=
  interpreter.compete entry (interpreter.verdict start.translator (.ofText entry.text)).1

/-- What the cache holds for the key and how often it was asked for, once these
entries have been interpreted. -/
def fate (entries : List Entry) (key : StrategyKey) : Option Competitor × Nat :=
  match start.cache.get? key with
  | some hit => (some hit, 0)
  | none =>
      match entries.find? (fun entry => StrategyKey.ofText entry.text = key) with
      | some first =>
          (some (interpreter.fresh start first), (interpreter.verdict start.translator key).2)
      | none => (none, 0)

/-- What an entry becomes after these entries. -/
def competitorAfter (earlier : List Entry) (entry : Entry) : Competitor :=
  match (interpreter.fate start earlier (.ofText entry.text)).1 with
  | some held => held.rebind entry .cached
  | none => interpreter.fresh start entry

/-! ## Where a worker stands -/

/-- The progress that comes of requests for these texts. -/
structure Follows (texts : List String) (progress : Progress State) : Prop where
  translator : progress.translator =
    interpreter.translator.after start.translator (keysOf texts)
  calls : progress.calls = start.calls + texts.length
  grows : start.cache.Grows progress.cache

/-- What the cache holds for the key now, and how often it was asked for. -/
def account (progress : Progress State) (texts : List String) (key : StrategyKey) :
    Option Competitor × Nat :=
  (progress.cache.get? key, (keysOf texts).count key)

/-- What has to be the case with the entry's key when a worker has come this far. -/
def Fits (entry : Entry) (stage : Stage) (account : Option Competitor × Nat) : Prop :=
  let key := StrategyKey.ofText entry.text
  match stage with
  | .postponed => True
  | .waiting => account = interpreter.fate start [] key
  | .asking retries =>
      start.cache.get? key = none ∧ ¬ interpreter.settings.maxTextBytes < key.size ∧
        account.1 = none ∧
        hear (interpreter.answer start.translator key) retries account.2 =
          hear (interpreter.answer start.translator key) interpreter.settings.retries 0
  | .resolved resolution =>
      start.cache.get? key = none ∧ account.1 = none ∧
        interpreter.verdict start.translator key = (resolution, account.2)
  | .done result =>
      result = interpreter.competitorAfter start [] entry ∧
        account = interpreter.fate start [entry] key

/-- A worker has come this far, and nothing but its own key has been touched since. -/
structure Proceeds (entry : Entry) (texts : List String) (progress : Progress State)
    (later : List String) (after : Stage × Progress State) : Prop where
  follows : interpreter.Follows start later after.2
  fits : interpreter.Fits start entry after.1 (account after.2 later (.ofText entry.text))
  others : ∀ other, other ≠ .ofText entry.text →
    account after.2 later other = account progress texts other

variable {interpreter start} {texts : List String} {progress : Progress State}

theorem fate_of_hit {key : StrategyKey} {hit : Competitor}
    (found : start.cache.get? key = some hit) (entries : List Entry) :
    interpreter.fate start entries key = (some hit, 0) := by
  rw [fate, found]

theorem fate_nil_of_missing {key : StrategyKey} (missing : start.cache.get? key = none) :
    interpreter.fate start [] key = (none, 0) := by
  rw [fate, missing]
  rfl

theorem fate_singleton_of_missing {entry : Entry}
    (missing : start.cache.get? (.ofText entry.text) = none) :
    interpreter.fate start [entry] (.ofText entry.text) =
      (some (interpreter.fresh start entry),
        (interpreter.verdict start.translator (.ofText entry.text)).2) := by
  rw [fate, missing, List.find?_cons, decide_eq_true rfl]

/-! ## A steady translator and one turn -/

theorem keysOf_append (texts : List String) (text : String) :
    keysOf (texts ++ [text]) = keysOf texts ++ [.ofText text] := by
  rw [keysOf, keysOf, List.map_append, List.map_singleton]

theorem count_keysOf_self (texts : List String) (text : String) :
    (keysOf (texts ++ [text])).count (.ofText text) = (keysOf texts).count (.ofText text) + 1 := by
  rw [keysOf_append, List.count_append, List.count_singleton_self]

theorem count_keysOf_other (texts : List String) {text : String} {other : StrategyKey}
    (different : other ≠ .ofText text) :
    (keysOf (texts ++ [text])).count other = (keysOf texts).count other := by
  rw [keysOf_append, List.count_append, List.count_singleton,
    if_neg (fun same => different (beq_iff_eq.mp same).symm), Nat.add_zero]

/-- An attempt hears the next answer for its key and leaves the cache alone. -/
theorem attempt_steady (steady : interpreter.Steady start.translator)
    (follows : interpreter.Follows start texts progress) (text : String) :
    let attempted := interpreter.attempt (.ofKey (.ofText text)) progress
    attempted.1 = interpreter.answer start.translator (.ofText text)
        ((keysOf texts).count (.ofText text)) ∧
      attempted.2.cache = progress.cache ∧
      interpreter.Follows start (texts ++ [text]) attempted.2 := by
  have silent := steady.silent texts text
  have alike := steady.alike texts
    (List.replicate ((keysOf texts).count (.ofText text)) text) text
  have repeated : keysOf (List.replicate ((keysOf texts).count (.ofText text)) text) =
      List.replicate ((keysOf texts).count (.ofText text)) (.ofText text) := List.map_replicate ..
  rw [repeated, List.count_replicate_self] at alike
  rw [reaction, ← follows.translator] at silent
  have kept : (interpreter.attempt (.ofKey (.ofText text)) progress).2.cache = progress.cache := by
    rw [attempt]
    dsimp only
    rw [silent, List.foldl_nil]
  refine ⟨?_, kept, ?_, ?_, ?_⟩
  · rw [answer, ← alike rfl, hears, reaction, ← follows.translator]
    rfl
  · rw [keysOf_append, Translator.after, List.foldl_append]
    change _ = (interpreter.translator.translate _
      (interpreter.translator.after start.translator (keysOf texts))).2
    rw [← follows.translator]
    rfl
  · rw [List.length_append]
    exact congrArg (· + 1) follows.calls
  · rw [kept]
    exact follows.grows

theorem waiting_proceeds (follows : interpreter.Follows start texts progress) {entry : Entry}
    (fits : interpreter.Fits start entry .waiting
      (account progress texts (.ofText entry.text))) :
    interpreter.Proceeds start entry texts progress texts
      (interpreter.advance entry (.waiting, progress)) := by
  have same : account progress texts (.ofText entry.text) =
      interpreter.fate start [] (.ofText entry.text) := fits
  cases found : start.cache.get? (.ofText entry.text) with
  | some hit =>
      rw [fate_of_hit found] at same
      have held : progress.cache.get? (.ofText entry.text) = some hit := congrArg Prod.fst same
      rw [advance, held]
      refine ⟨follows, ⟨?_, ?_⟩, fun _ _ => rfl⟩
      · rw [competitorAfter, fate_of_hit found]
      · rw [same, fate_of_hit found]
  | none =>
      rw [fate_nil_of_missing found] at same
      have held : progress.cache.get? (.ofText entry.text) = none := congrArg Prod.fst same
      rw [advance, held]
      dsimp only
      by_cases long : interpreter.settings.maxTextBytes < (StrategyKey.ofText entry.text).size
      · rw [if_pos long]
        refine ⟨follows, ⟨found, held, ?_⟩, fun _ _ => rfl⟩
        rw [same, verdict, if_pos long]
      · rw [if_neg long]
        refine ⟨follows, ⟨found, long, held, ?_⟩, fun _ _ => rfl⟩
        rw [same]

theorem asking_proceeds (steady : interpreter.Steady start.translator)
    (follows : interpreter.Follows start texts progress) {entry : Entry} {retries : Nat}
    (fits : interpreter.Fits start entry (.asking retries)
      (account progress texts (.ofText entry.text))) :
    interpreter.Proceeds start entry texts progress (texts ++ [entry.text])
      (interpreter.advance entry (.asking retries, progress)) := by
  rcases fits with ⟨missing, short, held, same⟩
  rcases attempt_steady steady follows entry.text with ⟨heard, kept, following⟩
  rcases attempted : interpreter.attempt (.ofKey (.ofText entry.text)) progress with
    ⟨outcome, after⟩
  rw [attempted] at heard kept following
  dsimp only at heard kept following
  have others : ∀ other, other ≠ StrategyKey.ofText entry.text →
      account after (texts ++ [entry.text]) other = account progress texts other := by
    intro other different
    rw [account, kept, count_keysOf_other texts different]
    rfl
  have free : (account after (texts ++ [entry.text]) (.ofText entry.text)).1 = none := by
    rw [account, kept]
    exact held
  have more : (account after (texts ++ [entry.text]) (.ofText entry.text)).2 =
      (account progress texts (.ofText entry.text)).2 + 1 := count_keysOf_self texts entry.text
  -- Without another attempt the outcome is what is heard in the end.
  have final (last : hear (interpreter.answer start.translator (.ofText entry.text)) retries
      (account progress texts (.ofText entry.text)).2 =
        (outcome, (account progress texts (.ofText entry.text)).2 + 1)) :
      interpreter.Proceeds start entry texts progress (texts ++ [entry.text])
        (.resolved (resolution (.ofText entry.text) outcome), after) := by
    refine ⟨following, ⟨missing, free, ?_⟩, others⟩
    rw [verdict, if_neg short, ← same, last, more]
  cases retries with
  | zero =>
      rw [advance, attempted]
      refine final ?_
      rw [hear, heard]
      rfl
  | succ retries =>
      rw [advance, attempted]
      have next : interpreter.answer start.translator (.ofText entry.text)
          (account progress texts (.ofText entry.text)).2 = outcome := heard.symm
      cases outcome with
      | ok answer =>
          refine final ?_
          rw [hear, next]
      | error error =>
          dsimp only
          by_cases transient : error.isTransient = true
          · rw [if_pos transient]
            refine ⟨following, ⟨missing, short, free, ?_⟩, others⟩
            rw [← same, hear, next, more]
            dsimp only
            rw [if_pos transient]
          · rw [if_neg transient]
            refine final ?_
            rw [hear, next]
            dsimp only
            rw [if_neg transient]

theorem resolved_proceeds (follows : interpreter.Follows start texts progress) {entry : Entry}
    {resolution : Except InterpretationError Logic}
    (fits : interpreter.Fits start entry (.resolved resolution)
      (account progress texts (.ofText entry.text))) :
    interpreter.Proceeds start entry texts progress texts
      (interpreter.advance entry (.resolved resolution, progress)) := by
  rcases fits with ⟨missing, held, decided⟩
  have own : interpreter.compete entry resolution = interpreter.fresh start entry := by
    rw [fresh, decided]
  have free : progress.cache.get? (.ofText entry.text) = none := held
  rw [advance, free]
  refine ⟨⟨follows.translator, follows.calls, follows.grows.add _ free⟩, ⟨?_, ?_⟩, ?_⟩
  · rw [competitorAfter, fate_nil_of_missing missing]
    exact own
  · rw [fate_singleton_of_missing missing, decided, account, Cache.get?_add_self _ free, own]
    rfl
  · intro other different
    rw [account, progress.cache.get?_add_other _ different.symm]
    rfl

/-- One turn keeps a worker where it should be and does nothing to other keys. -/
theorem advance_proceeds (steady : interpreter.Steady start.translator)
    (follows : interpreter.Follows start texts progress) {entry : Entry} {stage : Stage}
    (fits : interpreter.Fits start entry stage (account progress texts (.ofText entry.text))) :
    ∃ later, interpreter.Proceeds start entry texts progress later
      (interpreter.advance entry (stage, progress)) := by
  cases stage with
  | postponed => exact ⟨texts, follows, trivial, fun _ _ => rfl⟩
  | waiting => exact ⟨texts, waiting_proceeds follows fits⟩
  | asking retries => exact ⟨texts ++ [entry.text], asking_proceeds steady follows fits⟩
  | resolved resolution => exact ⟨texts, resolved_proceeds follows fits⟩
  | done result => exact ⟨texts, follows, fits, fun _ _ => rfl⟩

theorem turns_proceed (steady : interpreter.Steady start.translator) (entry : Entry)
    (turns : Nat) {stage : Stage} (follows : interpreter.Follows start texts progress)
    (fits : interpreter.Fits start entry stage (account progress texts (.ofText entry.text))) :
    ∃ later, interpreter.Proceeds start entry texts progress later
      ((interpreter.advance entry)^[turns] (stage, progress)) := by
  induction turns with
  | zero => exact ⟨texts, follows, fits, fun _ _ => rfl⟩
  | succ turns induction =>
      rcases induction with ⟨between, reached⟩
      rcases advance_proceeds steady reached.follows reached.fits with ⟨later, proceeds⟩
      rw [Function.iterate_succ_apply']
      refine ⟨later, proceeds.follows, proceeds.fits, fun other different => ?_⟩
      rw [proceeds.others other different, reached.others other different]

/-! ## Entries one after another -/

variable (interpreter start)

/-- The progress after these entries, whoever has interpreted them. -/
structure Interpreted (entries : List Entry) (texts : List String)
    (progress : Progress State) : Prop where
  follows : interpreter.Follows start texts progress
  fates : ∀ key, account progress texts key = interpreter.fate start entries key

variable {interpreter start}

theorem interpreted_nil : interpreter.Interpreted start [] [] start where
  follows := ⟨rfl, rfl, Cache.Grows.refl start.cache⟩
  fates := by
    intro key
    cases found : start.cache.get? key with
    | some hit =>
        rw [fate_of_hit found, account, found]
        rfl
    | none =>
        rw [fate_nil_of_missing found, account, found]
        rfl

/-- Who comes later does not change the fate of a key that has one. -/
theorem fate_append_of_held {earlier : List Entry} {key : StrategyKey} {held : Competitor}
    (holds : (interpreter.fate start earlier key).1 = some held) (later : List Entry) :
    interpreter.fate start (earlier ++ later) key = interpreter.fate start earlier key := by
  cases found : start.cache.get? key with
  | some hit => rw [fate_of_hit found, fate_of_hit found]
  | none =>
      rw [fate, found] at holds ⊢
      rw [fate, found]
      dsimp only at holds ⊢
      rw [List.find?_append]
      cases first : earlier.find? (fun entry => StrategyKey.ofText entry.text = key) with
      | some entry => rfl
      | none =>
          rw [first] at holds
          cases holds

theorem fate_append_other {earlier : List Entry} {entry : Entry} {key : StrategyKey}
    (different : key ≠ .ofText entry.text) :
    interpreter.fate start (earlier ++ [entry]) key = interpreter.fate start earlier key := by
  have absent : [entry].find? (fun entry => StrategyKey.ofText entry.text = key) = none := by
    rw [List.find?_cons, decide_eq_false different.symm, List.find?_nil]
  rw [fate, fate, List.find?_append, absent, Option.or_none]

theorem fate_append_self {earlier : List Entry} {entry : Entry}
    (free : (interpreter.fate start earlier (.ofText entry.text)).1 = none) :
    interpreter.fate start earlier (.ofText entry.text) =
        interpreter.fate start [] (.ofText entry.text) ∧
      interpreter.fate start (earlier ++ [entry]) (.ofText entry.text) =
        interpreter.fate start [entry] (.ofText entry.text) := by
  cases found : start.cache.get? (.ofText entry.text) with
  | some hit =>
      rw [fate_of_hit found] at free
      cases free
  | none =>
      rw [fate, found] at free
      cases first : earlier.find? (fun other =>
          StrategyKey.ofText other.text = StrategyKey.ofText entry.text) with
      | some other =>
          rw [first] at free
          cases free
      | none =>
          rw [fate_nil_of_missing found, fate_singleton_of_missing found, fate, fate, found,
            List.find?_append, first, Option.none_or, List.find?_cons, decide_eq_true rfl]
          exact ⟨rfl, rfl⟩

/-- The interpreter gives an entry what is foretold, whatever it has interpreted before. -/
theorem interpret_interpreted (steady : interpreter.Steady start.translator)
    {earlier : List Entry} (interpreted : interpreter.Interpreted start earlier texts progress)
    (entry : Entry) :
    (interpreter.interpret entry progress).1 = interpreter.competitorAfter start earlier entry ∧
      ∃ later, interpreter.Interpreted start (earlier ++ [entry]) later
        (interpreter.interpret entry progress).2 := by
  have known := interpreted.fates (.ofText entry.text)
  have looked : progress.cache.get? (.ofText entry.text) =
      (interpreter.fate start earlier (.ofText entry.text)).1 := congrArg Prod.fst known
  cases held : (interpreter.fate start earlier (.ofText entry.text)).1 with
  | some hit =>
      rw [held] at looked
      rw [interpreter.interpret_of_hit looked, competitorAfter, held]
      refine ⟨rfl, texts, interpreted.follows, fun key => ?_⟩
      rw [interpreted.fates key]
      by_cases same : key = .ofText entry.text
      · rw [same, fate_append_of_held held]
      · rw [fate_append_other same]
  | none =>
      rcases fate_append_self held with ⟨untouched, touched⟩
      have fits : interpreter.Fits start entry .waiting
          (account progress texts (.ofText entry.text)) := known.trans untouched
      rcases interpreter.advance_waiting entry progress with ⟨turns, worked⟩
      rcases turns_proceed steady entry turns interpreted.follows fits with ⟨later, proceeds⟩
      rw [worked] at proceeds
      rcases proceeds.fits with ⟨result, settled⟩
      refine ⟨?_, later, proceeds.follows, fun key => ?_⟩
      · rw [result, competitorAfter, competitorAfter, untouched]
      · by_cases same : key = .ofText entry.text
        · rw [same, settled, touched]
        · rw [proceeds.others key same, interpreted.fates key, fate_append_other same]

end Interpreter

end Dilemma
