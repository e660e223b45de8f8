import Dilemma.Duration
import Dilemma.Interpretation.Cache
import Dilemma.Rule.Draft

/-! # Translators

A translator is asked about a text and answers with a rule, with the name of a
template, or with a refusal. It has a state of its own, takes its time, and
may fail in many ways. -/

namespace Dilemma

structure Request where
  /-- The normalised text of the strategy. -/
  text : String
  /-- The predicates that a rule may use. -/
  predicates : List String
  /-- The templates that an answer may name. -/
  templates : List String
  deriving DecidableEq, Repr

def Request.ofText (text : String) : Request :=
  ⟨text, Predicate.all.map Predicate.name, Template.all.map Template.name⟩

def Request.ofKey (key : StrategyKey) : Request := ofText key.text

inductive Answer where
  | rule (draft : RuleDraft)
  | template (name : String)
  | failed (reason : String)
  deriving Repr

inductive TranslatorError where
  | unavailable (message : String)
  | timedOut (limit : Duration)
  | malformed (message : String)
  deriving DecidableEq, Repr

namespace TranslatorError

def message : TranslatorError → String
  | unavailable message => s!"translation service unavailable: {message}"
  | timedOut limit => s!"translation timed out after {limit.text}"
  | malformed message => s!"malformed translation response: {message}"

/-- A second attempt may succeed. -/
def isTransient : TranslatorError → Bool
  | unavailable _ => true
  | timedOut _ => true
  | malformed _ => false

end TranslatorError

inductive Reply where
  | returns (result : Except TranslatorError Answer)
  | crashes

/-- What comes of one request: a reply after some time, and whatever other
clients store in the asking interpreter's cache in the meantime. -/
structure Reaction where
  reply : Reply
  delay : Duration
  submissions : List (StrategyKey × Competitor)

/-- A reply at once. -/
def Reaction.immediate (result : Except TranslatorError Answer) : Reaction :=
  ⟨.returns result, ⟨0⟩, []⟩

structure Translator (State : Type) where
  translate : Request → State → Reaction × State

end Dilemma
