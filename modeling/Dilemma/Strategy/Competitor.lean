import Dilemma.Strategy.Logic

/-! # Competitors

An entry names a strategy and describes it in free text. A competitor is an
entry bound to its logic. -/

namespace Dilemma

structure Entry where
  name : String
  text : String
  deriving DecidableEq, Repr

/-- Where a competitor's logic came from. -/
inductive Provenance where
  | cached
  | freshlyInterpreted
  | fallback
  deriving DecidableEq, Repr

namespace Provenance

def name : Provenance → String
  | cached => "cached"
  | freshlyInterpreted => "freshly_interpreted"
  | fallback => "fallback"

def ofName? : String → Option Provenance
  | "cached" => some cached
  | "freshly_interpreted" => some freshlyInterpreted
  | "fallback" => some fallback
  | _ => none

theorem ofName?_name (provenance : Provenance) :
    ofName? provenance.name = some provenance := by
  cases provenance <;> rfl

/-- The word for it in tables. -/
def label : Provenance → String
  | cached => "cached"
  | freshlyInterpreted => "fresh"
  | fallback => "fallback"

end Provenance

structure Competitor where
  entry : Entry
  logic : Logic
  provenance : Provenance
  /-- Why the fallback plays, if it does. -/
  fallbackReason : Option String

namespace Competitor

def name (competitor : Competitor) : String := competitor.entry.name

/-- A template under a name of its own, without any interpretation. -/
def ofTemplate (name : String) (template : Template) : Competitor :=
  ⟨⟨name, template.name⟩, .template template 0, .freshlyInterpreted, none⟩

/-- The fallback plays, no matter whether that was decided now or before. -/
def isDegraded (competitor : Competitor) : Bool := competitor.logic.isFallback

/-- The same logic under another entry. -/
def rebind (competitor : Competitor) (entry : Entry) (provenance : Provenance) : Competitor :=
  { competitor with entry, provenance }

def decide (competitor : Competitor) (situation : Situation) : Decision :=
  competitor.logic.decide situation

theorem decide_of_template {competitor : Competitor} {template : Template} {seed : UInt64}
    (logic : competitor.logic = .template template seed) (situation : Situation) :
    competitor.decide situation = .plays (template.play seed situation) := by
  rw [decide, logic, Logic.decide]

theorem decide_of_rule {competitor : Competitor} {rule : Rule}
    (logic : competitor.logic = .rule rule) (situation : Situation) :
    competitor.decide situation = .ofExcept (rule.play situation) := by
  rw [decide, logic, Logic.decide]

/-- Only the logic counts, not who submitted it. -/
def sameLogic (left right : Competitor) : Bool := left.logic.same right.logic

/-- What is shown of a single interpretation. -/
def summary (competitor : Competitor) : String :=
  s!"source: {competitor.provenance.label}\n" ++
    s!"logic:  {competitor.logic.description}\n" ++
    match competitor.fallbackReason with
    | some reason => s!"reason: {reason}\n"
    | none => ""

end Competitor

end Dilemma
