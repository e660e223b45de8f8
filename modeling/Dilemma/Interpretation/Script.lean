import Dilemma.Interpretation.Translator

/-! # Scripted answers

A script holds a queue of outcomes for each text. Outcomes are used up in
order, except that the last one repeats. Requests are counted. -/

namespace Dilemma

abbrev Outcome := Except TranslatorError Answer

structure Script where
  queues : List (StrategyKey × List Outcome)
  calls : Nat

namespace Script

def empty : Script := ⟨[], 0⟩

def queue? (script : Script) (key : StrategyKey) : Option (List Outcome) :=
  (script.queues.find? (·.1 = key)).map (·.2)

/-- Give a key this queue in place of any that it had. -/
def setQueue (script : Script) (key : StrategyKey) (outcomes : List Outcome) : Script :=
  { script with queues := (key, outcomes) :: script.queues.filter (·.1 ≠ key) }

/-- Of two queues for one normalised text the later counts. -/
def withOutcomes (script : Script) (text : String) (outcomes : List Outcome) : Script :=
  script.setQueue (StrategyKey.ofText text) outcomes

/-- Take the outcome that is due. -/
def take (script : Script) (key : StrategyKey) : Outcome × Script :=
  match script.queue? key with
  | none => (.ok (.failed "no scripted response"), script)
  | some [] => (.ok (.failed "empty script"), script)
  | some [outcome] => (outcome, script)
  | some (outcome :: next :: rest) => (outcome, script.setQueue key (next :: rest))

def answer (script : Script) (text : String) : Outcome × Script :=
  { script with calls := script.calls + 1 }.take (StrategyKey.ofText text)

/-- Every reply comes after the same delay. -/
def translator (delay : Duration) : Translator Script where
  translate request script :=
    let (outcome, script) := script.answer request.text
    (⟨.returns outcome, delay, []⟩, script)

end Script

end Dilemma
