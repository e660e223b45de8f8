import Dilemma.Interpretation.Interpreter
import Dilemma.Tournament.Pairing
import Dilemma.Tournament.Report
import Dilemma.Tournament.Setup

/-! # Running a tournament

Entries are interpreted, every pair of competitors plays once, and the matches
are recorded in the order of their ranks. Nothing after the setup check can
fail. -/

namespace Dilemma.Tournament

/-- The match with a rank, if both participants exist. -/
def playMatch? (payoff : Payoff) (competitors : List Competitor) (rounds : UInt32)
    (pair : Nat × Nat) : Option Match := do
  some (.play payoff (← competitors[pair.1]?) (← competitors[pair.2]?) rounds)

def playAll (payoff : Payoff) (competitors : List Competitor) (rounds : UInt32) : Report :=
  let played := (Pairing.schedule competitors.length).filterMap
    (playMatch? payoff competitors rounds)
  played.foldl Report.record (.start competitors rounds payoff)

/-- A tournament of competitors that have been interpreted before. -/
def runInterpreted (settings : TournamentSettings) (competitors : List Competitor)
    (rounds : UInt32) : Except SetupError Report := do
  Setup.check settings.maxRounds rounds (competitors.map Competitor.name)
  return playAll settings.payoff competitors rounds

variable {State : Type}

/-! ## Interpreting the field

Each distinct text is interpreted once, and repeated texts are served from the
cache afterwards. So the first entry with a text is the one that is not
reported as cached. -/

/-- Interpret the entries whose key has not been seen. -/
def interpretFirsts (interpreter : Interpreter State) (seen : List StrategyKey) :
    List Entry → Interpreter.Progress State →
      List (Entry × Option Competitor) × Interpreter.Progress State
  | [], progress => ([], progress)
  | entry :: rest, progress =>
      let key := StrategyKey.ofText entry.text
      if key ∈ seen then
        let (others, progress) := interpretFirsts interpreter seen rest progress
        ((entry, none) :: others, progress)
      else
        let (competitor, progress) := interpreter.interpret entry progress
        let (others, progress) := interpretFirsts interpreter (key :: seen) rest progress
        ((entry, some competitor) :: others, progress)

/-- Interpret the entries that are still left. -/
def interpretRepeats (interpreter : Interpreter State) :
    List (Entry × Option Competitor) → Interpreter.Progress State →
      List Competitor × Interpreter.Progress State
  | [], progress => ([], progress)
  | (_, some competitor) :: rest, progress =>
      let (others, progress) := interpretRepeats interpreter rest progress
      (competitor :: others, progress)
  | (entry, none) :: rest, progress =>
      let (competitor, progress) := interpreter.interpret entry progress
      let (others, progress) := interpretRepeats interpreter rest progress
      (competitor :: others, progress)

def interpretAll (interpreter : Interpreter State) (entries : List Entry)
    (progress : Interpreter.Progress State) : List Competitor × Interpreter.Progress State :=
  let (firsts, progress) := interpretFirsts interpreter [] entries progress
  interpretRepeats interpreter firsts progress

/-- Setup problems are found before any interpretation. -/
def run (settings : TournamentSettings) (interpreter : Interpreter State)
    (entries : List Entry) (rounds : UInt32) (progress : Interpreter.Progress State) :
    Except SetupError Report × Interpreter.Progress State :=
  match Setup.check settings.maxRounds rounds (entries.map Entry.name) with
  | .error error => (.error error, progress)
  | .ok () =>
      let (competitors, progress) := interpretAll interpreter entries progress
      (.ok (playAll settings.payoff competitors rounds), progress)

end Dilemma.Tournament
