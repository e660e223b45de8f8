import Dilemma.Json.Reader
import Dilemma.Tournament.Setup
import Dilemma.Wire.Play

/-! # Tournament files

A file lists the entries and may set the number of rounds and the payoff
table. Fields that do not belong to it are refused. -/

namespace Dilemma

structure TournamentFile where
  rounds : Option Int
  payoff : Option Payoff
  entries : List Entry

namespace TournamentFile

def fieldNames : List String := ["rounds_per_match", "payoff", "strategies"]

/-- A field that may be missing or null. -/
def optional? {α : Type} (read : Json → Option α) : Option Json → Option (Option α)
  | some json => json.nullable? read
  | none => some none

def ofJson? (json : Json) : Option TournamentFile := do
  if !json.onlyFields fieldNames then none
  else match ← json.fields? fieldNames with
    | [rounds, payoff, some entries] =>
        return ⟨← optional? Json.int64? rounds,
          ← optional? Payoff.ofJson? payoff, ← entries.list? Entry.ofJson?⟩
    | _ => none

def parse? (numbers : Json.NumberReader) (text : String) : Option TournamentFile := do
  ofJson? (← Json.parse? numbers text)

/-- The number of rounds if nobody says. -/
def defaultRounds : Int := 100

/-- What is asked for outside of the file counts first. -/
def roundsToPlay (file : TournamentFile) (asked : Option Int) (limit : UInt32) :
    Except SetupError UInt32 :=
  Setup.checkRounds ((asked.or file.rounds).getD defaultRounds) limit

end TournamentFile

end Dilemma
