import Dilemma.Json.Value
import Dilemma.Play.Match

/-! # Moves, payoffs and matches in JSON -/

namespace Dilemma

def Move.toJson (move : Move) : Json := .text move.name
def Move.ofJson? (json : Json) : Option Move := do Move.ofName? (← json.name?)

def Seat.toJson (seat : Seat) : Json := .text seat.name
def Seat.ofJson? (json : Json) : Option Seat := do Seat.ofName? (← json.name?)

def Template.toJson (template : Template) : Json := .text template.name
def Template.ofJson? (json : Json) : Option Template := do Template.ofName? (← json.name?)

def Provenance.toJson (provenance : Provenance) : Json := .text provenance.name
def Provenance.ofJson? (json : Json) : Option Provenance := do
  Provenance.ofName? (← json.name?)

def Entry.toJson (entry : Entry) : Json :=
  .object [("name", .text entry.name), ("text", .text entry.text)]

def Entry.ofJson? (json : Json) : Option Entry := do
  match ← json.fields? ["name", "text"] with
  | [some name, some text] => return ⟨← name.text?, ← text.text?⟩
  | _ => none

def Payoff.toJson (payoff : Payoff) : Json :=
  .object [("temptation", .integer payoff.temptation.toInt),
    ("reward", .integer payoff.reward.toInt),
    ("punishment", .integer payoff.punishment.toInt),
    ("sucker", .integer payoff.sucker.toInt)]

/-- Values in the wrong order are no payoff table. -/
def Payoff.ofJson? (json : Json) : Option Payoff := do
  match ← json.fields? ["temptation", "reward", "punishment", "sucker"] with
  | [some temptation, some reward, some punishment, some sucker] =>
      (Payoff.ofValues (← temptation.int32?) (← reward.int32?) (← punishment.int32?)
        (← sucker.int32?)).toOption
  | _ => none

def Anomaly.toJson (anomaly : Anomaly) : Json :=
  .object [("round", .integer anomaly.round.toNat), ("seat", anomaly.seat.toJson),
    ("strategy", .text anomaly.strategy), ("message", .text anomaly.message)]

def Anomaly.ofJson? (json : Json) : Option Anomaly := do
  match ← json.fields? ["round", "seat", "strategy", "message"] with
  | [some round, some seat, some strategy, some message] =>
      return ⟨← round.uint32?, ← Seat.ofJson? seat, ← strategy.text?, ← message.text?⟩
  | _ => none

/-- Anomalies are left out where there are none. -/
def Round.toJson (round : Round) : Json :=
  .object ([("round", .integer round.round.toNat),
    ("move_a", round.moveA.toJson), ("move_b", round.moveB.toJson),
    ("score_a", .integer round.scoreA.toInt), ("score_b", .integer round.scoreB.toInt)] ++
    if round.anomalies.isEmpty then []
    else [("anomalies", .array (round.anomalies.map Anomaly.toJson))])

def Round.ofJson? (json : Json) : Option Round := do
  match ← json.fields? ["round", "move_a", "move_b", "score_a", "score_b", "anomalies"] with
  | [some round, some moveA, some moveB, some scoreA, some scoreB, anomalies] =>
      return ⟨← round.uint32?, ← Move.ofJson? moveA, ← Move.ofJson? moveB,
        ← scoreA.int32?, ← scoreB.int32?,
        ← match anomalies with
          | some anomalies => anomalies.list? Anomaly.ofJson?
          | none => some []⟩
  | _ => none

def Match.toJson (game : Match) : Json :=
  .object [("player_a", .text game.playerA), ("player_b", .text game.playerB),
    ("rounds", .array (game.rounds.map Round.toJson))]

def Match.ofJson? (json : Json) : Option Match := do
  match ← json.fields? ["player_a", "player_b", "rounds"] with
  | [some playerA, some playerB, some rounds] =>
      return ⟨← playerA.text?, ← playerB.text?, ← rounds.list? Round.ofJson?⟩
  | _ => none

end Dilemma
