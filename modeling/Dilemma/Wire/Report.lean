import Dilemma.Json.Reader
import Dilemma.Json.Writer
import Dilemma.Tournament.Report
import Dilemma.Wire.Play

/-! # Reports in JSON -/

namespace Dilemma

/-- The reason is left out where there is none. -/
def Standing.toJson (standing : Standing) : Json :=
  .object ([("name", .text standing.name),
    ("total_score", .integer standing.totalScore),
    ("matches_played", .integer standing.matchesPlayed),
    ("rounds_played", .integer standing.roundsPlayed),
    ("cooperations", .integer standing.cooperations),
    ("anomalies", .integer standing.anomalies),
    ("provenance", standing.provenance.toJson),
    ("degraded", .boolean standing.degraded)] ++
    (match standing.fallbackReason with
      | some reason => [("fallback_reason", .text reason)]
      | none => []) ++
    [("logic", .text standing.logic)])

def Standing.ofJson? (json : Json) : Option Standing := do
  match ← json.fields? ["name", "total_score", "matches_played", "rounds_played",
      "cooperations", "anomalies", "provenance", "degraded", "fallback_reason", "logic"] with
  | [some name, some totalScore, some matchesPlayed, some roundsPlayed, some cooperations,
      some anomalies, some provenance, some degraded, fallbackReason, some logic] =>
      return ⟨← name.text?, ← totalScore.int64?,
        ← matchesPlayed.uint64?, ← roundsPlayed.uint64?, ← cooperations.uint64?,
        ← anomalies.uint64?, ← Provenance.ofJson? provenance, ← degraded.boolean?,
        ← match fallbackReason with
          | some reason => reason.nullable? Json.text?
          | none => some none,
        ← logic.text?⟩
  | _ => none

def Report.toJson (report : Report) : Json :=
  .object [("rounds_per_match", .integer report.roundsPerMatch.toNat),
    ("payoff", report.payoff.toJson),
    ("standings", .object (report.standings.entries.map fun (name, standing) =>
      (name, standing.toJson))),
    ("matches", .array (report.played.map Match.toJson))]

def standings? (json : Json) : Option (NameMap Standing) := do
  let entries ← (← json.members?).mapM fun (name, standing) => do
    return (name, ← Standing.ofJson? standing)
  return NameMap.ofList entries

def Report.ofJson? (json : Json) : Option Report := do
  match ← json.fields? ["rounds_per_match", "payoff", "standings", "matches"] with
  | [some rounds, some payoff, some standings, some played] =>
      return ⟨← rounds.uint32?, ← Payoff.ofJson? payoff, ← standings? standings,
        ← played.list? Match.ofJson?⟩
  | _ => none

def Report.parse? (numbers : Json.NumberReader) (text : String) : Option Report := do
  ofJson? (← Json.parse? numbers text)

/-- What is printed where the whole report is asked for. -/
def Report.document (report : Report) : String := report.toJson.indented

end Dilemma
