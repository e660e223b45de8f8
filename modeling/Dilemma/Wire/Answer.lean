import Dilemma.Interpretation.Translator
import Dilemma.Json.Reader
import Dilemma.Wire.Rule

/-! # Requests and answers in JSON

An answer carries its kind in a field of its own, anywhere in the object or
first in an array. Answers are taken in as a whole before they are looked at,
so nothing in them may be unreadable or nested too deeply. -/

namespace Dilemma

def StrategyKey.toJson (key : StrategyKey) : Json := .text key.text

/-- Taken as it is, without normalising it again. -/
def StrategyKey.ofJson? (json : Json) : Option StrategyKey := json.text?.map StrategyKey.mk

def Request.toJson (request : Request) : Json :=
  .object [("text", .text request.text),
    ("predicates", .array (request.predicates.map Json.text)),
    ("templates", .array (request.templates.map Json.text))]

def Request.ofJson? (json : Json) : Option Request := do
  match ← json.fields? ["text", "predicates", "templates"] with
  | [some text, some predicates, some templates] =>
      return ⟨← text.text?, ← predicates.list? Json.text?, ← templates.list? Json.text?⟩
  | _ => none

namespace Answer

def toJson : Answer → Json
  | rule draft => .object [("status", .text "rule"), ("rule", draft.toJson)]
  | template name => .object [("status", .text "template"), ("name", .text name)]
  | failed reason => .object [("status", .text "failed"), ("reason", .text reason)]

/-- The single field of a kind of answer. -/
def ofContents? (kind : String) (contents : Json) : Option Answer := do
  match kind with
  | "rule" =>
      match ← contents.fields? ["rule"] with
      | [some draft] => return .rule (← RuleDraft.ofJson? (Json.nestingLimit - 1) draft)
      | _ => none
  | "template" =>
      match ← contents.fields? ["name"] with
      | [some name] => return .template (← name.text?)
      | _ => none
  | "failed" =>
      match ← contents.fields? ["reason"] with
      | [some reason] => return .failed (← reason.text?)
      | _ => none
  | _ => none

def ofJson? (json : Json) : Option Answer := do
  if !json.isReadable || Json.nestingLimit < json.nesting then none
  else match json with
    | .array (kind :: rest) => ofContents? (← kind.text?) (.array rest)
    | .object members =>
        match Json.valuesOf "status" members with
        | [kind] =>
            ofContents? (← kind.text?) (.object (members.filter (·.1 ≠ "status")))
        | _ => none
    | _ => none

/-- An answer from the text of a service. -/
def parse? (numbers : Json.NumberReader) (text : String) : Option Answer := do
  ofJson? (← Json.parse? numbers text)

end Answer

end Dilemma
