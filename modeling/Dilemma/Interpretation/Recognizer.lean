import Dilemma.Interpretation.Translator
import Dilemma.Text.Alphanumeric

/-! # Recognising plain English

A translator that needs no service. It knows how to copy an opponent, to
alternate between two moves for so many rounds each, the names of templates,
and texts that speak of a single move. -/

namespace Dilemma.Recognizer

/-! ## Tokens -/

def spaceOut (char : Char) : Char := if char = '_' ∨ char = '-' then ' ' else char

/-- The words of a text without signs at their ends. Underscores and hyphens
separate words. -/
def tokens (text : String) : List String :=
  let words := Text.words (text.toList.map spaceOut)
  let stripped := words.map (Text.strip fun char => !Text.isAlphanumeric char)
  (stripped.filter (· ≠ [])).map String.ofList

example : tokens "(Tit-for-tat), please! --" = ["Tit", "for", "tat", "please"] := by
  decide +kernel

def move? (token : String) : Option Move :=
  if token ∈ ["cooperate", "cooperates", "cooperating", "cooperation"] then some .cooperate
  else if token ∈ ["defect", "defects", "defecting", "defection", "betray"] then some .defect
  else none

def numberWords : List String :=
  ["zero", "one", "two", "three", "four", "five", "six", "seven", "eight", "nine", "ten",
   "eleven", "twelve", "thirteen", "fourteen", "fifteen", "sixteen", "seventeen", "eighteen",
   "nineteen", "twenty"]

/-- A number of 32 bits, in digits or as a word up to twenty. -/
def number? (token : String) : Option Nat :=
  (Text.natural? UInt32.size token.toList).orElse fun _ => numberWords.findIdx? (· = token)

def units : List String :=
  ["move", "moves", "round", "rounds", "time", "times", "turn", "turns"]

/-! ## Sequences -/

/-- Drop the first token if it is one of these. -/
def skipOne (skipped : List String) : List String → List String
  | [] => []
  | token :: rest => if token ∈ skipped then rest else token :: rest

/-- A move, perhaps "for", a number, perhaps a unit, and the tokens after
these. -/
def phrase? : List String → Option (Move × Nat × List String)
  | [] => none
  | token :: rest => do
      let move ← move? token
      match skipOne ["for"] rest with
      | [] => none
      | token :: rest =>
          let count ← number? token
          some (move, count, skipOne units rest)

/-- The first phrase, wherever it starts. -/
def firstPhrase? : List String → Option (Move × Nat × List String)
  | [] => none
  | token :: rest =>
      match phrase? (token :: rest) with
      | some found => some found
      | none => firstPhrase? rest

def isConnective (token : String) : Bool := token ∈ ["then", "and", "after", "that"]

/-- Play one move for `count` rounds and then the other until `period` rounds
are over, again and again. -/
def alternation (first second : Move) (count period : Nat) : RuleDraft :=
  ⟨[⟨.comparison
        (.arithmetic "mod" (.predicate (Predicate.measure .roundIndex).name)
          (.number (Binary64.ofNat period)))
        "lt" (.number (Binary64.ofNat count)),
      first.name⟩],
    second.name⟩

/-- Two phrases in a row with different moves. -/
def sequence? (tokens : List String) : Option RuleDraft := do
  let (first, count, rest) ← firstPhrase? tokens
  let (second, more, _) ← phrase? (rest.dropWhile isConnective)
  let period := count + more
  if first = second ∨ period = 0 ∨ UInt32.size ≤ period then none
  else some (alternation first second count period)

/-! ## Copying the opponent -/

def copies (tokens : List String) : Bool :=
  tokens.any (· ∈ ["copy", "copies", "mirror", "mirrors", "repeat"]) &&
    tokens.any fun token => "opponent".toList.isPrefixOf token.toList

def retaliation : ClauseDraft :=
  ⟨.comparison (.predicate (Predicate.lastMove .opponent).name) "eq"
      (.move Move.defect.name),
    "defect"⟩

def openingClause (move : Move) (rounds : Nat) : ClauseDraft :=
  ⟨.comparison (.predicate (Predicate.measure .roundIndex).name) "lt"
      (.number (Binary64.ofNat rounds)),
    move.name⟩

/-- The word "first" and a number after it ask for an opening. Its move is the
first one named before the word. -/
def opening? (tokens : List String) : Option ClauseDraft :=
  match tokens.dropWhile (· ≠ "first") with
  | [] => none
  | _ :: rest => do
      let rounds ← rest.findSome? number?
      let move := ((tokens.takeWhile (· ≠ "first")).findSome? move?).getD .cooperate
      some (openingClause move rounds)

/-- Copy the opponent, perhaps after an opening. -/
def conditional? (tokens : List String) : Option RuleDraft :=
  if copies tokens then
    some ⟨(opening? tokens).toList ++ [retaliation], "cooperate"⟩
  else none

/-! ## Templates and single moves -/

/-- Phrases for templates, the longer ones first. -/
def templatePhrases : List (String × Template) :=
  [("suspicious tit for tat", .suspiciousTitForTat),
   ("tit for two tats", .titForTwoTats),
   ("tit for tat", .titForTat),
   ("grim trigger", .grimTrigger),
   ("win stay lose shift", .pavlov),
   ("win stay lose switch", .pavlov),
   ("pavlov", .pavlov),
   ("gradual", .gradual),
   ("always cooperate", .alwaysCooperate),
   ("never defect", .alwaysCooperate),
   ("always defect", .alwaysDefect),
   ("never cooperate", .alwaysDefect)]

/-- The phrase stands somewhere in the text. -/
def occursIn (phrase : List Char) : List Char → Bool
  | [] => phrase.isEmpty
  | char :: rest => phrase.isPrefixOf (char :: rest) || occursIn phrase rest

def template? (tokens : List String) : Option Template :=
  let text := Text.spaced (tokens.map String.toList)
  (templatePhrases.find? fun phrase => occursIn phrase.1.toList text).map (·.2)

/-- Texts that speak of chance, or of one move only. -/
def simple? (tokens : List String) : Option Answer :=
  if tokens.any (· ∈ ["random", "randomly", "coin"]) then
    some (.rule ⟨[], "random"⟩)
  else match tokens.filterMap move? with
    | [] => none
    | first :: rest =>
        if rest.all (· = first) then
          some (.template (match first with
            | .cooperate => Template.alwaysCooperate.name
            | .defect => Template.alwaysDefect.name))
        else none

def recognize (text : String) : Answer :=
  let tokens := tokens text
  match conditional? tokens with
  | some draft => .rule draft
  | none =>
  match sequence? tokens with
  | some draft => .rule draft
  | none =>
  match template? tokens with
  | some template => .template template.name
  | none => (simple? tokens).getD (.failed s!"no known pattern in `{text}`")

def translator {State : Type} : Translator State where
  translate request state := (.immediate (.ok (recognize request.text)), state)

end Dilemma.Recognizer
