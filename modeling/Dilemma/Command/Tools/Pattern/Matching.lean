import Dilemma.Command.Tools.Pattern.Sifting

/-! # Matching

Of all matches the leftmost is found, and of those that begin there the
longest. Then a walk tells what the groups have taken. -/

namespace Dilemma

/-- A match in a text, as places. -/
structure Found where
  text : Array Char
  start : Nat
  finish : Nat
  groups : Array Extent
  deriving DecidableEq, Repr

namespace Found

def length (found : Found) : Nat := found.finish - found.start

def isEmpty (found : Found) : Bool := found.start = found.finish

/-- The characters of the match. -/
def chars (found : Found) : List Char := (found.text.extract found.start found.finish).toList

/-- A group without a part in the match has taken nothing. -/
def group (found : Found) (number : Nat) : List Char :=
  if number = 0 then found.chars
  else match found.groups[number]? with
    | some ⟨some start, some finish⟩ => (found.text.extract start finish).toList
    | _ => []

end Found

namespace Matcher

variable (matcher : Matcher) (text : Text)

/-! ## Reading without references -/

/-- How far a text has been read. -/
structure Reading where
  /-- The states, latest first. -/
  states : List State
  last : Option Nat
  /-- So many characters have led back to the first state. -/
  skipped : Nat
  /-- The state is still the first one. -/
  isFirst : Bool

/-- Read to the end, or until there is no state. As long as the state is still
the first one nothing is lost if a match begins later, unless the pattern has
ended on the way. `fuel` bounds the number of characters. -/
def readWithout : (fuel : Nat) → (place : Nat) → State → Reading → Reading
  | 0, _, _, reading => reading
  | fuel + 1, place, state, reading =>
      match text[place]? with
      | none => reading
      | some char =>
          match matcher.step? state char with
          | none => reading
          | some next =>
              let isFirst := reading.isFirst && next = state
              let reading := { reading with
                states := next :: reading.states
                skipped := if isFirst then reading.skipped + 1 else reading.skipped
                isFirst }
              let reading :=
                if (matcher.finish? text next (place + 1)).isSome then
                  { reading with last := some (place + 1), skipped := 0, isFirst := false }
                else reading
              readWithout fuel (place + 1) next reading

def readFrom (start : Nat) : Reading :=
  let state := matcher.firstState text start
  let last := if (matcher.finish? text state start).isSome then some start else none
  matcher.readWithout text (text.size + 1) start state ⟨[state], last, 0, true⟩

/-- Where the longest match that begins at a place ends. -/
def finishFrom? (place : Nat) : Option Nat := (matcher.readFrom text place).last

/-! ## Groups -/

/-- What a walk to a place finds. The match is moved by what has been skipped. -/
def walkTo (useful : Nat → NodeSet) (start finish last skipped : Nat) : Option Found :=
  (matcher.walk text useful start finish last).map fun groups =>
    let move (place : Option Nat) : Option Nat := place.map (· + skipped)
    ⟨text, start + skipped, last + skipped, (matcher.allGroups groups).map fun extent =>
      ⟨move extent.start, move extent.finish⟩⟩

/-- What comes of an attempt: a match, or that nothing is found at all, or the
place from which to try next. -/
inductive Attempt where
  | found (found : Found)
  | nothing
  | again (place : Nat)

def attemptWithout (wantsGroups : Bool) (start : Nat) : Attempt :=
  let reading := matcher.readFrom text start
  match reading.last with
  | none => .again (start + reading.skipped + 1)
  | some last =>
      if !wantsGroups || matcher.groupCount = 0 then
        .found ⟨text, start + reading.skipped, last + reading.skipped, #[]⟩
      else
        let states := reading.states.drop (reading.states.length - 1 - (last - start))
        let finish := (states.head?.bind fun state => matcher.finish? text state last).getD 0
        let useful : List NodeSet :=
          if matcher.hasChoice then
            let ending := matcher.withSources states.head? [finish]
            matcher.useful text (states.drop 1) last [ending]
          else (states.map State.nodes).reverse
        if useful.head?.all List.isEmpty then .again (start + reading.skipped + 1)
        else
          let useful := useful.toArray
          match matcher.walkTo text (fun place => (useful[place - start]?).getD []) start finish
              last reading.skipped with
          | some found => .found found
          | none => .nothing

def attemptWith (wantsGroups : Bool) (start : Nat) : Attempt :=
  match matcher.readWithReferences text start with
  | (none, _) => .again (start + 1)
  | (some last, trace) =>
      let finish :=
        ((trace.state? last).bind fun state => matcher.finish? text state last).getD 0
      match matcher.siftAll text trace start (text.size + 1) finish last trace.repeats with
      | none => .again (start + 1)
      | some (finish, last, useful) =>
          if !wantsGroups then .found ⟨text, start, last, #[]⟩
          else match matcher.walkTo text (fun place => ((useful[place]?).getD none).getD [])
              start finish last 0 with
            | some found => .found found
            | none => .nothing

def attempt (wantsGroups : Bool) (start : Nat) : Attempt :=
  if matcher.hasReferences then matcher.attemptWith text wantsGroups start
  else matcher.attemptWithout text wantsGroups start

/-- The first match from a place on. `fuel` bounds the number of places. -/
def findFrom (wantsGroups : Bool) : (fuel : Nat) → (start : Nat) → Option Found
  | 0, _ => none
  | fuel + 1, start =>
      if text.size < start then none
      else match matcher.attempt text wantsGroups start with
        | .found found => some found
        | .nothing => none
        | .again place => findFrom wantsGroups fuel place

def find? (start : Nat) : Option Found := matcher.findFrom text true (text.size + 1) start

def occursIn (text : List Char) : Bool :=
  let text := text.toArray
  (matcher.findFrom text false (text.size + 1) 0).isSome

end Matcher

end Dilemma
