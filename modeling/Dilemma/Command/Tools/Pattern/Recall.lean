import Dilemma.Command.Tools.Pattern.Walk

/-! # References

A reference takes what a group has taken, so that it has to be known which
parts of the text a group can have taken before. They are found while the text
is read: where a group opens is noted, and where a reference is reached it is
checked which of the places where the group closes can lie on one way with
both. -/

namespace Dilemma.Matcher

/-- The states that are reached on the ways from one node, at the places from
`next` on not yet known. -/
structure Path where
  next : Option Nat
  states : Array (Option State)

/-- A node that closes a group, where it does, and the ways from there. -/
structure Closing where
  node : Nat
  place : Nat
  path : Path

/-- A node that opens a group, where it does, the ways from there, and the
ends of the group that have been found. -/
structure Opening where
  node : Nat
  place : Nat
  path : Path
  closings : Array Closing

/-- A reference that is reached at a place can take again what a group has
taken between two others. -/
structure Repeat where
  node : Nat
  place : Nat
  start : Nat
  finish : Nat
  /-- The groups to which it is known not to lead when it takes nothing. -/
  barred : List Nat

namespace Repeat

def length (again : Repeat) : Nat := again.finish - again.start

end Repeat

/-- What has been found out while a text is read. -/
structure Trace where
  states : Array (Option State)
  /-- The last place with a state. -/
  top : Nat
  repeats : Array Repeat
  openings : Array Opening
  /-- The most that a reference can take. -/
  longest : Nat

namespace Trace

def start (text : Text) : Trace :=
  ⟨Array.replicate (text.size + 1) none, 0, #[], #[], 0⟩

def state? (trace : Trace) (place : Nat) : Option State := (trace.states[place]?).getD none

def setState (trace : Trace) (place : Nat) (state : Option State) : Trace :=
  { trace with states := trace.states.setIfInBounds place state }

/-- The repeats at a place, each with its number. -/
def repeatsAt (trace : Trace) (place : Nat) : List (Nat × Repeat) :=
  (trace.repeats.toList.zipIdx.filter fun (again, _) => again.place = place).map
    fun (again, number) => (number, again)

def repeat? (trace : Trace) (number : Nat) : Option Repeat := trace.repeats[number]?

/-- A place up to which states can be found is not beyond the last one. -/
def reach (trace : Trace) (place : Nat) : Trace := { trace with top := max trace.top place }

end Trace

variable (matcher : Matcher) (text : Text)

/-! ## Ways within a group -/

/-- Which end of a group is not to be passed on a way. -/
inductive Bound where
  | opening (group : Nat)
  | closing (group : Nat)
  deriving DecidableEq

namespace Bound

def isAt (bound : Bound) (node : Node) : Bool :=
  match bound with
  | opening group => node.opens? = some group
  | closing group => node.closes? = some group

/-- The end of a group itself can be reached, the beginning cannot. -/
def isReached : Bound → Bool
  | opening _ => false
  | closing _ => true

end Bound

/-- What can be reached from a node without a character and without passing the
bound. `fuel` bounds the number of nodes. -/
def reachWithin (bound : Bound) : (fuel : Nat) → NodeSet → (number : Nat) → NodeSet
  | 0, found, _ => found
  | fuel + 1, found, number =>
      if found.contains number then found
      else if bound.isAt (matcher.node number) then
        if bound.isReached then NodeSet.insert number found else found
      else
        let found := NodeSet.insert number found
        match (matcher.node number).ways with
        | [] => found
        | [way] => reachWithin bound fuel found way
        | way :: other :: _ => reachWithin bound fuel (reachWithin bound fuel found other) way

def closureWithin (bound : Bound) (nodes : NodeSet) : NodeSet :=
  nodes.foldl (fun found number =>
    let closure := matcher.closure number
    if closure.any fun other => bound.isAt (matcher.node other) then
      matcher.reachWithin bound (2 * matcher.nodes.size + 2) found number
    else NodeSet.union found closure) []

/-- What references add to the nodes at a place and to the states behind it.
After one that takes nothing all are looked at again. `fuel` bounds how often. -/
def takeRepeats (bound : Bound) (place : Nat) (repeats : List Repeat) :
    (fuel : Nat) → (left : List Repeat) → NodeSet → Array (Option State) →
    NodeSet × Array (Option State)
  | 0, _, nodes, states => (nodes, states)
  | _, [], nodes, states => (nodes, states)
  | fuel + 1, again :: left, nodes, states =>
      let node := matcher.node again.node
      if !nodes.contains again.node then takeRepeats bound place repeats fuel left nodes states
      else if again.length = 0 then
        match node.ways.head?.filter (!nodes.contains ·) with
        | some way =>
            let nodes := NodeSet.union nodes (matcher.closureWithin bound [way])
            takeRepeats bound place repeats fuel repeats nodes states
        | none => takeRepeats bound place repeats fuel left nodes states
      else
        let target := place + again.length
        let known := match (states[target]?).getD none with
          | some state => state.nodes
          | none => []
        let states :=
          if known.contains node.next then states
          else
            let nodes := NodeSet.insert node.next known
            states.setIfInBounds target (some ⟨nodes, nodes, .plain⟩)
        takeRepeats bound place repeats fuel left nodes states

/-- The nodes behind those that take the character at a place. -/
def nextNodes (place : Nat) (state : Option State) (nodes : NodeSet) : NodeSet :=
  match state with
  | none => nodes
  | some state =>
      state.nodes.foldl (fun nodes number =>
        let node := matcher.node number
        if matcher.takesAt text node place then NodeSet.insert node.next nodes else nodes) nodes

/-- Read on to a place, unless there are too many places without a state.
`fuel` bounds the number of places. -/
def followPath (trace : Trace) (bound : Bound) (last : Nat) :
    (fuel : Nat) → (place gaps : Nat) → Option State → Array (Option State) →
    Nat × Array (Option State)
  | 0, place, _, _, states => (place, states)
  | fuel + 1, place, gaps, state, states =>
      if last ≤ place ∨ trace.longest < gaps then (place, states)
      else
        let known := match (states[place + 1]?).getD none with
          | some state => state.nodes
          | none => []
        let nodes := matcher.nextNodes text place state known
        let place := place + 1
        let repeats := (trace.repeatsAt place).map (·.2)
        let (nodes, states) :=
          if nodes.isEmpty then (nodes, states)
          else matcher.takeRepeats bound place repeats
            ((repeats.length + 1) * (matcher.nodes.size + 2)) repeats
            (matcher.closureWithin bound nodes) states
        let state := matcher.state? nodes (matcher.before text place)
        followPath trace bound last fuel place (if state.isNone then gaps + 1 else 0) state
          (states.setIfInBounds place state)

/-- Whether a way leads from a node at one place to another node at a later
one, without passing the bound. -/
def arrives (trace : Trace) (bound : Bound) (path : Path) (source target : Nat × Nat) :
    Path × Bool :=
  let (firstNode, firstPlace) := source
  let (lastNode, last) := target
  let states :=
    if path.states.isEmpty then Array.replicate (text.size + 1) none else path.states
  let place := path.next.getD firstPlace
  let known := (states[place]?).getD none
  let resumes := known.any fun state =>
    state.nodes.any fun number => (matcher.node number).isReference
  let (state, states) :=
    if place = firstPlace || resumes then
      let nodes :=
        if place = firstPlace then matcher.closureWithin bound [firstNode]
        else (known.map State.nodes).getD []
      let repeats := (trace.repeatsAt place).map (·.2)
      let (nodes, states) := matcher.takeRepeats bound place repeats
        ((repeats.length + 1) * (matcher.nodes.size + 2)) repeats nodes states
      let state := matcher.state? nodes (matcher.before text place)
      (state, states.setIfInBounds place state)
    else (known, states)
  let (place, states) :=
    matcher.followPath text trace bound last (text.size + 1) place 0 state states
  let arrived := ((states[last]?).getD none).any fun state => state.nodes.contains lastNode
  (⟨some place, states⟩, arrived)

/-! ## What a reference can take -/

/-- Note that the reference can take again what the group has taken up to one
of its ends, if a way leads from there to the reference. -/
def noteRepeat (opening : Opening) (closing : Closing) (group reference place : Nat)
    (trace : Trace) : Closing × Trace :=
  let (path, arrived) := matcher.arrives text trace (.opening group) closing.path
    (closing.node, closing.place) (reference, place)
  let closing := { closing with path }
  if arrived then
    let again : Repeat := ⟨reference, place, opening.place, closing.place, []⟩
    let trace := { trace with
      repeats := trace.repeats.push again
      longest := max trace.longest again.length }
    (closing, trace.reach (place + again.length))
  else (closing, trace)

/-- The text between two places stands at another place too. -/
def standsAt (start finish place : Nat) : Bool :=
  place + (finish - start) ≤ text.size &&
    text.extract start finish = text.extract place (place + (finish - start))

/-- Try the ends of the group that are known, from the one with a number on.
The first one whose text does not stand at the place ends the search, which
the second result tells. `fuel` bounds their number. -/
def tryClosings (group reference place : Nat) : (fuel number : Nat) → (reached shift : Nat) →
    Opening → Trace → Opening × Bool × Nat × Trace
  | 0, _, _, shift, opening, trace => (opening, true, shift, trace)
  | fuel + 1, number, reached, shift, opening, trace =>
      match opening.closings[number]? with
      | none => (opening, true, shift, trace)
      | some closing =>
          if reached < closing.place && !standsAt text reached closing.place shift then
            (opening, false, shift, trace)
          else
            let shift := shift + (closing.place - reached)
            let (closing, trace) :=
              matcher.noteRepeat text opening closing group reference place trace
            let opening := { opening with
              closings := opening.closings.setIfInBounds number closing }
            tryClosings group reference place fuel (number + 1) closing.place shift opening trace

/-- Look for more ends of the group, at `finish` and behind it. `fuel` bounds
the number of places. -/
def findClosings (group reference place : Nat) : (fuel : Nat) → (finish shift : Nat) →
    Opening → Trace → Opening × Trace
  | 0, _, _, opening, trace => (opening, trace)
  | fuel + 1, finish, shift, opening, trace =>
      if place < finish then (opening, trace)
      else
        let isLonger := opening.place < finish
        if isLonger && (text[shift]?.isNone || text[shift]? != text[finish - 1]?) then
          (opening, trace)
        else
          let shift := if isLonger then shift + 1 else shift
          let node? := (trace.state? finish).bind fun state =>
            state.nodes.find? fun number => (matcher.node number).closes? = some group
          match node? with
          | none => findClosings group reference place fuel (finish + 1) shift opening trace
          | some node =>
              let (path, arrived) := matcher.arrives text trace (.closing group) opening.path
                (opening.node, opening.place) (node, finish)
              let opening := { opening with path }
              if arrived then
                let closing : Closing := ⟨node, finish, none, #[]⟩
                let (closing, trace) :=
                  matcher.noteRepeat text opening closing group reference place trace
                let opening := { opening with closings := opening.closings.push closing }
                findClosings group reference place fuel (finish + 1) shift opening trace
              else findClosings group reference place fuel (finish + 1) shift opening trace

/-- Find what a reference can take at a place, unless that has been done. -/
def findRepeats (reference place : Nat) (trace : Trace) : Trace :=
  if (trace.repeatsAt place).any fun (_, again) => again.node = reference then trace
  else match (matcher.node reference).kind with
    | .reference group =>
        (List.range trace.openings.size).foldl (fun trace number =>
          match trace.openings[number]? with
          | none => trace
          | some opening =>
              if (matcher.node opening.node).opens? ≠ some group then trace
              else
                let (opening, goesOn, shift, trace) := matcher.tryClosings text group reference
                  place opening.closings.size 0 opening.place place opening trace
                let (opening, trace) :=
                  if goesOn then
                    let finish := match opening.closings.back? with
                      | some closing => closing.place + 1
                      | none => opening.place
                    matcher.findClosings text group reference place (text.size + 2) finish shift
                      opening trace
                  else (opening, trace)
                { trace with openings := trace.openings.setIfInBounds number opening }) trace
    | _ => trace

/-! ## Reading a text -/

/-- Note where groups open to which references are made. -/
def noteOpenings (nodes : NodeSet) (place : Nat) (trace : Trace) : Trace :=
  nodes.foldl (fun trace number =>
    match (matcher.node number).opens? with
    | some group =>
        if matcher.recalled.contains group then
          { trace with openings := trace.openings.push ⟨number, place, ⟨none, #[]⟩, #[]⟩ }
        else trace
    | none => trace) trace

mutual
/-- The references among some nodes lead to states here and farther on. `fuel`
bounds the number of nodes. -/
def takeReferences : (fuel : Nat) → (place : Nat) → NodeSet → Trace → Trace
  | 0, _, _, trace => trace
  | _, _, [], trace => trace
  | fuel + 1, place, number :: rest, trace =>
      let node := matcher.node number
      if !node.isReference || !node.edge.after.holdsFor (matcher.after text place) then
        takeReferences fuel place rest trace
      else
        let known := trace.repeats.size
        let trace := matcher.findRepeats text number place trace
        let trace := leadOn fuel place number known trace
        takeReferences fuel place rest trace

/-- Where the repeats of a reference lead, from the one with a number on. -/
def leadOn : (fuel : Nat) → (place reference number : Nat) → Trace → Trace
  | 0, _, _, _, trace => trace
  | fuel + 1, place, reference, number, trace =>
      match trace.repeat? number with
      | none => trace
      | some again =>
          if again.node ≠ reference || again.place ≠ place then
            leadOn fuel place reference (number + 1) trace
          else
            let node := matcher.node reference
            let way := if again.length = 0 then node.ways.headD 0 else node.next
            let nodes := matcher.closure way
            let target := place + again.length
            let before := ((trace.state? place).map (·.nodes.length)).getD 0
            let entered := match trace.state? target with
              | some state => NodeSet.union state.entered nodes
              | none => nodes
            let trace := trace.setState target
              (matcher.state? entered (matcher.before text target))
            let now := ((trace.state? place).map (·.nodes.length)).getD 0
            let trace :=
              if again.length = 0 && before < now then
                takeReferences fuel place nodes (matcher.noteOpenings nodes place trace)
              else trace
            leadOn fuel place reference (number + 1) trace
end

def referenceLimit : Nat := 1000000

/-- Groups and references of the state that has been reached. -/
def settle (place : Nat) (state : State) (trace : Trace) : Option State × Trace :=
  let trace := matcher.noteOpenings state.nodes place trace
  if state.nodes.any fun number => (matcher.node number).isReference then
    let trace := matcher.takeReferences text referenceLimit place state.nodes trace
    (trace.state? place, trace)
  else (some state, trace)

/-- The state after a character is joined with the one to which references
have led. -/
def join (place : Nat) (state : Option State) (trace : Trace) : Option State × Trace :=
  let (state, trace) : Option State × Trace :=
    if trace.top < place then (state, { trace.setState place state with top := place })
    else match trace.state? place with
      | none => (state, trace.setState place state)
      | some known =>
          let entered := match state with
            | some state => NodeSet.union state.entered known.entered
            | none => known.entered
          let state := matcher.state? entered (matcher.before text place)
          (state, trace.setState place state)
  match state with
  | none => (none, trace)
  | some state => matcher.settle text place state trace

/-- The next place at which there is a state. `fuel` bounds the number of
places. -/
def resume : (fuel : Nat) → (place : Nat) → Trace → Option (Nat × State × Trace)
  | 0, _, _ => none
  | fuel + 1, place, trace =>
      if trace.top < place then none
      else if (trace.state? place).isNone then resume fuel (place + 1) trace
      else match matcher.join text place none trace with
        | (some state, trace) => some (place, state, trace)
        | (none, trace) => resume fuel (place + 1) trace

/-- Read to the end, and remember where the pattern could end last. `fuel`
bounds the number of characters. -/
def readOn : (fuel : Nat) → (place : Nat) → State → (last : Option Nat) → Trace →
    Option Nat × Trace
  | 0, _, _, last, trace => (last, trace)
  | fuel + 1, place, state, last, trace =>
      match text[place]? with
      | none => (last, trace)
      | some char =>
          let place := place + 1
          let reached := match matcher.join text place (matcher.step? state char) trace with
            | (some state, trace) => some (place, state, trace)
            | (none, trace) => matcher.resume text (text.size + 1) (place + 1) trace
          match reached with
          | none => (last, trace)
          | some (place, state, trace) =>
              let last := if (matcher.finish? text state place).isSome then some place else last
              readOn fuel place state last trace

/-- Read from a place on with references. What they add to the first state is
not read on from. -/
def readWithReferences (start : Nat) : Option Nat × Trace :=
  let state := matcher.firstState text start
  let trace := { (Trace.start text).setState start (some state) with top := start }
  let (_, trace) := matcher.settle text start state trace
  let last := if (matcher.finish? text state start).isSome then some start else none
  matcher.readOn text (text.size + 1) start state last trace

end Dilemma.Matcher
