import Dilemma.Command.Tools.Pattern.Matcher

/-! # Walks

When it is known where a match ends, a walk through the network tells what the
groups take. At a fork the node with the smaller number is preferred, among
those from which the end can be reached in time. -/

namespace Dilemma

/-- What a group has taken, as places; the end is missing while it is open. -/
structure Extent where
  start : Option Nat
  finish : Option Nat
  deriving DecidableEq, Repr

namespace Extent

def none : Extent := ⟨.none, .none⟩

def isOpen (extent : Extent) : Bool := extent.start.isSome && extent.finish.isNone

/-- How long the group is, nothing if it is not known. -/
def length (extent : Extent) : Nat := (extent.finish.getD 0) - (extent.start.getD 0)

end Extent

/-- What the groups have taken, and what they had taken after the last round
that was not empty. -/
structure Groups where
  taken : Array Extent
  settled : Array Extent
  deriving DecidableEq, Repr

namespace Groups

def none (count : Nat) : Groups :=
  ⟨Array.replicate (count + 1) .none, Array.replicate (count + 1) .none⟩

def extent (groups : Groups) (number : Nat) : Extent := (groups.taken[number]?).getD .none

/-- A round of an optional group that takes nothing is undone if the group has
taken something before. -/
def closed (groups : Groups) (number place : Nat) (isOptional : Bool) : Groups :=
  let extent := groups.extent number
  let taken := groups.taken.setIfInBounds number { extent with finish := some place }
  if extent.start.any (· < place) || extent.start.isNone then ⟨taken, taken⟩
  else if isOptional && ((groups.settled[number]?).getD .none).start.isSome then
    ⟨groups.settled, groups.settled⟩
  else { groups with taken }

def passed (groups : Groups) (node : Node) (place : Nat) : Groups :=
  match node.kind with
  | .opening number =>
      { groups with taken := groups.taken.setIfInBounds number ⟨some place, .none⟩ }
  | .closing number isOptional => groups.closed number place isOptional
  | _ => groups

end Groups

namespace Matcher

/-- The node takes the character at a place. -/
def takesAt (matcher : Matcher) (text : Text) (node : Node) (place : Nat) : Bool :=
  match node.kind, text[place]? with
  | .one accepted, some char =>
      accepted.accepts char && node.edge.after.holdsFor (matcher.marginOf char)
  | _, _ => false

/-! ## What leads to the end -/

/-- Some nodes and those nodes of a state from which they can be reached
without a character. -/
def withSources (matcher : Matcher) (state : Option State) (nodes : NodeSet) : NodeSet :=
  match state with
  | none => nodes
  | some state =>
      NodeSet.union nodes
        (NodeSet.inter state.nodes (NodeSet.unions (nodes.map matcher.sourcesAt)))

/-- The nodes of a state that lead to given nodes by the next character. -/
def leadingTo (matcher : Matcher) (text : Text) (state : State) (place : Nat)
    (nodes : NodeSet) : NodeSet :=
  state.nodes.filter fun number =>
    let node := matcher.node number
    matcher.takesAt text node place && nodes.contains node.next

/-- From the states of a match, latest first, the nodes that lead to its end,
earliest first. `place` is the end of the part that is left. -/
def useful (matcher : Matcher) (text : Text) : List State → (place : Nat) →
    (found : List NodeSet) → List NodeSet
  | [], _, found => found
  | state :: states, place, found =>
      let leading := matcher.leadingTo text state (place - 1) (found.head?.getD [])
      let nodes := if leading.isEmpty then [] else matcher.withSources (some state) leading
      matcher.useful text states (place - 1) (nodes :: found)

/-! ## Walking -/

/-- Where a walk is, and the nodes that it has passed since the last character. -/
structure Walk where
  node : Nat
  place : Nat
  groups : Groups
  passed : NodeSet
  deriving DecidableEq, Repr

/-- How a walk goes on, with other walks that could be tried instead. -/
abbrev Progress := Option Walk × List Walk

/-- The choice at a fork among the nodes that are useful here. The first one is
taken unless it has been passed since the last character. -/
def chooseWay (ways : List Nat) (passed : NodeSet) : Option Nat × Option Nat :=
  match ways with
  | [] => (none, none)
  | [way] => (some way, none)
  | way :: other :: _ => if passed.contains way then (some other, none) else (some way, some other)

/-- The length of what a reference takes, if it takes the text at a place. -/
def recalled? (text : Text) (extent : Extent) (place : Nat) : Option Nat :=
  match extent with
  | ⟨some start, some finish⟩ =>
      let length := finish - start
      if (text.extract start finish) = (text.extract place (place + length)) then some length
      else none
  | _ => none

/-- One step of a walk. Only a walk that can go back notices that it has left
the useful nodes. -/
def advance (matcher : Matcher) (text : Text) (useful : Nat → NodeSet) (last : Nat)
    (goesBack : Bool) (walk : Walk) : Progress :=
  let node := matcher.node walk.node
  let onward (length : Nat) : Progress :=
    let place := walk.place + length
    if goesBack && (last < place || !(useful place).contains node.next) then (none, [])
    else (some { walk with node := node.next, place, passed := [] }, [])
  if node.isFree then
    let passed := NodeSet.insert walk.node walk.passed
    let ways := node.ways.filter (useful walk.place).contains
    let (way, other) := chooseWay ways passed
    (way.map fun node => { walk with node, passed },
      if goesBack then other.toList.map fun node => { walk with node, passed } else [])
  else match node.kind with
    | .reference number =>
        let extent := walk.groups.extent number
        match if goesBack then recalled? text extent walk.place else some extent.length with
        | none => (none, [])
        | some 0 =>
            let passed := NodeSet.insert walk.node walk.passed
            match node.ways.filter (useful walk.place).contains with
            | way :: _ => (some { walk with node := way, passed }, [])
            | [] => (none, [])
        | some length => onward length
    | _ => if matcher.takesAt text node walk.place then onward 1 else (none, [])

/-- Walk to the end. Where no step is possible the walk goes on with what could
have been tried last, and so it does if a group is open at the end; then the
node from which it goes on is not passed again. `fuel` bounds the number of
steps. -/
def walkOn (matcher : Matcher) (text : Text) (useful : Nat → NodeSet) (finish last : Nat)
    (goesBack : Bool) : (fuel : Nat) → (passes : Bool) → Walk → (others : List Walk) →
    Option Groups
  | 0, _, _, _ => none
  | fuel + 1, passes, walk, others =>
      let groups :=
        if passes then walk.groups.passed (matcher.node walk.node) walk.place else walk.groups
      let walk := { walk with groups }
      let back (passes : Bool) : Option Groups := match others with
        | [] => none
        | other :: others =>
            matcher.walkOn text useful finish last goesBack fuel passes other others
      if passes && walk.node = finish && walk.place = last then
        if goesBack && groups.taken.any Extent.isOpen then back false else some groups
      else match matcher.advance text useful last goesBack walk with
        | (some next, alternatives) =>
            matcher.walkOn text useful finish last goesBack fuel true next (alternatives ++ others)
        | (none, _) => back true

/-- A walk that has not come to an end after so many steps is given up. -/
def walkLimit : Nat := 2000000

def walk (matcher : Matcher) (text : Text) (useful : Nat → NodeSet) (start finish last : Nat) :
    Option Groups :=
  matcher.walkOn text useful finish last (matcher.hasChoice && matcher.hasReferences) walkLimit
    true ⟨matcher.start, start, .none matcher.groupCount, []⟩ []

/-- A group that has no nodes has taken what the one that stands for it has. -/
def allGroups (matcher : Matcher) (groups : Groups) : Array Extent :=
  matcher.merged.foldl (fun taken (number, standing) =>
    taken.setIfInBounds number ((taken[standing]?).getD .none)) groups.taken

end Matcher

end Dilemma
