import Dilemma.Command.Tools.Pattern.Network

/-! # Matchers

A matcher is a pattern made ready for searching. While a text is read it keeps
a state: all nodes that can have been reached, with what is known about the
character before. -/

namespace Dilemma

structure Matcher where
  nodes : Array Node
  /-- What can be reached from a node without a character. -/
  closures : Array NodeSet
  /-- From where a node can be reached without a character. -/
  sources : Array NodeSet
  start : Nat
  groupCount : Nat
  /-- The groups that have no nodes, each with the one that stands for it. -/
  merged : List (Nat × Nat)
  /-- The groups to which references are made. -/
  recalled : List Nat
  hasChoice : Bool
  /-- Lines have edges inside of the text too. -/
  byLine : Bool
  deriving DecidableEq, Repr

namespace Matcher

/-- For every node the nodes whose closures hold it. -/
def sourcesOf (closures : List NodeSet) : Array NodeSet :=
  (closures.zipIdx.reverse).foldl (fun sources (closure, source) =>
    closure.foldl (fun sources node => sources.modify node (source :: ·)) sources)
    (Array.replicate closures.length [])

def ofPattern (pattern : Pattern) (byLine : Bool) : Matcher :=
  let plan? := Plan.ofPattern? pattern
  let merged := (plan?.map Plan.merged).getD []
  let leader (number : Nat) : Nat := ((merged.find? (·.1 = number)).map (·.2)).getD number
  let plan? := plan?.map Plan.simplified
  let size := (plan?.map Plan.size).getD 0
  let nodes := ((plan?.map (Plan.nodes leader 0 size)).getD []) ++ [Network.missing]
  let limit := 8 * (size + 4) * (size + 4)
  let network := (Network.ofNodes nodes).closeFrom limit limit 0
  let closures := network.closures.toList.map fun closure =>
    match closure with
    | .known nodes => nodes
    | _ => []
  { nodes := network.nodes
    closures := closures.toArray
    sources := sourcesOf closures
    start := (plan?.map (Plan.first 0)).getD 0
    groupCount := pattern.groupCount
    merged
    recalled := ((plan?.map Plan.references).getD []).map leader
    hasChoice := (plan?.map Plan.hasChoice).getD false
    byLine }

def node (matcher : Matcher) (number : Nat) : Node := (matcher.nodes[number]?).getD Network.missing

def closure (matcher : Matcher) (number : Nat) : NodeSet := (matcher.closures[number]?).getD []

def sourcesAt (matcher : Matcher) (number : Nat) : NodeSet := (matcher.sources[number]?).getD []

def hasReferences (matcher : Matcher) : Bool := !matcher.recalled.isEmpty

/-! ## Surroundings -/

abbrev Text := Array Char

def isWordChar (char : Char) : Bool := CharClass.contains CharClass.wordRanges char

/-- What is known where a character is. -/
def marginOf (matcher : Matcher) (char : Char) : Margin :=
  { Margin.plain with word := isWordChar char, line := char = '\n' && matcher.byLine }

/-- What is known before a place. -/
def before (matcher : Matcher) (text : Text) : (place : Nat) → Margin
  | 0 => { Margin.plain with line := true, border := true }
  | place + 1 => (text[place]?.map matcher.marginOf).getD .plain

/-- What is known behind a place. -/
def after (matcher : Matcher) (text : Text) (place : Nat) : Margin :=
  match text[place]? with
  | some char => matcher.marginOf char
  | none => { Margin.plain with line := true, border := true }

/-! ## States -/

structure State where
  /-- The nodes that have been reached. -/
  entered : NodeSet
  /-- Those of them whose edges hold so far. -/
  nodes : NodeSet
  margin : Margin
  deriving DecidableEq, Repr

def hasEdges (matcher : Matcher) (nodes : NodeSet) : Bool :=
  nodes.any fun number => (matcher.node number).edge ≠ .anywhere

/-- The state of some nodes; there is none without nodes. -/
def state? (matcher : Matcher) (entered : NodeSet) (margin : Margin) : Option State :=
  if entered.isEmpty then none
  else some ⟨entered, entered.filter fun number =>
    (matcher.node number).edge.before.holdsFor margin, margin⟩

/-- The state after a character. What is known counts only where something is
asked for. -/
def stateAfter? (matcher : Matcher) (entered : NodeSet) (margin : Margin) : Option State :=
  matcher.state? entered (if matcher.hasEdges entered then margin else .plain)

/-- The node takes the character with which a text goes on. A line feed is the
end of a line for a character that is taken at one, whatever lines are. -/
def takes (node : Node) (char : Char) : Bool :=
  match node.kind with
  | .one accepted =>
      let asked := node.edge.after
      accepted.accepts char && !asked.border && (!asked.line || char = '\n') &&
        (!asked.word || isWordChar char) && (!asked.noWord || !isWordChar char)
  | _ => false

/-- What a character leads to. -/
def step? (matcher : Matcher) (state : State) (char : Char) : Option State :=
  let entered := state.nodes.foldl (fun entered number =>
    let node := matcher.node number
    if takes node char then NodeSet.union entered (matcher.closure node.next) else entered) []
  let margin := { Margin.plain with word := isWordChar char, line := char = '\n' }
  matcher.stateAfter? entered margin

/-- The node at which the pattern ends here, if it does. -/
def finish? (matcher : Matcher) (text : Text) (state : State) (place : Nat) : Option Nat :=
  state.nodes.find? fun number =>
    let node := matcher.node number
    node.kind = .finish && node.edge.after.holdsFor (matcher.after text place)

/-- The nodes with which the pattern begins. A reference to a group that can
be empty takes nothing there. `fuel` bounds the number of references. -/
def openWays (matcher : Matcher) : (fuel : Nat) → NodeSet → NodeSet
  | 0, nodes => nodes
  | fuel + 1, nodes =>
      let ways := nodes.filterMap fun number =>
        let node := matcher.node number
        match node.kind with
        | .reference group =>
            if nodes.any (fun other => (matcher.node other).closes? = some group) then
              node.ways.head?.filter (!nodes.contains ·)
            else none
        | _ => none
      match ways with
      | [] => nodes
      | way :: _ => matcher.openWays fuel (NodeSet.union nodes (matcher.closure way))

def firstNodes (matcher : Matcher) : NodeSet :=
  matcher.openWays matcher.nodes.size (matcher.closure matcher.start)

/-- The state in which a search begins. There is always one. -/
def firstState (matcher : Matcher) (text : Text) (place : Nat) : State :=
  (matcher.stateAfter? matcher.firstNodes (matcher.before text place)).getD ⟨[], [], .plain⟩

end Matcher

end Dilemma
