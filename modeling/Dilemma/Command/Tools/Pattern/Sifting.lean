import Dilemma.Command.Tools.Pattern.Recall

/-! # Sifting

Among the nodes that have been reached, those are kept from which the end of
the match can be reached. If a reference is on the way, what its group has
taken limits the nodes in between. -/

namespace Dilemma.Matcher

structure Sifting where
  kept : Array (Option NodeSet)
  /-- What is kept for one of the ways over references. -/
  joined : Array (Option NodeSet)
  repeats : Array Repeat

namespace Sifting

def start (text : Text) (repeats : Array Repeat) : Sifting :=
  ⟨Array.replicate (text.size + 1) none, Array.replicate (text.size + 1) none, repeats⟩

def kept? (sifting : Sifting) (place : Nat) : Option NodeSet := (sifting.kept[place]?).getD none

def joined? (sifting : Sifting) (place : Nat) : Option NodeSet :=
  (sifting.joined[place]?).getD none

/-- Nothing is kept without nodes. -/
def keep (sifting : Sifting) (place : Nat) (nodes : NodeSet) : Sifting :=
  { sifting with
    kept := sifting.kept.setIfInBounds place (if nodes.isEmpty then none else some nodes) }

def both (first second : Option NodeSet) : Option NodeSet :=
  match first, second with
  | some first, some second => some (NodeSet.union first second)
  | none, nodes | nodes, none => nodes

/-- What is kept up to a place is joined with what has been kept before. -/
def join (sifting : Sifting) (place : Nat) : Sifting :=
  { sifting with
    joined := sifting.joined.mapIdx fun index nodes =>
      if index ≤ place then both nodes (sifting.kept? index) else nodes }

/-- All that has been kept up to a place. -/
def all (sifting : Sifting) (place : Nat) : Array (Option NodeSet) :=
  (Array.range (place + 1)).map fun index => both (sifting.kept? index) (sifting.joined? index)

/-- Before a place nothing is kept. -/
def clearBefore (sifting : Sifting) (place : Nat) : Sifting :=
  { sifting with
    kept := sifting.kept.mapIdx fun index nodes => if index < place then none else nodes }

end Sifting

variable (matcher : Matcher) (text : Text)

/-! ## Before, inside or behind a group -/

/-- Where a node lies with respect to what a group has taken. -/
inductive Position where
  | ahead
  | within
  | behind
  deriving DecidableEq

def repeatsIn (repeats : Array Repeat) (place : Nat) : List Nat :=
  (List.range repeats.size).filter fun number =>
    match repeats[number]? with
    | some again => again.place = place
    | none => false

mutual
/-- The position of a node at one end of the group or at both, which depends on
whether the group can be opened or closed from there. References that take
nothing are looked through. `fuel` bounds their number. -/
def positionFrom (atStart atFinish : Bool) (group source place : Nat) :
    (fuel : Nat) → (left : List Nat) → Array Repeat → Position × Array Repeat
  | 0, _, repeats => (if atFinish then .behind else .within, repeats)
  | _, [], repeats => (if atFinish then .behind else .within, repeats)
  | fuel + 1, number :: left, repeats =>
      let node := matcher.node number
      if node.isReference then
        match positionOver atStart atFinish group source place number fuel
          (repeatsIn repeats place) repeats with
        | (some position, repeats) => (position, repeats)
        | (none, repeats) => positionFrom atStart atFinish group source place fuel left repeats
      else if atStart && node.opens? = some group then (.ahead, repeats)
      else if atFinish && node.closes? = some group then (.within, repeats)
      else positionFrom atStart atFinish group source place fuel left repeats

/-- The position that shows behind a reference that takes nothing. -/
def positionOver (atStart atFinish : Bool) (group source place reference : Nat) :
    (fuel : Nat) → (left : List Nat) → Array Repeat → Option Position × Array Repeat
  | 0, _, repeats => (none, repeats)
  | _, [], repeats => (none, repeats)
  | fuel + 1, number :: left, repeats =>
      match repeats[number]? with
      | none => (none, repeats)
      | some again =>
          if again.node ≠ reference || 0 < again.length || again.barred.contains group then
            positionOver atStart atFinish group source place reference fuel left repeats
          else
            let way := (matcher.node reference).ways.headD 0
            if way = source then (some (if atStart then .ahead else .within), repeats)
            else match positionFrom atStart atFinish group way place fuel (matcher.closure way)
              repeats with
              | (.ahead, repeats) => (some .ahead, repeats)
              | (position, repeats) =>
                  if position = .within && atFinish then (some .within, repeats)
                  else
                    let repeats := repeats.modify number fun again =>
                      { again with barred := group :: again.barred }
                    positionOver atStart atFinish group source place reference fuel left repeats
end

def positionLimit : Nat := 100000

/-- Where a node at a place lies with respect to a repeat's group. -/
def position (limit : Repeat) (group number place : Nat) (repeats : Array Repeat) :
    Position × Array Repeat :=
  if place < limit.start then (.ahead, repeats)
  else if limit.finish < place then (.behind, repeats)
  else if place ≠ limit.start && place ≠ limit.finish then (.within, repeats)
  else matcher.positionFrom (place = limit.start) (place = limit.finish) group number place
    positionLimit (matcher.closure number) repeats

def groupOf (again : Repeat) : Nat :=
  match (matcher.node again.node).kind with
  | .reference group => group
  | _ => 0

/-- A step crosses the border of a group that is to be taken again. -/
def crosses (limits : List Nat) (source sourcePlace target targetPlace : Nat)
    (repeats : Array Repeat) : Bool × Array Repeat :=
  limits.foldl (fun (found, repeats) limit =>
    if found then (found, repeats)
    else match repeats[limit]? with
      | none => (false, repeats)
      | some again =>
          let group := matcher.groupOf again
          let (targetPosition, repeats) :=
            matcher.position again group target targetPlace repeats
          let (sourcePosition, repeats) :=
            matcher.position again group source sourcePlace repeats
          (sourcePosition ≠ targetPosition, repeats)) (false, repeats)

/-! ## Nodes against a limit -/

/-- Leave out a node and those that lead to it, unless they also lead to nodes
that are kept. -/
def leaveOut (number : Nat) (nodes candidates : NodeSet) : NodeSet :=
  let sources := matcher.sourcesAt number
  let leadsElsewhere (way : Option Nat) : Bool :=
    way.any fun way => !sources.contains way && nodes.contains way
  let spared := sources.foldl (fun spared source =>
    let node := matcher.node source
    if source ≠ number && node.isFree &&
        (leadsElsewhere node.ways.head? || leadsElsewhere (node.ways[1]?.filter (0 < ·))) then
      NodeSet.union spared (NodeSet.inter candidates (matcher.sourcesAt source))
    else spared) []
  nodes.filter fun node => !sources.contains node || spared.contains node

/-- Leave out nodes one after the other. `fuel` bounds their number. -/
def leaveOutWhere (unwanted : Nat → Bool) (stays : Bool) (candidates : NodeSet) :
    (fuel index : Nat) → NodeSet → NodeSet
  | 0, _, nodes => nodes
  | fuel + 1, index, nodes =>
      match nodes[index]? with
      | none => nodes
      | some number =>
          if unwanted number then
            leaveOutWhere unwanted stays candidates fuel (if stays then index else index + 1)
              (matcher.leaveOut number nodes candidates)
          else leaveOutWhere unwanted stays candidates fuel (index + 1) nodes

/-- The nodes that agree with what a group has taken. -/
def withinLimit (place : Nat) (candidates : NodeSet) (nodes : NodeSet) (limit : Repeat) :
    NodeSet :=
  if place ≤ limit.start || limit.place < place then nodes
  else
    let group := matcher.groupOf limit
    let opens (number : Nat) : Bool := (matcher.node number).opens? = some group
    let closes (number : Nat) : Bool := (matcher.node number).closes? = some group
    if limit.finish = place then
      let opening? := nodes.reverse.find? opens
      let closing? := nodes.reverse.find? closes
      let nodes := match opening? with
        | some opening => matcher.leaveOut opening nodes candidates
        | none => nodes
      match closing? with
      | some closing =>
          matcher.leaveOutWhere (fun number =>
            !(matcher.sourcesAt number).contains closing &&
              !(matcher.closure number).contains closing) true candidates
            (2 * matcher.nodes.size) 0 nodes
      | none => nodes
    else
      matcher.leaveOutWhere (fun number => opens number || closes number) false candidates
        (2 * matcher.nodes.size) 0 nodes

/-! ## Going back from the end -/

mutual
/-- Keep what leads to a node at a place, from there back to the start. `fuel`
bounds the number of ways over references. -/
def sift (trace : Trace) (start : Nat) (limits : List Nat) (finish last : Nat) :
    (fuel : Nat) → Sifting → Sifting
  | 0, sifting => sifting
  | fuel + 1, sifting =>
      let sifting := siftAt trace start limits finish last last [finish] fuel sifting
      siftBack trace start limits finish last fuel last 0 sifting
termination_by structural fuel => fuel

/-- Go back from a place, unless nothing is kept over too long a distance. -/
def siftBack (trace : Trace) (start : Nat) (limits : List Nat) (finish last : Nat) :
    (fuel : Nat) → (place gaps : Nat) → Sifting → Sifting
  | 0, _, _, sifting => sifting
  | fuel + 1, place, gaps, sifting =>
      if place ≤ start then sifting
      else
        let gaps := if (sifting.kept? place).isNone then gaps + 1 else 0
        if trace.longest < gaps then sifting.clearBefore place
        else
          let before := place - 1
          let target := (sifting.kept? place).getD []
          let (nodes, repeats) := match trace.state? before with
            | none => ([], sifting.repeats)
            | some state => state.nodes.foldl (fun (nodes, repeats) number =>
                let node := matcher.node number
                if matcher.takesAt text node before && target.contains node.next then
                  let (crossed, repeats) :=
                    matcher.crosses limits number before node.next place repeats
                  (if crossed then nodes else NodeSet.insert number nodes, repeats)
                else (nodes, repeats)) (([] : NodeSet), sifting.repeats)
          let sifting := siftAt trace start limits finish last before nodes fuel
            { sifting with repeats }
          siftBack trace start limits finish last fuel before gaps sifting
termination_by structural fuel => fuel

/-- Keep some nodes at a place with those that lead to them. -/
def siftAt (trace : Trace) (start : Nat) (limits : List Nat) (finish last place : Nat)
    (nodes : NodeSet) : (fuel : Nat) → Sifting → Sifting
  | 0, sifting => sifting
  | fuel + 1, sifting =>
      let state := trace.state? place
      let nodes := match nodes, state with
        | [], _ => []
        | nodes, none => nodes
        | nodes, some state =>
            let nodes := matcher.withSources (some state) nodes
            (limits.filterMap (sifting.repeats[·]?)).foldl
              (matcher.withinLimit place state.nodes) nodes
      let sifting := sifting.keep place nodes
      match state with
      | none => sifting
      | some state =>
          siftOver trace start limits finish last place fuel
            (state.nodes.filter fun number => (matcher.node number).isReference)
            (repeatsIn sifting.repeats place) sifting
termination_by structural fuel => fuel

/-- Keep what leads over references at a place. -/
def siftOver (trace : Trace) (start : Nat) (limits : List Nat) (finish last place : Nat) :
    (fuel : Nat) → (references : List Nat) → (left : List Nat) → Sifting → Sifting
  | 0, _, _, sifting => sifting
  | _, [], _, sifting => sifting
  | fuel + 1, _ :: references, [], sifting =>
      siftOver trace start limits finish last place fuel references
        (repeatsIn sifting.repeats place) sifting
  | fuel + 1, reference :: references, number :: left, sifting =>
      let goOn (sifting : Sifting) : Sifting :=
        siftOver trace start limits finish last place fuel (reference :: references) left sifting
      match sifting.repeats[number]? with
      | none => goOn sifting
      | some again =>
          if again.node ≠ reference || (reference = finish && place = last) then goOn sifting
          else
            let node := matcher.node reference
            let way := if again.length = 0 then node.ways.headD 0 else node.next
            let target := place + again.length
            if last < target || !((sifting.kept? target).getD []).contains way then goOn sifting
            else
              let (crossed, repeats) :=
                matcher.crosses limits way target reference place sifting.repeats
              let sifting := { sifting with repeats }
              if crossed then goOn sifting
              else
                let known := sifting.kept? place
                let sifting := sift trace start (NodeSet.insert number limits) reference place fuel
                  sifting
                let sifting := sifting.join place
                goOn { sifting with kept := sifting.kept.setIfInBounds place known }
termination_by structural fuel => fuel
end

def siftLimit : Nat := 1000000

/-- What is useful for a match that ends at a place, or for the longest one
before it for which anything is: where it ends, at which node, and the useful
nodes. `fuel` bounds the number of places. -/
def siftAll (trace : Trace) (start : Nat) : (fuel : Nat) → (finish last : Nat) →
    Array Repeat → Option (Nat × Nat × Array (Option NodeSet))
  | 0, _, _, _ => none
  | fuel + 1, finish, last, repeats =>
      let sifting := matcher.sift text trace start [] finish last siftLimit (.start text repeats)
      if (sifting.kept? start).isSome || (sifting.joined? start).isSome then
        some (finish, last, sifting.all last)
      else
        let earlier := ((List.range last).drop start).reverse.find? fun place =>
          (trace.state? place).any fun state =>
            state.entered.any fun number => (matcher.node number).kind = .finish
        match earlier with
        | none => none
        | some place =>
            let finish := ((trace.state? place).bind fun state =>
              matcher.finish? text state place).getD 0
            siftAll trace start fuel finish place sifting.repeats

end Dilemma.Matcher
