import Dilemma.Command.Tools.Pattern.NodeSet
import Dilemma.Command.Tools.Pattern.Plan

/-! # Networks

A plan as a network of nodes with numbers. The numbers follow the order of the
plan, a choice or loop coming after what it holds; they decide which way is
preferred. Some nodes take a character, others are passed without one. -/

namespace Dilemma

inductive NodeKind where
  | one (accepted : CharClass)
  | reference (number : Nat)
  /-- A choice or a loop. -/
  | fork
  | border
  | opening (number : Nat)
  | closing (number : Nat) (isOptional : Bool)
  | finish
  deriving DecidableEq, Repr

/-- A node leads to others without a character, or to the next one with one. A
reference does both. -/
structure Node where
  kind : NodeKind
  /-- What has to hold where the node is reached. -/
  edge : Edge
  ways : NodeSet
  next : Nat
  isCopy : Bool
  /-- The node from which this one has been made for the sake of an edge. -/
  model : Option Nat
  deriving DecidableEq, Repr

namespace Node

def isFree (node : Node) : Bool :=
  match node.kind with
  | .one _ | .reference _ | .finish => false
  | _ => true

def isReference (node : Node) : Bool :=
  match node.kind with
  | .reference _ => true
  | _ => false

/-- The group that the node opens. -/
def opens? (node : Node) : Option Nat :=
  match node.kind with
  | .opening number => some number
  | _ => none

def closes? (node : Node) : Option Nat :=
  match node.kind with
  | .closing number _ => some number
  | _ => none

end Node

/-! ## Numbering -/

namespace Plan

/-- How many nodes a plan has. -/
def size : Plan → Nat
  | leaf (.emptyGroup ..) _ => 2
  | leaf .. => 1
  | sequence first second => first.size + second.size
  | either first second _ => first.size + second.size + 1
  | perhaps inner _ | loop inner _ => inner.size + 1
  | group _ inner _ _ => inner.size + 2

/-- Where a plan begins whose numbers start with `base`. -/
def first (base : Nat) : Plan → Nat
  | sequence start _ => start.first base
  | either first second _ => base + first.size + second.size
  | perhaps inner _ | loop inner _ => base + inner.size
  | leaf .. | group .. => base

def freeNode (kind : NodeKind) (ways : List Nat) (isCopy : Bool) : Node :=
  ⟨kind, .anywhere, .ofList ways, 0, isCopy, none⟩

/-- The nodes of a plan that is followed by the node `next`. `leader` gives the
group that stands for another. -/
def nodes (leader : Nat → Nat) (base next : Nat) : Plan → List Node
  | leaf kind isCopy =>
      match kind with
      | .one accepted => [⟨.one accepted, .anywhere, [], next, isCopy, none⟩]
      | .border edge => [{ freeNode .border [next] isCopy with edge }]
      | .reference number => [⟨.reference (leader number), .anywhere, [next], next, isCopy, none⟩]
      | .emptyGroup number isOptional =>
          [freeNode (.opening number) [base + 1] false,
            freeNode (.closing number isOptional) [next] false]
      | .nothing => [freeNode .fork [next] isCopy]
  | sequence start rest =>
      start.nodes leader base (rest.first (base + start.size)) ++
        rest.nodes leader (base + start.size) next
  | either one other isCopy =>
      one.nodes leader base next ++ other.nodes leader (base + one.size) next ++
        [freeNode .fork [one.first base, other.first (base + one.size)] isCopy]
  | perhaps inner isCopy =>
      inner.nodes leader base next ++ [freeNode .fork [inner.first base, next] isCopy]
  | loop inner isCopy =>
      inner.nodes leader base (base + inner.size) ++
        [freeNode .fork [inner.first base, next] isCopy]
  | group number inner isOptional _ =>
      [freeNode (.opening number) [inner.first (base + 1)] false] ++
        inner.nodes leader (base + 1) (base + 1 + inner.size) ++
        [freeNode (.closing number isOptional) [next] false]

end Plan

/-! ## Closures

The closure of a node is what can be reached from it without a character. What
comes behind an edge has to hold the edge too, so it is made again for it. -/

/-- How far the closure of a node has been found. -/
inductive Closure where
  | unknown
  | underWay
  | known (nodes : NodeSet)
  deriving DecidableEq, Repr

structure Network where
  nodes : Array Node
  closures : Array Closure
  deriving DecidableEq, Repr

namespace Network

def ofNodes (nodes : List Node) : Network :=
  ⟨nodes.toArray, Array.replicate nodes.length .unknown⟩

def missing : Node := ⟨.finish, .anywhere, [], 0, false, none⟩

def node (network : Network) (number : Nat) : Node := (network.nodes[number]?).getD missing

def ways (network : Network) (number : Nat) : NodeSet := (network.node number).ways

def setWays (network : Network) (number : Nat) (ways : NodeSet) : Network :=
  { network with nodes := network.nodes.modify number fun node => { node with ways } }

def setNext (network : Network) (number next : Nat) : Network :=
  { network with nodes := network.nodes.modify number fun node => { node with next } }

def setClosure (network : Network) (number : Nat) (closure : Closure) : Network :=
  { network with closures := network.closures.setIfInBounds number closure }

def closure (network : Network) (number : Nat) : Closure :=
  (network.closures[number]?).getD .unknown

/-- The same node again, with an edge. -/
def duplicate (network : Network) (number : Nat) (edge : Edge) : Nat × Network :=
  let node := network.node number
  let made := { node with
    edge := edge.merge node.edge, isCopy := true, model := some number, ways := [], next := 0 }
  (network.nodes.size, ⟨network.nodes.push made, network.closures.push .unknown⟩)

/-- A node that has been made from another for an edge. Only the copies at the
end are searched, latest first. -/
def duplicateOf? (network : Network) (number : Nat) (edge : Edge) : Option Nat :=
  let copies := ((List.range network.nodes.size).reverse).takeWhile fun place =>
    0 < place && (network.node place).isCopy
  copies.find? fun place =>
    (network.node place).model = some number && (network.node place).edge = edge

/-- Make again what is behind a node, as the ways of another that is like it.
`root` is where this began; a loop back to it is not gone through again. `fuel`
bounds the number of nodes that are made. -/
def duplicateBehind (root : Nat) : (fuel : Nat) → (number clone : Nat) → Edge → Network → Network
  | 0, _, _, _, network => network
  | fuel + 1, number, clone, edge, network =>
      let node := network.node number
      if node.isReference then
        let (made, network) := network.duplicate node.next edge
        let network := (network.setNext clone node.next).setWays clone [made]
        duplicateBehind root fuel node.next made edge network
      else match node.ways with
        | [] => network.setNext clone node.next
        | [way] =>
            if number = root ∧ clone ≠ number then network.setWays clone [way]
            else
              let edge := edge.merge node.edge
              let (made, network) := network.duplicate way edge
              duplicateBehind root fuel way made edge (network.setWays clone [made])
        | way :: other :: _ =>
            let network := match network.duplicateOf? way edge with
              | some made => network.setWays clone [made]
              | none =>
                  let (made, network) := network.duplicate way edge
                  duplicateBehind root fuel way made edge (network.setWays clone [made])
            let (made, network) := network.duplicate other edge
            let network := network.setWays clone (NodeSet.insert made (network.ways clone))
            duplicateBehind root fuel other made edge network

mutual
/-- Find the closure of a node. It is not complete if it leads back to one that
is under way; then it is kept only for the node where the search began. `fuel`
bounds the number of nodes on the way. -/
def close : (fuel : Nat) → (number : Nat) → (isRoot : Bool) → Network →
    NodeSet × Bool × Network
  | 0, number, _, network => ([number], true, network)
  | fuel + 1, number, isRoot, network =>
      let network := network.setClosure number .underWay
      let node := network.node number
      let network :=
        if node.edge ≠ .anywhere && node.ways.head?.any fun way => !(network.node way).isCopy then
          duplicateBehind number (fuel + 1) number number node.edge network
        else network
      let ways := if node.isFree then network.ways number else []
      let (found, isComplete, network) := closeAll fuel ways [number] true network
      let kept := if isComplete || isRoot then Closure.known found else .unknown
      (found, isComplete, network.setClosure number kept)

def closeAll : (fuel : Nat) → List Nat → (found : NodeSet) → (isComplete : Bool) → Network →
    NodeSet × Bool × Network
  | 0, _, found, isComplete, network => (found, isComplete, network)
  | _, [], found, isComplete, network => (found, isComplete, network)
  | fuel + 1, way :: ways, found, isComplete, network =>
      match network.closure way with
      | .underWay => closeAll fuel ways found false network
      | .known nodes => closeAll fuel ways (NodeSet.union found nodes) isComplete network
      | .unknown =>
          let (nodes, isWayComplete, network) := close fuel way false network
          closeAll fuel ways (NodeSet.union found nodes) (isComplete && isWayComplete) network
end

/-- Find the closures of all nodes from `number` on, and of those that are made
on the way. `fuel` bounds the number of nodes. -/
def closeFrom (depth : Nat) : (fuel number : Nat) → Network → Network
  | 0, _, network => network
  | fuel + 1, number, network =>
      if number < network.nodes.size then
        let network := match network.closure number with
          | .known _ => network
          | _ => (close depth number true network).2.2
        closeFrom depth fuel (number + 1) network
      else network

end Network

end Dilemma
