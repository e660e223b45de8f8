/-! # Sets of nodes

The nodes of a network have numbers. A set of them is the list of its numbers
in ascending order, so that equal sets are equal lists. -/

namespace Dilemma

abbrev NodeSet := List Nat

namespace NodeSet

def insert (node : Nat) : NodeSet → NodeSet
  | [] => [node]
  | first :: rest =>
      if node < first then node :: first :: rest
      else if node = first then first :: rest
      else first :: insert node rest

def ofList (nodes : List Nat) : NodeSet := nodes.foldr insert []

def union : NodeSet → NodeSet → NodeSet
  | [], second => second
  | first, [] => first
  | a :: first, b :: second =>
      if a < b then a :: union first (b :: second)
      else if b < a then b :: union (a :: first) second
      else a :: union first second
termination_by first second => first.length + second.length

def unions (sets : List NodeSet) : NodeSet := sets.foldl union []

def inter : NodeSet → NodeSet → NodeSet
  | [], _ | _, [] => []
  | a :: first, b :: second =>
      if a < b then inter first (b :: second)
      else if b < a then inter (a :: first) second
      else a :: inter first second
termination_by first second => first.length + second.length

end NodeSet

end Dilemma
