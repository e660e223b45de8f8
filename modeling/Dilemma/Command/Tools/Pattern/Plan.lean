import Dilemma.Command.Tools.Pattern.Basic

/-! # Plans

A plan is a pattern with its repetitions written out: what can be taken a
number of times is there so many times, and only a choice and a loop are left.
The copies are marked as such. -/

namespace Dilemma

/-- A part that cannot be taken apart. -/
inductive Leaf where
  | one (accepted : CharClass)
  | border (edge : Edge)
  /-- What a group has taken. -/
  | reference (number : Nat)
  | emptyGroup (number : Nat) (isOptional : Bool)
  /-- A choice between nothing and nothing. -/
  | nothing
  deriving DecidableEq, Repr

inductive Plan where
  | leaf (kind : Leaf) (isCopy : Bool)
  | sequence (first second : Plan)
  | either (first second : Plan) (isCopy : Bool)
  /-- A choice between the inner plan and nothing. -/
  | perhaps (inner : Plan) (isCopy : Bool)
  | loop (inner : Plan) (isCopy : Bool)
  /-- A group that is repeated is optional. -/
  | group (number : Nat) (inner : Plan) (isOptional isCopy : Bool)
  deriving DecidableEq, Repr

namespace Plan

/-- The same plan as a copy. Its groups are not optional. -/
def copy : Plan → Plan
  | leaf (.emptyGroup number _) _ => leaf (.emptyGroup number false) true
  | leaf kind _ => leaf kind true
  | sequence first second => sequence first.copy second.copy
  | either first second _ => either first.copy second.copy true
  | perhaps inner _ => perhaps inner.copy true
  | loop inner _ => loop inner.copy true
  | group number inner _ _ => group number inner.copy false true

/-- Only a group itself becomes optional, not what is inside. -/
def optional : Plan → Plan
  | leaf (.emptyGroup number _) isCopy => leaf (.emptyGroup number true) isCopy
  | group number inner _ isCopy => group number inner true isCopy
  | plan => plan

def andThen : Option Plan → Option Plan → Option Plan
  | some first, some second => some (sequence first second)
  | none, plan | plan, none => plan

/-- The plan once, and then so many copies. -/
def times (plan : Plan) : (copies : Nat) → Plan
  | 0 => plan
  | copies + 1 => sequence (plan.times copies) plan.copy

/-- Once or not at all, and so many times more; each time needs the ones
before. -/
def upTo (plan : Plan) : (more : Nat) → Plan
  | 0 => perhaps plan false
  | more + 1 => perhaps (sequence (plan.upTo more) plan.copy) false

/-- What may follow when the plan has been taken as often as it has to be. -/
def extra (plan : Plan) (least : Nat) : (most : Option Nat) → Option Plan
  | none => some (loop plan.optional false)
  | some most => if least < most then some (plan.optional.upTo (most - least - 1)) else none

def manyTimes (plan : Plan) (least : Nat) (most : Option Nat) : Option Plan :=
  match least with
  | 0 => plan.extra 0 most
  | copies + 1 => andThen (some (plan.times copies)) (plan.copy.extra least most)

/-- The plan of a pattern, `none` if it takes nothing whatever the text is. -/
def ofPattern? : Pattern → Option Plan
  | .nothing => none
  | .one accepted => some (leaf (.one accepted) false)
  | .border edge => some (leaf (.border edge) false)
  | .reference number => some (leaf (.reference number) false)
  | .group number inner =>
      match ofPattern? inner with
      | some plan => some (group number plan false false)
      | none => some (leaf (.emptyGroup number false) false)
  | .sequence first second => andThen (ofPattern? first) (ofPattern? second)
  | .either first second =>
      match ofPattern? first, ofPattern? second with
      | some first, some second => some (either first second false)
      | some plan, none | none, some plan => some (perhaps plan false)
      | none, none => some (leaf .nothing false)
  | .repeated inner least most => (ofPattern? inner).bind fun plan => plan.manyTimes least most

/-! ## Groups that are the same

A group that holds nothing but another group takes what that one takes. Only
the outer one is kept, and the inner one is known by its number. -/

/-- The groups that are left out, each with the one that stands for it. -/
def merged : Plan → List (Nat × Nat)
  | leaf .. => []
  | sequence first second | either first second _ => first.merged ++ second.merged
  | perhaps inner _ | loop inner _ => inner.merged
  | group number (group other inner _ _) _ _ => (other, number) :: inner.merged
  | group number (leaf (.emptyGroup other _) _) _ _ => [(other, number)]
  | group _ inner _ _ => inner.merged

/-- The plan without the groups that are left out. -/
def simplified : Plan → Plan
  | leaf kind isCopy => leaf kind isCopy
  | sequence first second => sequence first.simplified second.simplified
  | either first second isCopy => either first.simplified second.simplified isCopy
  | perhaps inner isCopy => perhaps inner.simplified isCopy
  | loop inner isCopy => loop inner.simplified isCopy
  | group number (group _ inner _ _) isOptional isCopy =>
      group number inner.simplified isOptional isCopy
  | group number (leaf (.emptyGroup ..) _) isOptional isCopy =>
      leaf (.emptyGroup number isOptional) isCopy
  | group number inner isOptional isCopy => group number inner.simplified isOptional isCopy

/-! ## What a plan has -/

/-- The plan has a choice or a loop. -/
def hasChoice : Plan → Bool
  | leaf kind _ => kind = .nothing
  | sequence first second => first.hasChoice || second.hasChoice
  | either .. | perhaps .. | loop .. => true
  | group _ inner _ _ => inner.hasChoice

/-- The groups to which references are made. -/
def references : Plan → List Nat
  | leaf (.reference number) _ => [number]
  | leaf .. => []
  | sequence first second | either first second _ => first.references ++ second.references
  | perhaps inner _ | loop inner _ | group _ inner _ _ => inner.references

end Plan

end Dilemma
