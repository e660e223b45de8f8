import Dilemma.Chance.Stream
import Dilemma.Game.Situation

/-! # The vocabulary of rules

What a rule may ask about a situation, how it may compare and compute, and
what it may do. -/

namespace Dilemma

/-! ## Predicates -/

/-- What can be asked for as a number. -/
inductive Measure where
  | roundIndex
  | cooperationRate (side : Side)
  | totalScore (side : Side)
  deriving DecidableEq, Repr

def Measure.value (situation : Situation) : Measure → Binary64
  | roundIndex => Binary64.ofNat situation.round.toNat
  | cooperationRate side => situation.rate side
  | totalScore side => Binary64.ofInt (situation.total side)

/-- A predicate asks either for a last move or for a number. -/
inductive Predicate where
  | lastMove (side : Side)
  | measure (measure : Measure)
  deriving DecidableEq, Repr

namespace Predicate

def all : List Predicate :=
  [lastMove .own, lastMove .opponent, measure .roundIndex,
   measure (.cooperationRate .own), measure (.cooperationRate .opponent),
   measure (.totalScore .own), measure (.totalScore .opponent)]

def name : Predicate → String
  | lastMove .own => "own_last_move"
  | lastMove .opponent => "opponent_last_move"
  | measure .roundIndex => "round_index"
  | measure (.cooperationRate .own) => "own_cooperation_rate"
  | measure (.cooperationRate .opponent) => "opponent_cooperation_rate"
  | measure (.totalScore .own) => "own_total_score"
  | measure (.totalScore .opponent) => "opponent_total_score"

def ofName? (name : String) : Option Predicate :=
  all.find? (·.name = name)

theorem ofName?_name (predicate : Predicate) : ofName? predicate.name = some predicate := by
  rcases predicate with (_ | _) | (_ | (_ | _) | (_ | _)) <;> rfl

end Predicate

/-! ## Operators

Each operator can be written as a word or as a sign. -/

inductive Comparison where
  | equal
  | unequal
  | less
  | atMost
  | greater
  | atLeast
  deriving DecidableEq, Repr

namespace Comparison

def ofName? : String → Option Comparison
  | "eq" | "==" => some equal
  | "ne" | "!=" => some unequal
  | "lt" | "<" => some less
  | "le" | "<=" => some atMost
  | "gt" | ">" => some greater
  | "ge" | ">=" => some atLeast
  | _ => none

def sign : Comparison → String
  | equal => "=="
  | unequal => "!="
  | less => "<"
  | atMost => "<="
  | greater => ">"
  | atLeast => ">="

def holds : Comparison → Binary64 → Binary64 → Bool
  | equal, left, right => left.equal right
  | unequal, left, right => !left.equal right
  | less, left, right => left.less right
  | atMost, left, right => left.atMost right
  | greater, left, right => right.less left
  | atLeast, left, right => right.atMost left

end Comparison

inductive Arithmetic where
  | add
  | subtract
  | multiply
  | modulo
  deriving DecidableEq, Repr

namespace Arithmetic

def ofName? : String → Option Arithmetic
  | "add" | "+" => some add
  | "sub" | "-" => some subtract
  | "mul" | "*" => some multiply
  | "mod" | "%" => some modulo
  | _ => none

def sign : Arithmetic → String
  | add => "+"
  | subtract => "-"
  | multiply => "*"
  | modulo => "mod"

/-- Only the remainder by zero has no value. -/
def result? : Arithmetic → Binary64 → Binary64 → Option Binary64
  | add, left, right => some (left.add right)
  | subtract, left, right => some (left.subtract right)
  | multiply, left, right => some (left.multiply right)
  | modulo, left, right => if right.isZero then none else some (left.modulo right)

end Arithmetic

/-! ## Actions -/

inductive Action where
  | play (move : Move)
  | random
  deriving DecidableEq, Repr

namespace Action

def ofName? (name : String) : Option Action :=
  if name = "random" then some random
  else (Move.ofName? name).map play

def name : Action → String
  | play move => move.name
  | random => "random"

/-- Chance depends on the seed of the rule and the round alone. -/
def move (seed : UInt64) (round : UInt32) : Action → Move
  | play move => move
  | random => if RandomStream.coin seed round then .cooperate else .defect

theorem ofName?_name (action : Action) : ofName? action.name = some action := by
  rcases action with (_ | _) | _ <;> rfl

end Action

end Dilemma
