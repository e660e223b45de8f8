/-! # Moves and seats -/

namespace Dilemma

/-- What a player does in a round of the dilemma. -/
inductive Move where
  | cooperate
  | defect
  deriving DecidableEq, Repr, Inhabited

namespace Move

def flip : Move → Move
  | cooperate => defect
  | defect => cooperate

def name : Move → String
  | cooperate => "cooperate"
  | defect => "defect"

def ofName? : String → Option Move
  | "cooperate" => some cooperate
  | "defect" => some defect
  | _ => none

@[simp] theorem flip_flip (move : Move) : move.flip.flip = move := by
  cases move <;> rfl

theorem ofName?_name (move : Move) : ofName? move.name = some move := by
  cases move <;> rfl

end Move

/-- The two sides of a match. -/
inductive Seat where
  | a
  | b
  deriving DecidableEq, Repr

namespace Seat

def name : Seat → String
  | a => "A"
  | b => "B"

def ofName? : String → Option Seat
  | "A" => some a
  | "B" => some b
  | _ => none

theorem ofName?_name (seat : Seat) : ofName? seat.name = some seat := by
  cases seat <;> rfl

def other : Seat → Seat
  | a => b
  | b => a

@[simp] theorem other_other (seat : Seat) : seat.other.other = seat := by
  cases seat <;> rfl

end Seat

end Dilemma
