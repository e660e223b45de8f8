import Dilemma.Game.Situation

/-! # Decisions

A decision function is shown a situation and names a move. It may also refuse
with an error or crash; a crash leaves a message only if it was a text. -/

namespace Dilemma

inductive DecisionError where
  | divisionByZero (expression : String)
  | crashed (message : String)
  | other (message : String)
  deriving DecidableEq, Repr

def DecisionError.message : DecisionError → String
  | divisionByZero expression => s!"division by zero in `{expression}`"
  | crashed message => s!"decision function panicked: {message}"
  | other message => message

inductive Decision where
  | plays (move : Move)
  | fails (error : DecisionError)
  | crashes (message : Option String)
  deriving DecidableEq, Repr

namespace Decision

def ofExcept : Except DecisionError Move → Decision
  | .ok move => plays move
  | .error error => fails error

/-- A crash is one more error once it has been caught. -/
def toExcept : Decision → Except DecisionError Move
  | plays move => .ok move
  | fails error => .error error
  | crashes message => .error (.crashed (message.getD "non-string panic payload"))

end Decision

/-- A way of playing from outside of this library. Two functions count as the
same if they have the same identity. -/
structure DecisionFunction where
  identity : Nat
  title : String
  decide : Situation → Decision

end Dilemma
