import Dilemma.Text.Blank

/-! # Setup

A tournament is refused before anything is interpreted or played if it asks
for too many rounds or if a name is blank or comes twice. -/

namespace Dilemma

inductive SetupError where
  | duplicateName (name : String)
  | blankName
  | negativeRounds (value : Int)
  | tooManyRounds (requested limit : Nat)
  deriving DecidableEq, Repr

def SetupError.message : SetupError → String
  | duplicateName name => s!"duplicate strategy name `{name}`"
  | blankName => "strategy name must not be blank"
  | negativeRounds value => s!"rounds per match must be non-negative (got {value})"
  | tooManyRounds requested limit =>
      s!"rounds per match {requested} exceeds the limit of {limit}"

namespace Setup

/-- A round count from outside. -/
def checkRounds (value : Int) (limit : UInt32) : Except SetupError UInt32 :=
  if value < 0 then .error (.negativeRounds value)
  else if limit.toNat < value.toNat then .error (.tooManyRounds value.toNat limit.toNat)
  else .ok (UInt32.ofNat value.toNat)

def isBlankName (name : String) : Bool := name.toList.all Text.isBlank

/-- The first name that is blank or has been seen decides. -/
def checkNames (seen : List String) : List String → Except SetupError Unit
  | [] => .ok ()
  | name :: rest =>
      if isBlankName name then .error .blankName
      else if name ∈ seen then .error (.duplicateName name)
      else checkNames (name :: seen) rest

def check (limit rounds : UInt32) (names : List String) : Except SetupError Unit :=
  if limit < rounds then .error (.tooManyRounds rounds.toNat limit.toNat)
  else checkNames [] names

end Setup

end Dilemma
