import Dilemma.Command.Tools.Pattern.Reader

/-! # Reading lenient patterns

The lenient dialect is read by the precedence of its operators. Operands and
operators wait on two stacks, and an operator takes its operands as soon as
another comes that does not bind tighter. Where an operand is missing the
operator takes one from farther away, so that there is nothing wrong as long as
there are enough of them. -/

namespace Dilemma.Pattern.Lenient

/-- Operators that wait, of which a join binds tighter than a choice. -/
inductive Operator where
  | choice
  | join
  | opening
  deriving DecidableEq, Repr

/-- What has been read last. -/
inductive Last where
  /-- Here an operand begins something. -/
  | beginning
  | startEdge
  /-- With an operand that follows, it is joined. -/
  | operand
  deriving DecidableEq, Repr

/-- The stacks, with what has been laid on them last in front. -/
structure Stacks where
  operands : List Pattern
  operators : List Operator
  last : Last

namespace Stacks

def empty : Stacks := ⟨[], [], .beginning⟩

/-- Take the last operator away, with what it does to the operands. A join that
lacks an operand is nothing. -/
def apply (held : Stacks) (operator : Operator) (operators : List Operator) :
    Except PatternError Stacks :=
  match operator, held.operands with
  | .choice, second :: first :: rest =>
      .ok { held with operators, operands := either first second :: rest }
  | .join, second :: first :: rest =>
      .ok { held with operators, operands := sequence first second :: rest }
  | .choice, _ => .error .missingOperand
  | _, _ => .ok { held with operators }

/-- Apply all operators that satisfy a condition, up to one that does not.
`fuel` bounds their number. -/
def reduce (binds : Operator → Bool) : (fuel : Nat) → Stacks → Except PatternError Stacks
  | 0, held => .ok held
  | fuel + 1, held =>
      match held.operators with
      | operator :: operators =>
          if binds operator then do reduce binds fuel (← held.apply operator operators)
          else .ok held
      | [] => .ok held

def reduceJoins (held : Stacks) : Except PatternError Stacks :=
  reduce (· = .join) held.operators.length held

/-- Only openings are left in front. -/
def reduceAll (held : Stacks) : Except PatternError Stacks :=
  reduce (· ≠ .opening) held.operators.length held

/-- An operand is joined to one that stands in front of it. -/
def joined (held : Stacks) : Except PatternError Stacks := do
  if held.last = .beginning then return held
  let held ← held.reduceJoins
  return { held with operators := .join :: held.operators }

def push (operand : Pattern) (last : Last) (held : Stacks) : Except PatternError Stacks := do
  let held ← held.joined
  return { held with operands := operand :: held.operands, last }

def choose (held : Stacks) : Except PatternError Stacks := do
  let held ← held.reduceAll
  return { held with operators := .choice :: held.operators, last := .beginning }

/-- An operator behind an operand is applied at once. Zero and one are its
possible least counts. -/
def repeatLast (least : Nat) (most : Option Nat) (held : Stacks) : Except PatternError Stacks :=
  if most.isNone ∧ held.last = .startEdge then .error .repeatedEdge
  else match held.operands with
    | operand :: rest =>
        .ok { held with operands := .repeated operand least most :: rest, last := .operand }
    | [] => .error .missingOperand

def openGroup (held : Stacks) : Except PatternError Stacks := do
  let held ← held.joined
  return { held with operators := .opening :: held.operators, last := .beginning }

def closeGroup (held : Stacks) : Except PatternError Stacks := do
  let held ← held.reduceAll
  if held.operands.isEmpty then throw .missingOperand
  return { held with operators := held.operators.drop 1, last := .operand }

/-- A closing mark that nothing has opened is ordinary. -/
def isOpen (held : Stacks) : Bool := held.operators.contains .opening

def finish (held : Stacks) : Except PatternError Pattern := do
  let held ← held.reduceAll
  match held.operators, held.operands with
  | [], operand :: _ => return operand
  | [], [] => throw .missingOperand
  | _, _ => throw .unmatchedOpening

end Stacks

/-- Lay a token on the stacks, and what belongs to it. -/
def readToken (token : Token) (rest : List Char) (held : Stacks) :
    Except PatternError (Stacks × List Char) := do
  let pushChar (char : Char) : Except PatternError Stacks :=
    held.push (one (.literal char)) .operand
  match token with
  | .char char => return (← pushChar char, rest)
  | .oneOf accepted => return (← held.push (one accepted) .operand, rest)
  | .edge edge =>
      let last := if edge = .textStart then Last.startEdge else .operand
      return (← held.push (border edge) last, rest)
  | .bracket =>
      let held ← held.joined
      let (accepted, rest) ← readBracket .lenient rest
      return (← { held with last := .beginning }.push (one accepted) .operand, rest)
  | .opening => return (← held.openGroup, rest)
  | .closing => return (← if held.isOpen then held.closeGroup else pushChar ')', rest)
  | .bar => return (← held.choose, rest)
  | .star => return (← held.repeatLast 0 none, rest)
  | .plus => return (← held.repeatLast 1 none, rest)
  | .optional => return (← held.repeatLast 0 (some 1), rest)
  | .backslash => return (← pushChar '\\', rest)
  | .wordEdge _ | .reference _ | .interval => return (held, rest)

/-- Read the tokens of a text. `fuel` bounds their number. -/
def readAll : (fuel : Nat) → Stacks → List Char → Except PatternError Pattern
  | 0, held, _ => held.finish
  | fuel + 1, held, text =>
      match nextToken .lenient true text with
      | none => held.finish
      | some (token, rest) => do
          let (held, rest) ← readToken token rest held
          readAll fuel held rest

/-- Nothing is a pattern too. -/
def parse (text : List Char) : Except PatternError Pattern :=
  if text.isEmpty then .ok nothing else readAll text.length .empty text

end Dilemma.Pattern.Lenient

namespace Dilemma

def Matcher.parseLenient (text : List Char) : Except PatternError Matcher :=
  (Pattern.Lenient.parse text).map fun pattern => .ofPattern pattern false

end Dilemma
