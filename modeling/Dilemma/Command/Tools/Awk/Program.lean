import Dilemma.Command.Tools.Pattern.Matcher
import Dilemma.Number.Binary64

/-! # Line programs

A program is a list of items: on certain occasions a statement is carried out.
Expressions have values and can change the state, so that the two kinds of
trees differ only in what they are for. -/

namespace Dilemma.Awk

inductive Arithmetic where
  | add
  | subtract
  | multiply
  | divide
  | remainder
  | power
  deriving DecidableEq, Repr

inductive Comparison where
  | less
  | atMost
  | equal
  | different
  | atLeast
  | greater
  deriving DecidableEq, Repr

/-- Functions of values. -/
inductive Function where
  | length
  | substring
  | index
  | lower
  | upper
  | whole
  | root
  | exponential
  | logarithm
  | sine
  | cosine
  | arcTangent
  | random
  | seed
  | format
  | close
  | flush
  | system
  | clock
  | moment
  | date
  deriving DecidableEq, Repr

mutual
inductive Expression where
  | number (value : Binary64)
  | text (value : List Char)
  /-- By itself, whether the line has a match. -/
  | pattern (matcher : Matcher)
  | named (name : String)
  | element (name : String) (keys : Expressions)
  | field (index : Expression)
  | assign (target : Expression) (operator : Option Arithmetic) (value : Expression)
  /-- Add one, or take one away, before or after the value is taken. -/
  | step (target : Expression) (up before : Bool)
  | choice (test yes no : Expression)
  | both (left right : Expression)
  | either (left right : Expression)
  | negation (inner : Expression)
  | sign (negative : Bool) (inner : Expression)
  | comparison (operator : Comparison) (left right : Expression)
  | matching (expected : Bool) (subject sought : Expression)
  | membership (keys : Expressions) (name : String)
  | joined (left right : Expression)
  | arithmetic (operator : Arithmetic) (left right : Expression)
  | call (function : Function) (arguments : Expressions)
  /-- A function that the program defines. -/
  | invoke (name : String) (arguments : Expressions)
  | grouping (items : Expressions)
  | replace (everywhere : Bool) (sought replacement target : Expression)
  | split (subject : Expression) (name : String) (separator : Expressions)
  | search (subject sought : Expression)
  | arrayLength (name : String)
  | readLine (target : Expressions)
  | readFile (name : Expression) (target : Expressions)
  | readOutput (command : Expression) (target : Expressions)

inductive Expressions where
  | nil
  | cons (head : Expression) (tail : Expressions)
end

namespace Expressions

def ofList : List Expression → Expressions
  | [] => .nil
  | head :: tail => .cons head (ofList tail)

end Expressions

/-- Something can be assigned to these. -/
def Expression.isTarget : Expression → Bool
  | .named _ | .element .. | .field _ => true
  | _ => false

/-- Where printed text goes. -/
inductive Destination where
  | output
  | file (name : Expression)
  | command (text : Expression)

inductive Statement where
  | nothing
  | sequence (first second : Statement)
  | evaluate (expression : Expression)
  | print (items : Expressions) (destination : Destination)
  /-- The first item is a format for the others. -/
  | printFormat (items : Expressions) (destination : Destination)
  | branch (test : Expression) (yes no : Statement)
  | loop (test : Expression) (body update : Statement)
  /-- The body goes first. -/
  | loopAfter (body : Statement) (test : Expression)
  | forEach (name array : String) (body : Statement)
  | leave
  | continue
  | next
  | nextFile
  | exit (status : Expressions)
  /-- The function that is being carried out has a value. -/
  | giveBack (value : Expressions)
  | delete (name : String) (keys : Expressions)

inductive Occasion where
  | first
  | last
  | every
  | when (test : Expression)
  | between (start finish : Expression)

structure Item where
  occasion : Occasion
  action : Statement

/-- A function that a program defines. Parameters for which there is no
argument are variables of the function. -/
structure Definition where
  name : String
  parameters : List String
  body : Statement

structure Script where
  items : List Item
  definitions : List Definition

end Dilemma.Awk
