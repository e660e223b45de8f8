import Dilemma.Command.Tools.Pattern.Matcher

/-! # Editing scripts

A script is a list of instructions that is gone through for every line. Each
instruction can be limited to some lines. Blocks and labels are instructions
too, so that a jump is a change of place in the list. -/

namespace Dilemma.Sed

/-! ## Lines -/

/-- A pattern, or `none` for the one that was used last. -/
abbrev Sought := Option Matcher

inductive Address where
  | line (number : Nat)
  /-- Every so many lines, from a first one on. -/
  | every (first step : Nat)
  | last
  | found (sought : Sought)
  deriving DecidableEq, Repr

/-- Where a range of lines ends. -/
inductive Limit where
  | address (address : Address)
  /-- So many lines later. -/
  | after (count : Nat)
  /-- At the next multiple. -/
  | multiple (step : Nat)
  deriving DecidableEq, Repr

/-- The lines that an instruction is for: all of them if there is no first
one, and the others if it is negated. -/
structure Selection where
  first : Option Address
  limit : Option Limit
  negated : Bool
  deriving DecidableEq, Repr

/-! ## Substitution -/

/-- What happens to the case of the text that follows. -/
inductive CaseChange where
  | upper
  | lower
  | upperNext
  | lowerNext
  | stop
  deriving DecidableEq, Repr

/-- Part of what is put in place of a match. -/
inductive Part where
  | char (value : Char)
  /-- Group 0 is the whole match. -/
  | group (number : Nat)
  | case (change : CaseChange)
  deriving DecidableEq, Repr

structure Substitution where
  sought : Sought
  parts : List Part
  /-- The first match that is replaced, counted from one. -/
  first : Nat
  /-- All matches after it are replaced too. -/
  everywhere : Bool
  /-- The result is a command to be started. -/
  starts : Bool
  /-- The result is printed, before the command is started unless this is
  true. -/
  prints : Option Bool
  /-- The file to which the result goes. -/
  target : Option String
  deriving DecidableEq, Repr

/-! ## Commands -/

inductive Command where
  | openBlock
  | closeBlock
  | label (name : String)
  | jump (name : String)
  | jumpIfChanged (name : String)
  | jumpUnlessChanged (name : String)
  | substitute (substitution : Substitution)
  | exchangeChars (pairs : List (Char × Char))
  | append (text : List Char)
  | insert (text : List Char)
  | change (text : List Char)
  | print
  | printFirst
  | printNumber
  | printSource
  /-- With all characters visible, in lines of this width. -/
  | printVisibly (width : Option Nat)
  | delete
  | deleteFirst
  | clear
  | next
  | appendNext
  | hold
  | appendToHold
  | get
  | appendHeld
  | exchange
  | quit (status : Nat) (prints : Bool)
  | readFile (path : String)
  /-- In front of the line. -/
  | insertFile (path : String)
  /-- Every time the next line of the file. -/
  | readLine (path : String)
  | writeFile (path : String)
  | writeFirst (path : String)
  /-- Start a command, which is the line itself if none is given. -/
  | start (line : List Char)
  | nothing
  deriving DecidableEq, Repr

structure Instruction where
  selection : Selection
  command : Command
  deriving DecidableEq, Repr

abbrev Script := List Instruction

namespace Script

/-- The place behind the end of the block that has been entered, `depth`
blocks being open inside of it. -/
def afterBlock (depth : Nat) : (place : Nat) → Script → Nat
  | place, [] => place
  | place, instruction :: rest =>
      match instruction.command, depth with
      | .openBlock, depth => afterBlock (depth + 1) (place + 1) rest
      | .closeBlock, 0 => place + 1
      | .closeBlock, depth + 1 => afterBlock depth (place + 1) rest
      | _, depth => afterBlock depth (place + 1) rest

/-- The place of a label. -/
def labelled? (script : Script) (name : String) : Option Nat :=
  script.findIdx? fun instruction => instruction.command = .label name

/-- The label that an instruction jumps to. -/
def target? (instruction : Instruction) : Option String :=
  match instruction.command with
  | .jump name | .jumpIfChanged name | .jumpUnlessChanged name => some name
  | _ => none

/-- The last label that is jumped to and does not exist. A jump without a label
goes to the end. -/
def missingLabel? (script : Script) : Option String :=
  (script.filterMap target?).reverse.find? fun name =>
    !name.isEmpty && (script.labelled? name).isNone

end Script

end Dilemma.Sed
