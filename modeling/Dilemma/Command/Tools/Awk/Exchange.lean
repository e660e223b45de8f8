import Dilemma.Command.Tools.Awk.Machine

/-! # Input and output

A program takes records from its input, of which operands name the parts, and
from files and commands; and it writes for others as well as for itself. -/

namespace Dilemma.Awk

/-! ## Evaluation -/

/-- Why a program does not go on. -/
inductive Interruption where
  | error (error : RunError)
  | exit
  deriving DecidableEq, Repr

/-- Steps that change the machine until something ends them. -/
abbrev Evaluation := ExceptT Interruption (StateM Machine)

def fault {α : Type} (error : RunError) : Evaluation α := throw (.error error)

/-- Begin a round of a loop, or read a record. -/
def beginRound : Evaluation Unit := do
  match (← get).rounds with
  | 0 => fault .exhausted
  | rounds + 1 => modify ({ · with rounds })

/-- A longer text than a program makes that ends at all. -/
def lengthLimit : Nat := 4000000

def withinLength (text : List Char) : Evaluation (List Char) := do
  if lengthLimit < text.length then fault .exhausted
  return text

/-- More elements of an array than a program makes that ends at all. -/
def elementLimit : Nat := 20000

/-- More fields of a record than a program makes that ends at all. -/
def fieldLimit : Nat := 1000000

/-- What a variable for a format is tried with. -/
def trialNumber : Value := .number (.of (.ofDecimal false 31459 (-4)))

/-- The most characters of a number that is printed by such a variable. -/
def trialLimit : Nat := 255

/-- What the text of a value stands for as a pattern or the like. -/
def readAs {α : Type} (read : List Char → Except PatternError α) (source : List Char) :
    Evaluation α :=
  match read source with
  | .ok result => return result
  | .error error => fault (.badPattern source error)

/-- What separates fields now. -/
def separator : Evaluation Separator := do
  readAs Separator.ofText ((← get).lookUp "FS").toText

def setLine (line : List Char) : Evaluation Unit := do
  let separator ← separator
  modify fun machine => { machine with line, fields := (separator.split line).map .input }

/-- Give a place a value. -/
def assignTo (place : Place) (value : Value) : Evaluation Value := do
  match place with
  | .field 0 => setLine ((← get).textOf value)
  | .named "NF" =>
      if value.toInt < 0 ∨ value.toNumber.value = .infinite false then fault .negativeCount
      if fieldLimit < value.toInt then fault .exhausted
      modify (·.put place value)
  | .field index =>
      if fieldLimit < index then fault .exhausted
      modify (·.put (.field index) value)
  | .element name key =>
      if elementLimit < ((← get).array name).size then fault .exhausted
      modify (·.put (.element name key) value)
  | .named name =>
      if name ∈ ["CONVFMT", "OFMT"] then
        let written := (format value.toText [trialNumber]).toOption.getD []
        if trialLimit < written.length then fault (.unusable name)
      modify (·.put place value)
  | .nowhere => pure ()
  return value

/-! ## Input -/

/-- The standard input can be read once. -/
def takeConsole : Evaluation (List Char) := do
  let text := (← get).console
  modify ({ · with console := [] })
  return text

/-- The names under which the standard input is read. -/
def consoleNames : List String := ["-", "/dev/stdin"]

/-- The contents of a file, or nothing if it does not exist. -/
def contents? (file : String) : Evaluation (Option (List Char)) := do
  if file ∈ consoleNames then return some (← takeConsole)
  else match (← get).host.readFile file with
    | .ok text => return some text.toList
    | .error .isDirectory => fault (.unreadable file .isDirectory)
    | .error .notText => return some []
    | .error _ => return none

/-- Begin to read a part of the input. -/
def openSource (file : String) (text : List Char) : Evaluation Unit :=
  modify fun machine =>
    { (machine.store "FILENAME" (.text file.toList)).store "FNR" (.ofNat 0) with
      source := some text
      isNamed := true }

/-- If no operand names a part of the input, all of it is on the console. -/
def openConsole : Evaluation Bool := do
  if (← get).isNamed then return false
  else
    openSource "-" (← takeConsole)
    return true

/-- Go through the operands up to one that names a part of the input.
Assignments are made on the way. `fuel` bounds the number of operands. -/
def openNext : (fuel : Nat) → Evaluation Bool
  | 0 => openConsole
  | fuel + 1 => do
      let machine ← get
      let index := machine.operand
      if (machine.lookUp "ARGC").toInt ≤ index then openConsole
      else
        set { machine with operand := index + 1 }
        let operand := (machine.fetch (.element "ARGV" (Text.natural index))).toText
        if operand.isEmpty then openNext fuel
        else match assignment? operand with
          | some (name, value) =>
              let _ ← assignTo (.named name) (.input value)
              openNext fuel
          | none =>
              let file := String.ofList operand
              match ← contents? file with
              | some text =>
                  openSource file text
                  return true
              | none =>
                  match machine.host.readFile file with
                  | .error error => fault (.unreadable file error)
                  | .ok _ => return false

/-- What ends a record now. -/
def recordEnd : Evaluation RecordEnd := do
  readAs RecordEnd.ofText ((← get).lookUp "RS").toText

/-- The next record of the input. `fuel` bounds the number of its parts. -/
def nextRecord : (fuel : Nat) → Evaluation (Option (List Char))
  | 0 => return none
  | fuel + 1 => do
      match (← get).source with
      | some text =>
          match (← recordEnd).take? text with
          | some (record, rest) =>
              modify ({ · with source := some rest })
              return some record
          | none =>
              modify ({ · with source := none })
              nextRecord fuel
      | none =>
          if ← openNext (((← get).lookUp "ARGC").toInt.toNat + 1) then nextRecord fuel
          else return none

/-- The next record with its numbers. -/
def countedRecord : Evaluation (Option (List Char)) := do
  let parts := 2 * ((← get).lookUp "ARGC").toInt.toNat + 4
  let record ← nextRecord parts
  if record.isSome then modify fun machine => (machine.increase "NR").increase "FNR"
  return record

/-- What a partner has to say, if it exists. -/
def hear : Partner → Evaluation (Option (List Char))
  | .file name => contents? name
  | .command line => do
      let machine ← get
      let execution := machine.host.start line (String.ofList machine.console)
      set (machine.flush.takeIn { execution with output := "" })
      return some execution.output.toList

/-- The next record from a partner; the status is -1 if it does not exist, and
0 at the end. -/
def recordFrom (partner : Partner) : Evaluation (Except Int (List Char)) := do
  let text ← match (← get).readers.find? (·.1 = partner) with
    | some (_, rest) => pure (some rest)
    | none => hear partner
  match text with
  | none => return .error (-1)
  | some text =>
      let (result, rest) : Except Int (List Char) × List Char :=
        match (← recordEnd).take? text with
        | some (record, rest) => (Except.ok record, rest)
        | none => (.error 0, [])
      modify fun machine =>
        { machine with
          readers := (partner, rest) :: machine.readers.filter (·.1 ≠ partner) }
      return result

/-! ## Output to partners -/

/-- Files and commands are opened when they are first written to. -/
def write (partner : Option Partner) (text : List Char) : Evaluation Unit := do
  match partner with
  | none | some (.file "/dev/stdout") =>
      modify fun machine => { machine with pending := text :: machine.pending }
  | some (.file "/dev/stderr") =>
      modify fun machine => { machine with errors := text :: machine.errors }
  | some (.file name) =>
      match Command.writeFault? (← get).host.readFile name with
      | some error => fault (.unwritable name error)
      | none => modify (·.feed (.file name) text)
  | some (.command line) =>
      let isOpen := (← get).writers.any (·.1 = .command line)
      if ¬ isOpen then modify Machine.flush
      modify (·.feed (.command line) text)

end Dilemma.Awk
