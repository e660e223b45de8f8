import Dilemma.Command.Tools.Awk.Draws
import Dilemma.Command.Tools.Awk.Format
import Dilemma.Command.Tools.Awk.Moment
import Dilemma.Command.Tools.Awk.Record
import Dilemma.Command.Tools.Awk.Separator
import Dilemma.Command.Tools.Awk.Table
import Dilemma.Command.Tools.Host

/-! # The state of a line program

A record is kept as a whole and in fields, and a change of either is a change
of both. All other state is in variables and arrays, in the texts that are
being read, and in what has been written. -/

namespace Dilemma.Awk

/-! ## Assignments -/

/-- A name, an equals sign and a value. -/
def assignment? (text : List Char) : Option (String × List Char) :=
  let name := text.takeWhile isWordChar
  match text.dropWhile isWordChar with
  | '=' :: value =>
      if name.head?.any isWordStart then some (String.ofList name, unescaped value) else none
  | _ => none

example : assignment? "x=1=\\t".toList = some ("x", "1=\t".toList) := by decide +kernel

/-! ## Errors -/

/-- Why a program cannot go on. -/
inductive RunError where
  | badFormat (called : String) (text : List Char) (error : FormatError)
  | negativeField (index : List Char)
  | negativeCount
  | badPattern (source : List Char) (error : PatternError)
  | formatTooLong (limit : Nat)
  /-- A variable for a format cannot hold one that is too long. -/
  | unusable (name : String)
  | unreadable (file : String) (error : Command.FileError)
  | unwritable (file : String) (error : Command.FileError)
  /-- There is no end to what is done. -/
  | exhausted
  deriving DecidableEq, Repr

namespace RunError

/-- Errors with files are told without the place in the input. -/
def hasPlace : RunError → Bool
  | unreadable .. | unwritable .. | exhausted => false
  | _ => true

/-- What the message begins with. -/
def heading : RunError → String
  | unreadable .. | unwritable .. | exhausted => ""
  | formatTooLong _ => "program limit exceeded: "
  | _ => "run time error: "

def message : RunError → String
  | badFormat called text .tooFewValues =>
      s!"not enough arguments passed to {called}(\"{String.ofList text}\")"
  | badFormat called text (.improper field) =>
      s!"improper conversion(number {field}) in {called}(\"{String.ofList text}\")"
  | negativeField index => s!"negative field index ${String.ofList index}"
  | negativeCount => "negative value assigned to NF"
  | badPattern source error => patternComplaint error source
  | formatTooLong limit => s!"sprintf buffer size={limit}"
  | unusable name => s!"{name} assigned unusable value"
  | unreadable _ .isDirectory => s!"read error ({Command.FileError.isDirectory.reason.1})"
  | unreadable file error => s!"cannot open \"{file}\" ({error.reason.1})"
  | unwritable file error => s!"cannot open \"{file}\" for output ({error.reason.1})"
  | exhausted => "out of memory"

end RunError

/-! ## The machine -/

/-- Something that has a value and can be given another. -/
inductive Place where
  | named (name : String)
  | element (name : String) (key : List Char)
  | field (index : Nat)
  | nowhere

/-- What a program reads, apart from its input, or feeds with its output. -/
inductive Partner where
  | file (name : String)
  | command (line : String)
  deriving DecidableEq, Repr

/-- A parameter of a function that is being carried out. It stands for a value
and for an array, of which the function uses one. -/
structure Local where
  name : String
  value : Value
  array : String

/-- What a function is given for a parameter. -/
structure Argument where
  value : Value
  /-- The array of this name is handed over as such. -/
  array : Option String

structure Machine where
  line : List Char
  fields : List Value
  values : List (String × Value)
  arrays : List (String × Table)
  /-- The parameters of functions that are being carried out, innermost first. -/
  frames : List (List Local)
  host : Host
  /-- What is left of the standard input. -/
  console : List Char
  /-- What is left of the part of the input that is being read. -/
  source : Option (List Char)
  /-- The next operand that can name a part of the input. -/
  operand : Nat
  /-- An operand has named a part. -/
  isNamed : Bool
  /-- What is left of other texts that are being read. -/
  readers : List (Partner × List Char)
  /-- What has been written for others, latest first. -/
  writers : List (Partner × List (List Char))
  /-- What has been written, latest first: what is out, and what is not yet. -/
  output : List (List Char)
  pending : List (List Char)
  errors : List (List Char)
  /-- The items in whose ranges the record lies. -/
  ranges : List Nat
  seed : Value
  draws : Draws
  /-- The most characters that a format can give that is not printed. -/
  formatLimit : Nat
  /-- So many rounds of loops are left. -/
  rounds : Nat
  status : Nat
  spent : Duration

namespace Machine

/-! ## Variables -/

/-- The variables that have a value from the beginning. -/
def initialValues : List (String × Value) :=
  [("FS", .text [' ']), ("OFS", .text [' ']), ("ORS", .text ['\n']), ("RS", .text ['\n']),
   ("SUBSEP", .text ['\x1c']), ("NR", .ofNat 0), ("FNR", .ofNat 0), ("FILENAME", .text []),
   ("OFMT", .text "%.6g".toList), ("CONVFMT", .text "%.6g".toList)]

/-- More rounds of loops than a program needs that ends at all. -/
def roundLimit : Nat := 1000000

/-- What the limit of formats is if nothing else is asked for. -/
def usualFormatLimit : Nat := 8192

/-- The name of the tool and its operands are elements of an array, the
settings of the host are those of another. -/
def start (name : String) (operands : List String) (formatLimit : Nat) (host : Host)
    (console : List Char) : Machine where
  line := []
  fields := []
  values := ("ARGC", .ofNat (operands.length + 1)) :: initialValues
  arrays :=
    [("ARGV", .ofElements ((name :: operands).mapIdx fun index operand =>
      (Text.natural index, .input operand.toList))),
     ("ENVIRON", .ofElements (host.settings.map fun (name, value) =>
      (name.toList, .input value.toList)))]
  frames := []
  host
  console
  source := none
  operand := 1
  isNamed := false
  readers := []
  writers := []
  output := []
  pending := []
  errors := []
  ranges := []
  seed := .ofInt Moment.now
  draws := .ofSeed Moment.now
  formatLimit
  rounds := roundLimit
  status := 0
  spent := ⟨0⟩

def lookUp (machine : Machine) (name : String) : Value :=
  ((machine.values.find? (·.1 = name)).map (·.2)).getD .unset

def store (machine : Machine) (name : String) (value : Value) : Machine :=
  { machine with values := (name, value) :: machine.values.filter (·.1 ≠ name) }

/-- The parameter that has a name. -/
def local? (machine : Machine) (name : String) : Option Local :=
  (machine.frames.headD []).find? (·.name = name)

def setLocal (machine : Machine) (name : String) (value : Value) : Machine :=
  match machine.frames with
  | [] => machine
  | frame :: frames =>
      { machine with
        frames := frame.map (fun entry =>
          if entry.name = name then { entry with value } else entry) :: frames }

/-- The array for which a name stands. -/
def arrayName (machine : Machine) (name : String) : String :=
  ((machine.local? name).map (·.array)).getD name

def array? (machine : Machine) (name : String) : Option Table :=
  let name := machine.arrayName name
  (machine.arrays.find? (·.1 = name)).map (·.2)

def array (machine : Machine) (name : String) : Table := (machine.array? name).getD .empty

def setArray (machine : Machine) (name : String) (table : Table) : Machine :=
  let name := machine.arrayName name
  { machine with arrays := (name, table) :: machine.arrays.filter (·.1 ≠ name) }

/-- The text of a value. A number that is not whole is written in the format
that a variable holds. -/
def textIn (machine : Machine) (format : String) (value : Value) : List Char :=
  match value with
  | .number number =>
      match number.wholeText?, machine.lookUp format with
      | none, .input layout | none, .text layout =>
          match Awk.format layout [value] with
          | .ok text => text
          | .error _ => value.toText
      | _, _ => value.toText
  | value => value.toText

def textOf (machine : Machine) (value : Value) : List Char := machine.textIn "CONVFMT" value

/-! ## Records and fields -/

def joinedWith (separator : List Char) : List (List Char) → List Char
  | [] => []
  | [part] => part
  | part :: next :: rest => part ++ separator ++ joinedWith separator (next :: rest)

def setFields (machine : Machine) (fields : List Value) : Machine :=
  let line := joinedWith (machine.lookUp "OFS").toText (fields.map machine.textOf)
  { machine with fields, line }

/-- Missing fields are empty. -/
def emptyField : Value := .input []

def widened (fields : List Value) (count : Nat) : List Value :=
  fields ++ List.replicate (count - fields.length) emptyField

def fetch (machine : Machine) : Place → Value
  | .named "NF" => .ofNat machine.fields.length
  | .named name => ((machine.local? name).map (·.value)).getD (machine.lookUp name)
  | .element name key => ((machine.array name).get? key).getD .unset
  | .field 0 => .input machine.line
  | .field (index + 1) => (machine.fields[index]?).getD emptyField
  | .nowhere => .unset

/-- Change a place that is not the whole record. -/
def put (machine : Machine) (place : Place) (value : Value) : Machine :=
  match place with
  | .named "NF" =>
      let count := value.toInt.toNat
      machine.setFields ((widened machine.fields count).take count)
  | .named name =>
      if (machine.local? name).isSome then machine.setLocal name value
      else machine.store name value
  | .element name key => machine.setArray name ((machine.array name).insert key value)
  | .field 0 | .nowhere => machine
  | .field (index + 1) =>
      machine.setFields ((widened machine.fields (index + 1)).set index value)

/-- A place that is looked at exists from then on. -/
def touch (machine : Machine) (place : Place) : Machine :=
  match place with
  | .element name key => machine.setArray name ((machine.array name).touch key)
  | _ => machine

def increase (machine : Machine) (name : String) : Machine :=
  machine.store name (.compute .add (machine.lookUp name) (.ofNat 1))

/-! ## Output -/

/-- All that has been written is out. -/
def flush (machine : Machine) : Machine :=
  { machine with output := machine.pending ++ machine.output, pending := [] }

/-- What a command has written comes out at once. -/
def takeIn (machine : Machine) (execution : Execution) : Machine :=
  { machine with
    output := execution.output.toList :: machine.output
    errors := execution.complaint.toList :: machine.errors
    spent := ⟨machine.spent.nanoseconds + execution.duration.nanoseconds⟩ }

/-- Add to what has been written for a partner. -/
def feed (machine : Machine) (partner : Partner) (text : List Char) : Machine :=
  let fed := ((machine.writers.find? (·.1 = partner)).map (·.2)).getD []
  { machine with
    writers := machine.writers.filter (·.1 ≠ partner) ++ [(partner, text :: fed)] }

/-- A command does its work when it has been fed. -/
def finish (machine : Machine) (partner : Partner) : Machine × Option Nat :=
  match machine.writers.find? (·.1 = partner) with
  | none => (machine, none)
  | some (_, fed) =>
      let machine := { machine with writers := machine.writers.filter (·.1 ≠ partner) }
      match partner with
      | .file _ => (machine, some 0)
      | .command line =>
          let execution := machine.host.start line (String.ofList fed.reverse.flatten)
          (machine.takeIn execution, some execution.status)

/-- In the end all commands do their work before the rest is out. -/
def finished (machine : Machine) : Machine :=
  (machine.writers.foldl (fun machine (partner, _) => (machine.finish partner).1) machine).flush

/-- End the exchange with a partner; the status is -1 if there was none. -/
def close (machine : Machine) (name : String) : Machine × Int :=
  match machine.readers.find? fun (partner, _) =>
      partner = .file name ∨ partner = .command name with
  | some (partner, _) =>
      let status := match partner with
        | .file _ => 0
        | .command line => (machine.host.start line (String.ofList machine.console)).status
      ({ machine with readers := machine.readers.filter (·.1 ≠ partner) }, status)
  | none =>
      match machine.finish (.command name), machine.finish (.file name) with
      | (machine, some status), _ | _, (machine, some status) => (machine, status)
      | _, _ => (machine, -1)

/-! ## Functions -/

/-- The array of a parameter that has not been given one. No name of a program
has a colon in it. -/
def ownArray (depth : Nat) (parameter : String) : String :=
  s!"{ depth}:{parameter}"

/-- The parameters of a function with what they are given. -/
def parametersWith (depth : Nat) : List String → List Argument → List Local
  | [], _ => []
  | parameter :: parameters, [] =>
      ⟨parameter, .unset, ownArray depth parameter⟩ :: parametersWith depth parameters []
  | parameter :: parameters, argument :: arguments =>
      ⟨parameter, argument.value, argument.array.getD (ownArray depth parameter)⟩ ::
        parametersWith depth parameters arguments

/-- Begin with a function. -/
def enter (machine : Machine) (parameters : List String) (arguments : List Argument) : Machine :=
  let depth := machine.frames.length
  { machine with frames := parametersWith depth parameters arguments :: machine.frames }

/-- After a function its own arrays are gone. -/
def depart (machine : Machine) : Machine :=
  let frames := machine.frames.drop 1
  let depth := frames.length
  let own := (machine.frames.headD []).map fun entry => ownArray depth entry.name
  { machine with frames, arrays := machine.arrays.filter fun (name, _) => name ∉ own }

end Machine

end Dilemma.Awk
