import Dilemma.Command.Tools.Host
import Dilemma.Command.Tools.Awk.Reader
import Dilemma.Command.Tools.Awk.Running

/-! # Running programs on lines

A tool that runs a program on the records of its input. -/

namespace Dilemma.Awk

/-! ## Arguments -/

structure Arguments where
  /-- Assignments that are made before the program begins, latest first. -/
  assignments : List (String × List Char)
  /-- The files that hold the program, latest first. -/
  files : List String
  /-- The most characters that a format can give that is not printed. -/
  formatLimit : Nat
  operands : List String
  deriving DecidableEq, Repr

/-- What comes of reading arguments, apart from a program to run. -/
inductive Refusal where
  | complaint (text : String)
  /-- The tool tells something about itself. -/
  | about
  deriving DecidableEq, Repr

namespace Arguments

/-- The words that can stand behind `-W`, or behind two hyphens. -/
def words : List String :=
  ["dump", "exec", "help", "interactive", "posix_space", "random", "sprintf", "usage", "version"]

/-- Those for which nothing else is done. -/
def aboutWords : List String := ["dump", "help", "usage", "version"]

/-- The word that a text begins, up to an equals sign. -/
def word? (text : List Char) : Option String :=
  words.find? fun word => (text.takeWhile (· ≠ '=')).isPrefixOf word.toList

/-- The separator of fields has to be one. -/
def withSeparator (value : List Char) (arguments : Arguments) : Except Refusal Arguments :=
  let text := unescaped value
  match Separator.ofText text with
  | .ok _ => .ok { arguments with assignments := ("FS", text) :: arguments.assignments }
  | .error error => .error (.complaint s!"line 0: {patternComplaint error text}")

/-- What an option does with its value. -/
def withValue (option : String) (letter : Char) (value : List Char) (arguments : Arguments) :
    Except Refusal Arguments :=
  match letter with
  | 'F' => arguments.withSeparator value
  | 'f' => .ok { arguments with files := String.ofList value :: arguments.files }
  | 'v' =>
      match assignment? value with
      | some assigned => .ok { arguments with assignments := assigned :: arguments.assignments }
      | none => .error (.complaint s!"improper assignment: -v {String.ofList value}")
  | _ => .error (.complaint s!"not an option: {option}")

/-- After an option there can be others, or only operands. -/
inductive Step where
  | onward (arguments : Arguments) (following : List String)
  | done (arguments : Arguments)

/-- The number behind an equals sign, if it is larger than what is usual. -/
def formatLimitOf (text : List Char) : Nat :=
  max Machine.usualFormatLimit
    ((Text.digits? ((text.dropWhile (· ≠ '=')).drop 1)).getD 0)

/-- A word can be the last option, with the file of the program behind it.
Unknown ones are nothing. -/
def withWord (text : List Char) (following : List String) (arguments : Arguments) :
    Except Refusal Step :=
  match word? text, following with
  | some "exec", file :: operands =>
      .ok (.done { arguments with files := file :: arguments.files, operands })
  | some "sprintf", following =>
      .ok (.onward { arguments with formatLimit := formatLimitOf text } following)
  | some word, following =>
      if word ∈ aboutWords then .error .about else .ok (.onward arguments following)
  | none, following => .ok (.onward arguments following)

/-- The first argument, and what follows it. A value can be the next one. -/
def readFirst (argument : String) (following : List String) (arguments : Arguments) :
    Except Refusal Step :=
  match argument.toList, following with
  | ['-', '-'], operands => .ok (.done { arguments with operands })
  | '-' :: '-' :: text, following =>
      if (word? text).isNone then .error (.complaint s!"not an option: {argument}")
      else arguments.withWord text following
  | ['-', letter], [] =>
      if letter ∈ ['W', 'F', 'v', 'f'] then
        .error (.complaint s!"option {argument} lacks argument")
      else .error (.complaint s!"not an option: {argument}")
  | ['-', 'W'], value :: following => arguments.withWord value.toList following
  | '-' :: 'W' :: value, following => arguments.withWord value following
  | ['-', letter], value :: following => do
      return .onward (← arguments.withValue argument letter value.toList) following
  | '-' :: letter :: value, following => do
      return .onward (← arguments.withValue argument letter value) following
  | _, following => .ok (.done { arguments with operands := argument :: following })

/-- Options come before the program. `fuel` bounds the number of arguments. -/
def read : (fuel : Nat) → Arguments → List String → Except Refusal Arguments
  | 0, arguments, operands => .ok { arguments with operands }
  | _, arguments, [] => .ok arguments
  | fuel + 1, arguments, argument :: following => do
      match ← arguments.readFirst argument following with
      | .onward arguments following => read fuel arguments following
      | .done arguments => return arguments

def of (texts : List String) : Except Refusal Arguments :=
  read texts.length ⟨[], [], Machine.usualFormatLimit, []⟩ texts

example : (of ["-F:", "-v", "a=b", "p", "-x"]).toOption =
    some ⟨[("a", "b".toList), ("FS", ":".toList)], [], 8192, ["p", "-x"]⟩ := by decide +kernel

end Arguments

/-! ## The tool -/

/-- The status of a program that cannot be run, or cannot go on. -/
def cannotRun : Nat := 2

/-- The text of a program, and the operands that are left for it. -/
def programText (readFile : Command.ReadFile) (given : String) (arguments : Arguments) :
    Except Refusal (String × List String) :=
  match arguments.files, arguments.operands with
  | [], [] | [], "-" :: _ => .error .about
  | [], text :: operands => .ok (text, operands)
  | files, operands => do
      let texts ← files.reverse.mapM fun file =>
        if file ∈ consoleNames then .ok given
        else match readFile file with
          | .ok text => .ok text
          | .error error => .error (.complaint (RunError.unreadable file error).message)
      return (String.join texts, operands)

/-- What a program says when it cannot go on. -/
def farewell (machine : Machine) (error : RunError) : String :=
  let valueOf (name : String) : String := String.ofList (machine.lookUp name).toText
  let file := valueOf "FILENAME"
  let inFile := valueOf "FNR"
  let inAll := valueOf "NR"
  if error.hasPlace then
    s!"{error.heading}{error.message}\n\tFILENAME=\"{file}\" FNR={inFile} NR={inAll}"
  else error.message

def textOf (written : List (List Char)) : String := String.ofList written.reverse.flatten

/-- Run a program, which complains in a name. -/
def execute (name : String) (script : Script) (machine : Machine) : Execution :=
  match (runProgram script).run machine with
  | (.error (.error .exhausted), _) => .endless
  | (.error (.error error), machine) =>
      ⟨cannotRun, "", textOf machine.errors ++ s!"{name}: {farewell machine error}\n",
        machine.spent⟩
  | (_, machine) =>
      let machine := machine.finished
      ⟨machine.status, textOf machine.output, textOf machine.errors, machine.spent⟩

/-- The tool complains in the name under which it has been started, without
the directories. -/
def program (name : String) (host : Host) : Tool := fun texts given =>
  let result : Except Refusal Execution := do
    let arguments ← Arguments.of texts
    let (text, operands) ← programText host.readFile given arguments
    match parse text with
    | .error complaints =>
        let file := arguments.files.head?
        return .ofFailure cannotRun
          (String.join (complaints.map fun complaint => s!"{name}: {complaint.text file}\n"))
    | .ok script =>
        let machine := arguments.assignments.reverse.foldl
          (fun machine (name, value) => machine.store name (.input value))
          (Machine.start name operands arguments.formatLimit host given.toList)
        return execute name script machine
  match result with
  | .ok execution => execution
  | .error .about => .ofOutput s!"Usage: {name} [options] [program] [file ...]\n"
  | .error (.complaint text) => .ofFailure cannotRun s!"{name}: {text}\n"

example : (program "awk" .bare ["\x7bsub(/a+/,\"[&]\");print\x7d"] "baac").output =
    "b[aa]c\n" := by decide +kernel

end Dilemma.Awk
