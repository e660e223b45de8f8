import Dilemma.Command.Tools.Sed.Editing
import Dilemma.Command.Tools.Sed.Reader

/-! # Editing lines

A tool that applies a script to every line of its input. -/

namespace Dilemma.Sed

/-- The statuses of a script that is wrong, of a file that cannot be read, and
of giving up. -/
def badScript : Nat := 1
def badInput : Nat := 2
def gaveUp : Nat := 4

/-! ## Arguments -/

/-- Where a part of the script comes from. -/
inductive Source where
  | argument (text : String)
  | file (path : String)
  deriving DecidableEq, Repr

structure Arguments where
  quiet : Bool
  extended : Bool
  /-- A character that does not occur in texts ends lines. -/
  whole : Bool
  inPlace : Bool
  /-- Every file is edited by itself. -/
  separate : Bool
  /-- Only what every such tool knows has a meaning. -/
  strict : Bool
  /-- Commands that reach beyond the lines are refused. -/
  guarded : Bool
  /-- What happens is written too. -/
  explains : Bool
  /-- The width of lines in which all characters are visible. -/
  width : Nat
  sources : List Source
  operands : List String
  deriving DecidableEq, Repr

/-- Why nothing is edited. -/
inductive Halt where
  /-- Only information is asked for. -/
  | information
  | misuse (message : String)
  deriving DecidableEq, Repr

namespace Arguments

def none : Arguments := ⟨false, false, false, false, false, false, false, false, 70, [], []⟩

def usage : String :=
  "Usage: sed [OPTION]... \x7bscript-only-if-no-other-script\x7d [input-file]...\n"

def addSource (arguments : Arguments) (source : Source) : Arguments :=
  { arguments with sources := arguments.sources ++ [source] }

def addOperand (arguments : Arguments) (operand : String) : Arguments :=
  { arguments with operands := arguments.operands ++ [operand] }

/-- The number at the beginning of a text. A line of no width goes on without
an end, like one whose width is no number. -/
def widthOf (text : List Char) : Nat :=
  let text := text.dropWhile fun char => char = ' ' || char = '\t'
  let text := if text.head? = some '+' then text.drop 1 else text
  (Text.digits? (text.takeWhile fun char => (Text.digitValue? char).isSome)).getD 0

/-- What a letter does that needs a value. -/
def withValue? (letter : Char) (value : String) (arguments : Arguments) : Option Arguments :=
  match letter with
  | 'e' => some (arguments.addSource (.argument value))
  | 'f' => some (arguments.addSource (.file value))
  | 'l' => some { arguments with width := widthOf value.toList }
  | _ => Option.none

/-- What a letter does that needs no value. -/
def withFlag? (letter : Char) (arguments : Arguments) : Option Arguments :=
  match letter with
  | 'n' => some { arguments with quiet := true }
  | 'E' | 'r' => some { arguments with extended := true }
  | 'z' => some { arguments with whole := true }
  | 's' => some { arguments with separate := true }
  | 'd' => some { arguments with explains := true }
  | 'p' => some { arguments with strict := true }
  | 'g' => some { arguments with guarded := true }
  | 'u' | 'b' => some arguments
  | _ => Option.none

/-- These letters are flags in long options only. -/
def isHidden (letter : Char) : Bool := ['d', 'p', 'g'].contains letter

/-- A value is what stands behind the letter, or else the next argument. -/
def readLetters (arguments : Arguments) (following : List String) :
    List Char → Except Halt (Arguments × List String)
  | [] => .ok (arguments, following)
  | letter :: letters =>
      match arguments.withFlag? letter, isHidden letter with
      | some arguments, false => readLetters arguments following letters
      | _, _ =>
          if letter = 'i' then .ok ({ arguments with inPlace := true }, following)
          else if (arguments.withValue? letter "").isNone then
            .error (.misuse s!"invalid option -- '{letter}'\n{usage}")
          else match letters, following with
            | [], [] => .error (.misuse s!"option requires an argument -- '{letter}'\n{usage}")
            | [], value :: following =>
                .ok ((arguments.withValue? letter value).getD arguments, following)
            | value, following =>
                .ok ((arguments.withValue? letter (String.ofList value)).getD arguments, following)

/-! ### Long options -/

/-- The options with the letters that they stand for. -/
def longOptions : List (String × Char) :=
  [("binary", 'b'), ("regexp-extended", 'E'), ("in-place", 'i'), ("expression", 'e'),
    ("file", 'f'), ("line-length", 'l'), ("null-data", 'z'), ("zero-terminated", 'z'),
    ("quiet", 'n'), ("posix", 'p'), ("silent", 'n'), ("sandbox", 'g'), ("separate", 's'),
    ("unbuffered", 'u'), ("debug", 'd'), ("follow-symlinks", 'u'), ("version", 'h'),
    ("help", 'h')]

/-- An option can be shortened if only one begins so. -/
def longOption? (name : String) : Option (String × Char) :=
  match longOptions.find? (·.1 = name) with
  | some option => some option
  | Option.none =>
      match longOptions.filter fun option => name.toList.isPrefixOf option.1.toList with
      | [option] => some option
      | _ => Option.none

def readLong (arguments : Arguments) (following : List String) (text : List Char) :
    Except Halt (Arguments × List String) :=
  let given := String.ofList (text.takeWhile (· ≠ '='))
  match longOption? given, text.dropWhile (· ≠ '=') with
  | Option.none, _ => .error (.misuse s!"unrecognized option '--{given}'\n{usage}")
  | some (_, 'h'), _ => .error .information
  | some (name, letter), value =>
      if letter = 'i' then .ok ({ arguments with inPlace := true }, following)
      else match arguments.withFlag? letter, value, following with
        | some arguments, [], following => .ok (arguments, following)
        | some _, _, _ =>
            .error (.misuse s!"option '--{name}' doesn't allow an argument\n{usage}")
        | Option.none, _ :: value, following =>
            .ok ((arguments.withValue? letter (String.ofList value)).getD arguments, following)
        | Option.none, [], value :: following =>
            .ok ((arguments.withValue? letter value).getD arguments, following)
        | Option.none, [], [] =>
            .error (.misuse s!"option '--{name}' requires an argument\n{usage}")

/-- Options are recognised between the operands too. `fuel` bounds the number
of arguments. -/
def read : (fuel : Nat) → Arguments → List String → Except Halt Arguments
  | 0, arguments, _ | _, arguments, [] => .ok arguments
  | fuel + 1, arguments, argument :: following =>
      match argument.toList with
      | ['-', '-'] => .ok (following.foldl addOperand arguments)
      | '-' :: '-' :: name => do
          let (arguments, following) ← arguments.readLong following name
          read fuel arguments following
      | '-' :: letter :: letters => do
          let (arguments, following) ← arguments.readLetters following (letter :: letters)
          read fuel arguments following
      | _ => read fuel (arguments.addOperand argument) following

/-- What ends a line. -/
def mark (arguments : Arguments) : Char := if arguments.whole then '\x00' else '\n'

/-- Without any other script the first operand is one. -/
def parse (texts : List String) : Except Halt Arguments := do
  let arguments ← read texts.length none texts
  match arguments.sources, arguments.operands with
  | [], [] => .error (.misuse usage)
  | [], script :: operands => return { arguments with sources := [.argument script], operands }
  | _, _ => return arguments

example : (parse ["-nE", "p", "f"]).toOption =
    some { none with quiet := true, extended := true, sources := [.argument "p"],
                     operands := ["f"] } := by decide +kernel

end Arguments

/-! ## The script -/

/-- The text of a part of the script. A directory has none. -/
def sourceText (readFile : Command.ReadFile) : Source → Except (Nat × String) (List Char)
  | .argument text => .ok text.toList
  | .file path =>
      match readFile path with
      | .ok contents => .ok contents.toList
      | .error .isDirectory => .ok []
      | .error error => .error (gaveUp, s!"couldn't open file {path}: {error.reason.1}")

/-- A place in a file is given by its line. -/
def placeOf (sources : List Source) (error : ScriptError) (text : List Char) : String :=
  let before := sources.take error.expression
  let arguments := before.filter fun source =>
    match source with
    | .argument _ => true
    | .file _ => false
  match before.getLast? with
  | some (.file path) =>
      let line := ((text.take error.position).filter (· = '\n')).length + 1
      s!"file {path} line {line}: {error.fault.message}"
  | _ => { error with expression := arguments.length }.message

def mannerOf (arguments : Arguments) : Manner :=
  let style := if arguments.extended then PatternStyle.extended else .basic
  ⟨{ style with strict := arguments.strict }, arguments.guarded⟩

/-- The file that an instruction writes. -/
def written? (instruction : Instruction) : Option String :=
  match instruction.command with
  | .writeFile path | .writeFirst path => some path
  | .substitute substitution => substitution.target
  | _ => none

def scriptOf (readFile : Command.ReadFile) (manner : Manner) (sources : List Source)
    (texts : List (List Char)) : Except (Nat × String) Script :=
  match readScript manner texts with
  | .ok script =>
      let faults := (script.filterMap written?).filterMap fun path =>
        (Command.writeFault? readFile path).map (path, ·)
      match faults, script.missingLabel? with
      | (path, error) :: _, _ =>
          .error (gaveUp, s!"couldn't open file {path}: {error.reason.1}")
      | [], some name => .error (gaveUp, s!"can't find label for jump to \x60{name}'")
      | [], none => .ok script
  | .error ⟨.bareClassName, _, _⟩ => .error (gaveUp, Fault.bareClassName.message)
  | .error error =>
      .error (badScript, placeOf sources error ((texts[error.expression - 1]?).getD []))

/-! ## The tool -/

/-- The files that are named, or what the tool is given. Files that the script
writes are empty from the beginning. -/
def inputOf (readFile : Command.ReadFile) (arguments : Arguments) (script : Script)
    (given : String) : Input :=
  let emptied := script.filterMap written?
  let shelf : Shelf := ⟨readFile, emptied.map (·, []), given.toList⟩
  let input : Input :=
    { mark := arguments.mark
      isSeparate := arguments.separate || arguments.inPlace
      isInPlace := arguments.inPlace
      waiting := arguments.operands
      name := "-", lines := [], lastEnds := true, shelf, faults := [] }
  match arguments.operands, arguments.inPlace with
  | [], true => input.tell (.final "no input files")
  | [], false => { input with waiting := ["-"] }
  | _, true => { input with name := "" }
  | _, false => input

/-- The message about a pattern that is missing while the script is applied. -/
def noPatternMessage (arguments : Arguments) : String :=
  let number := (arguments.sources.filter fun source => source matches .argument _).length
  s!"-e expression #{number}, char 0: no previous regular expression"

/-- How the tool ends. It has complained about files when it came to them. -/
def conclude (name : String) (arguments : Arguments) (editor : Editor) (status : Nat) :
    Execution :=
  let faults := editor.input.faults.reverse
  let status := if editor.input.isOver then gaveUp else if faults.isEmpty then status else badInput
  let complaints := faults.map fun fault =>
    match fault with
    | .skipped text | .final text => s!"{name}: {text}\n"
  let output := String.ofList (if arguments.inPlace then editor.shown else editor.written)
  let opening := if arguments.explains then "SED PROGRAM:\n" else ""
  ⟨status, opening ++ output, String.join complaints ++ String.ofList editor.complaints,
    editor.spent⟩

def carryOut (name : String) (host : Host) (arguments : Arguments) (script : Script)
    (quiet : Bool) (given : String) : Execution :=
  let conditions : Conditions :=
    ⟨script, quiet, arguments.strict, arguments.width, host.start⟩
  match conditions.edit (inputOf host.readFile arguments script given) with
  | none => .endless
  | some (_, .noPattern) => .ofFailure badScript s!"{name}: {noPatternMessage arguments}\n"
  | some (editor, .ended) => conclude name arguments editor 0
  | some (editor, .quit status) => conclude name arguments editor status

/-- The tool complains in the name under which it has been started. -/
def program (name : String) (host : Host) : Tool := fun texts given =>
  let fail (status : Nat) (message : String) : Execution :=
    .ofFailure status s!"{name}: {message}\n"
  match Arguments.parse texts with
  | .error .information => .ofOutput Arguments.usage
  | .error (.misuse message) =>
      if message = Arguments.usage then .ofFailure badScript message else fail badScript message
  | .ok arguments =>
      match arguments.sources.mapM (sourceText host.readFile) with
      | .error (status, message) => fail status message
      | .ok texts =>
          match scriptOf host.readFile (mannerOf arguments) arguments.sources texts with
          | .error (status, message) => fail status message
          | .ok script =>
              let quiet := arguments.quiet || texts.head?.any isQuiet
              carryOut name host arguments script quiet given

example : (program "sed" .bare ["s/b\\(.\\)/<\\1>/g"] "abcabd").output = "a<c>a<d>" := by
  decide +kernel

end Dilemma.Sed
