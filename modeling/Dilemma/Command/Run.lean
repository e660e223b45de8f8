import Dilemma.Command.Files
import Dilemma.Command.Invocation
import Dilemma.Command.Program
import Dilemma.Interpretation.Recognizer
import Dilemma.Text.Padding
import Dilemma.Tournament.Run
import Dilemma.Tournament.Table
import Dilemma.Wire.File
import Dilemma.Wire.Report

/-! # Carrying out a command

What the program writes and how it ends is a function of its arguments and of
its surroundings: files, variables and programs. A task either fails without
any output or succeeds as a whole. -/

namespace Dilemma.Command

/-! ## Surroundings -/

structure Surroundings (World : Type) where
  readFile : ReadFile
  environment : Environment
  programs : Programs World
  /-- What programs find when the first of them is started. -/
  world : World
  decoding : Decoding

/-! ## Failures -/

inductive Failure where
  | unreadable (path : String) (error : FileError)
  | invalidFile (path cause : String)
  | rounds (error : SetupError)
  | emptyTranslator
  | setup (path : String) (error : SetupError)
  deriving DecidableEq, Repr

namespace Failure

/-- What failed, and what caused it if something else did. -/
def parts : Failure → String × Option String
  | unreadable path error => (s!"cannot read `{path}`", some error.message)
  | invalidFile path cause => (s!"invalid tournament file `{path}`", some cause)
  | rounds error => (error.message, none)
  | emptyTranslator => ("translator command is empty", none)
  | setup path error => (s!"cannot run tournament from `{path}`", some error.message)

/-- Every line of a cause is indented. -/
def indented (cause : String) : String :=
  String.ofList (cause.toList.flatMap fun char =>
    if char = '\n' then "\n    ".toList else [char])

def message (failure : Failure) : String :=
  match failure.parts with
  | (what, none) => "Error: " ++ what
  | (what, some cause) => s!"Error: {what}\n\nCaused by:\n    {indented cause}"

example : (setup "t" .blankName).message =
    "Error: cannot run tournament from `t`\n\nCaused by:\n    strategy name must not be blank" := by
  decide +kernel

end Failure

/-! ## Tasks -/

/-- The limit on the command line goes before the one in the variables. -/
def interpreterSettings (environment : Environment) (options : TranslatorOptions) :
    InterpreterSettings :=
  let settings := InterpreterSettings.ofEnvironment environment
  match options.timeout with
  | some count => settings.withTimeout (.ofMilliseconds count)
  | none => settings

variable {World : Type} (surroundings : Surroundings World)

/-- Plain English is recognised unless there is an external translator, which
has to keep to the same limit as the interpreter. -/
def translatorFor (limit : Duration) (options : TranslatorOptions) :
    Except Failure (Translator World) :=
  match options.command with
  | none => .ok Recognizer.translator
  | some text =>
      match CommandLine.ofText? text with
      | some line => .ok (line.translator surroundings.programs surroundings.decoding limit)
      | none => .error .emptyTranslator

def interpreterFor (options : TranslatorOptions) : Except Failure (Interpreter World) := do
  let settings := interpreterSettings surroundings.environment options
  let translator ← translatorFor surroundings settings.timeout options
  return ⟨translator, settings, Template.titForTat.asFunction 0⟩

def loadFile (path : String) : Except Failure TournamentFile :=
  match surroundings.readFile path with
  | .error error => .error (.unreadable path error)
  | .ok text =>
      match TournamentFile.parse? surroundings.decoding.numbers text with
      | some file => .ok file
      | none => .error (.invalidFile path (surroundings.decoding.fileFault text))

/-- What the file says about the payoff counts, and the flag can only forbid
to play in parallel. -/
def tournamentSettings (options : RunOptions) (file : TournamentFile) : TournamentSettings :=
  let settings := TournamentSettings.ofEnvironment surroundings.environment
  { settings with
    payoff := file.payoff.getD settings.payoff
    parallel := settings.parallel && !options.sequential }

/-- Everything that a tournament takes. -/
structure Contest (World : Type) where
  settings : TournamentSettings
  interpreter : Interpreter World
  entries : List Dilemma.Entry
  rounds : UInt32

def prepare (options : RunOptions) : Except Failure (Contest World) := do
  let file ← loadFile surroundings options.file
  let settings := tournamentSettings surroundings options file
  let rounds ← (file.roundsToPlay options.rounds settings.maxRounds).mapError Failure.rounds
  let interpreter ← interpreterFor surroundings options.translator
  return ⟨settings, interpreter, file.entries, rounds⟩

/-- What is made of the result of a tournament. -/
def present (options : RunOptions) (result : Except SetupError Report) :
    Except Failure String := do
  let report ← result.mapError (Failure.setup options.file)
  return if options.json then report.document ++ "\n" else Table.render report

def run (options : RunOptions) : Except Failure String := do
  let contest ← prepare surroundings options
  let (result, _) := Tournament.run contest.settings contest.interpreter contest.entries
    contest.rounds (.start surroundings.world)
  present options result

def interpret (text : String) (options : TranslatorOptions) : Except Failure String := do
  let interpreter ← interpreterFor surroundings options
  let (competitor, _) := interpreter.interpret ⟨"cli", text⟩ (.start surroundings.world)
  return competitor.summary

def templateLine (template : Template) : String :=
  Text.padRight 24 template.name ++ " " ++ template.description ++ "\n"

def templates : String := String.join (Template.all.map templateLine)

def perform : Task → Except Failure String
  | .run options => run surroundings options
  | .interpret text options => interpret surroundings text options
  | .templates => .ok templates

/-! ## Endings -/

def version : String := "arena 0.1.0\n"

def help : String :=
  "Iterated Prisoner's Dilemma tournaments between strategies written in plain text.\n\n" ++
    "Usage: arena [OPTIONS] <COMMAND>\n\n" ++
    "Commands:\n" ++
    "  run        Run a round-robin tournament from a JSON file\n" ++
    "  interpret  Show how one strategy text is interpreted\n" ++
    "  templates  List built-in templates\n" ++
    "  help       Print this message\n\n" ++
    "Options:\n" ++
    "  -v, --verbose   More logging\n" ++
    "      --log-file  Log to a timestamped file in the working directory\n" ++
    "  -h, --help      Print help\n" ++
    "  -V, --version   Print version\n"

inductive Ending where
  | succeeds (output : String)
  | fails (failure : Failure)
  | refuses (error : UsageError)
  deriving DecidableEq, Repr

namespace Ending

def ofResult : Except Failure String → Ending
  | .ok output => .succeeds output
  | .error failure => .fails failure

/-- The exit code. -/
def code : Ending → UInt32
  | succeeds _ => 0
  | fails _ => 1
  | refuses _ => 2

/-- What goes to the standard output. -/
def output : Ending → String
  | succeeds output => output
  | _ => ""

/-- What goes to the error stream. -/
def complaint : Ending → Option String
  | succeeds _ => none
  | fails failure => some failure.message
  | refuses error => some ("error: " ++ error.message)

end Ending

/-- How a command ends, and whether it leaves a log file. -/
structure Outcome where
  ending : Ending
  logs : Bool
  deriving DecidableEq, Repr

/-- Once the arguments make sense a log file is made if it is asked for, even
if the task fails. -/
def execute (arguments : List String) : Outcome :=
  match Invocation.parse arguments with
  | .error .version => ⟨.succeeds version, false⟩
  | .error .help => ⟨.succeeds help, false⟩
  | .error (.misuse error) => ⟨.refuses error, false⟩
  | .ok invocation =>
      ⟨.ofResult (perform surroundings invocation.task), invocation.logFile⟩

end Dilemma.Command
