import Dilemma.Command.Argument
import Dilemma.Text.Integer

/-! # Invocations

The arguments of the program name one of three tasks. Each task has options of
its own; two flags are allowed everywhere. Arguments are read from left to
right, and the first that cannot be right ends the reading. -/

namespace Dilemma

structure TranslatorOptions where
  /-- The command line of an external translator. -/
  command : Option String
  /-- The time limit of an attempt in milliseconds. -/
  timeout : Option Nat
  deriving DecidableEq, Repr

structure RunOptions where
  file : String
  rounds : Option Int
  sequential : Bool
  json : Bool
  translator : TranslatorOptions
  deriving DecidableEq, Repr

inductive Task where
  | run (options : RunOptions)
  | interpret (text : String) (options : TranslatorOptions)
  | templates
  deriving DecidableEq, Repr

structure Invocation where
  task : Task
  verbosity : Nat
  logFile : Bool
  deriving DecidableEq, Repr

inductive UsageError where
  | missingTask
  | unknownTask (name : String)
  | unknownOption (name : String)
  | unexpectedValue (option : String)
  | missingValue (option : String)
  | invalidValue (option value : String)
  | repeatedOption (option : String)
  | missingOperand (name : String)
  | unexpectedOperand (text : String)
  deriving DecidableEq, Repr

def UsageError.message : UsageError → String
  | missingTask => "a task is required"
  | unknownTask name => s!"unknown task `{name}`"
  | unknownOption name => s!"unknown option `{name}`"
  | unexpectedValue option => s!"option `{option}` takes no value"
  | missingValue option => s!"option `{option}` needs a value"
  | invalidValue option value => s!"`{value}` is no value for `{option}`"
  | repeatedOption option => s!"option `{option}` can be given only once"
  | missingOperand name => s!"`{name}` is required"
  | unexpectedOperand text => s!"unexpected argument `{text}`"

/-- Why reading ended before all arguments were read. -/
inductive Stop where
  | help
  | version
  | misuse (error : UsageError)
  deriving DecidableEq, Repr

/-! ## Options -/

/-- Where options stand: in front of the task, or after one of the tasks. -/
inductive Scope where
  | general
  | run
  | interpret
  | templates
  deriving DecidableEq, Repr

inductive Flag where
  | verbose
  | logFile
  | sequential
  | json
  | help
  | version
  deriving DecidableEq, Repr

inductive Setting where
  | rounds
  | command
  | timeout
  deriving DecidableEq, Repr

namespace Scope

def flag? (scope : Scope) : String → Option Flag
  | "verbose" => some .verbose
  | "log-file" => some .logFile
  | "help" => some .help
  | "version" => if scope = general then some .version else none
  | "sequential" => if scope = run then some .sequential else none
  | "json" => if scope = run then some .json else none
  | _ => none

def flagOfLetter? (scope : Scope) : Char → Option Flag
  | 'v' => some .verbose
  | 'h' => some .help
  | 'V' => if scope = general then some .version else none
  | _ => none

def setting? (scope : Scope) : String → Option Setting
  | "rounds" => if scope = run then some .rounds else none
  | "translator-cmd" => if scope = run ∨ scope = interpret then some .command else none
  | "timeout-ms" => if scope = run ∨ scope = interpret then some .timeout else none
  | _ => none

/-- What the one operand of a scope is called, if there is one. -/
def operand? : Scope → Option String
  | run => some "FILE"
  | interpret => some "TEXT"
  | general | templates => none

end Scope

/-- A negative number of rounds has to be refused later, so a value that looks
like an option is a value here. -/
def Setting.takesHyphens : Setting → Bool
  | rounds => true
  | _ => false

/-- What has been read in one scope. -/
structure Options where
  verbosity : Nat
  logFile : Bool
  sequential : Bool
  json : Bool
  rounds : Option Int
  command : Option String
  timeout : Option Nat
  operand : Option String
  deriving DecidableEq, Repr

namespace Options

def empty : Options := ⟨0, false, false, false, none, none, none, none⟩

def misuse {α : Type} (error : UsageError) : Except Stop α := .error (.misuse error)

/-- Only verbosity adds up, other flags come once. -/
def raise (name : String) (options : Options) : Flag → Except Stop Options
  | .verbose => .ok { options with verbosity := options.verbosity + 1 }
  | .logFile =>
      if options.logFile then misuse (.repeatedOption name)
      else .ok { options with logFile := true }
  | .sequential =>
      if options.sequential then misuse (.repeatedOption name)
      else .ok { options with sequential := true }
  | .json =>
      if options.json then misuse (.repeatedOption name) else .ok { options with json := true }
  | .help => .error .help
  | .version => .error .version

def raiseLetters (scope : Scope) (options : Options) : List Char → Except Stop Options
  | [] => .ok options
  | letter :: rest =>
      match scope.flagOfLetter? letter with
      | some flag => do raiseLetters scope (← options.raise letter.toString flag) rest
      | none => misuse (.unknownOption letter.toString)

/-- The value of an option that has none so far. -/
def first {α : Type} (name text : String) (current value : Option α) : Except Stop α :=
  match current, value with
  | some _, _ => misuse (.repeatedOption name)
  | none, some value => .ok value
  | none, none => misuse (.invalidValue name text)

def set (name text : String) (options : Options) : Setting → Except Stop Options
  | .rounds => do
      let value ← first name text options.rounds (Text.integer? (UInt64.size / 2) text.toList)
      return { options with rounds := some value }
  | .command => do
      let value ← first name text options.command (some text)
      return { options with command := some value }
  | .timeout => do
      let value ← first name text options.timeout (Text.natural? UInt64.size text.toList)
      return { options with timeout := some value }

/-- A file has a name, while a strategy text may be empty. -/
def place (scope : Scope) (text : String) (options : Options) : Except Stop Options :=
  match scope.operand?, options.operand with
  | some name, none =>
      if scope = .run ∧ text = "" then misuse (.invalidValue name text)
      else .ok { options with operand := some text }
  | _, _ => misuse (.unexpectedOperand text)

def placeAll (scope : Scope) (options : Options) : List String → Except Stop Options
  | [] => .ok options
  | text :: rest => do placeAll scope (← options.place scope text) rest

/-- Read the arguments after a task. -/
def read (scope : Scope) (options : Options) : List String → Except Stop Options
  | [] => .ok options
  | argument :: rest =>
      match Argument.ofText argument with
      | .escape => options.placeAll scope rest
      | .plain text => do read scope (← options.place scope text) rest
      | .short letters => do read scope (← options.raiseLetters scope letters) rest
      | .long name attached =>
          match scope.flag? name, scope.setting? name, attached with
          | some flag, _, none => do read scope (← options.raise name flag) rest
          | some _, _, some _ => misuse (.unexpectedValue name)
          | none, some setting, some value => do
              read scope (← options.set name value setting) rest
          | none, some setting, none =>
              match rest with
              | [] => misuse (.missingValue name)
              | value :: rest =>
                  if setting.takesHyphens || (Argument.ofText value).isPlain then do
                    read scope (← options.set name value setting) rest
                  else misuse (.missingValue name)
          | none, none, _ => misuse (.unknownOption name)

def translator (options : Options) : TranslatorOptions := ⟨options.command, options.timeout⟩

def operandOr (scope : Scope) (options : Options) : Except Stop String :=
  match options.operand with
  | some text => .ok text
  | none => misuse (.missingOperand ((scope.operand?).getD ""))

end Options

/-! ## Tasks -/

namespace Task

def scope? : String → Option Scope
  | "run" => some .run
  | "interpret" => some .interpret
  | "templates" => some .templates
  | _ => none

def ofOptions (scope : Scope) (options : Options) : Except Stop Task := do
  match scope with
  | .run =>
      let file ← options.operandOr scope
      return run ⟨file, options.rounds, options.sequential, options.json, options.translator⟩
  | .interpret => return interpret (← options.operandOr scope) options.translator
  | .templates => return templates
  | .general => Options.misuse .missingTask

/-- Help can be asked for about nothing, about a task, or about help. -/
def helpOn : List String → Stop
  | [] | ["help"] => .help
  | [name] => if (scope? name).isSome then .help else .misuse (.unknownTask name)
  | name :: next :: _ =>
      if name = "help" ∨ (scope? name).isSome then .misuse (.unknownTask next)
      else .misuse (.unknownTask name)

end Task

namespace Invocation

/-- Read the arguments of a task. What was said in front of it counts where
nothing is said after it. -/
def ofTask (general : Options) (scope : Scope) (arguments : List String) :
    Except Stop Invocation := do
  let options ← Options.empty.read scope arguments
  let task ← Task.ofOptions scope options
  let verbosity := if options.verbosity = 0 then general.verbosity else options.verbosity
  return ⟨task, verbosity, general.logFile || options.logFile⟩

/-- Read the arguments in front of the task. -/
def readGeneral (options : Options) : List String → Except Stop Invocation
  | [] => Options.misuse .missingTask
  | argument :: rest =>
      match Argument.ofText argument with
      | .plain "help" => .error (Task.helpOn rest)
      | .plain name =>
          match Task.scope? name with
          | some scope => ofTask options scope rest
          | none => Options.misuse (.unknownTask name)
      | .short letters => do
          readGeneral (← options.raiseLetters .general letters) rest
      | .long name attached =>
          match Scope.flag? .general name, attached with
          | some flag, none => do readGeneral (← options.raise name flag) rest
          | some _, some _ => Options.misuse (.unexpectedValue name)
          | none, _ => Options.misuse (.unknownOption name)
      | .escape =>
          match rest with
          | [] => Options.misuse .missingTask
          | name :: _ => Options.misuse (.unknownTask name)

def parse (arguments : List String) : Except Stop Invocation :=
  readGeneral .empty arguments

end Invocation

end Dilemma
