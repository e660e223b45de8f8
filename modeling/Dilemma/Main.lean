import Std.Time.DateTime.Timestamp
import Dilemma.Command.LogFile
import Dilemma.Command.Run
import Dilemma.Command.Tools

/-! # The command line program

Collects the surroundings, executes the command and writes what comes of it. -/

namespace Dilemma

/-- The variables that settings can be taken from. -/
def variableNames : List String :=
  ["ARENA_TRANSLATION_TIMEOUT_MS", "ARENA_TRANSLATION_RETRIES", "ARENA_MAX_TEXT_LEN",
   "ARENA_PARALLEL", "ARENA_MAX_ROUNDS"]

/-- The variables that have a value. -/
def readSettings : IO (List (String × String)) := do
  let values ← variableNames.mapM fun name => do
    return (← IO.getEnv name).map fun value => (name, value)
  return values.filterMap id

def fileError : IO.Error → Command.FileError
  | .noFileOrDirectory .. => .missing
  | .permissionDenied .. => .denied
  | .inappropriateType _ 20 _ => .notDirectory
  | .inappropriateType .. => .isDirectory
  | .invalidArgument _ 36 _ => .nameTooLong
  | error => .other (toString error)

def readPath (path : String) : IO (Except Command.FileError String) := do
  try
    match String.fromUTF8? (← IO.FS.readBinFile path) with
    | some text => return .ok text
    | none => return .error .notText
  catch error =>
    return .error (fileError error)

def translatorWords (options : TranslatorOptions) : List String :=
  match options.command.bind CommandLine.ofText? with
  | some line => line.program :: line.arguments
  | none => []

/-- The paths that the arguments can lead to: a file, and whatever words a
translator command has. -/
def pathsOf (arguments : List String) : List String :=
  match Invocation.parse arguments with
  | .ok ⟨.run options, _, _⟩ => options.file :: translatorWords options.translator
  | .ok ⟨.interpret _ options, _, _⟩ => translatorWords options
  | _ => []

def readSurroundings (arguments : List String) : IO (Command.Surroundings Unit) := do
  let settings ← readSettings
  let environment : Environment := fun name => (settings.find? (·.1 = name)).map (·.2)
  let contents ← (pathsOf arguments).mapM fun path => do return (path, ← readPath path)
  let readFile : Command.ReadFile := fun path =>
    ((contents.find? (·.1 = path)).map (·.2)).getD (.error .missing)
  return ⟨readFile, environment, tools readFile settings, (), .plain⟩

def writeLog : IO Unit := do
  let now ← Std.Time.Timestamp.now
  IO.FS.writeFile (LogFile.name now.toSecondsSinceUnixEpoch.val) ""

end Dilemma

def main (arguments : List String) : IO UInt32 := do
  let outcome := Dilemma.Command.execute (← Dilemma.readSurroundings arguments) arguments
  if outcome.logs then Dilemma.writeLog
  IO.print outcome.ending.output
  if let some complaint := outcome.ending.complaint then IO.eprintln complaint
  return outcome.ending.code
