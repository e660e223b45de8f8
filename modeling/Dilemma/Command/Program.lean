import Dilemma.Command.Files
import Dilemma.Command.Process
import Dilemma.Json.Writer
import Dilemma.Text.Octets
import Dilemma.Wire.Answer

/-! # External translators

A translator can be a program: it is started once for each attempt, gets the
request as JSON, and has to leave an answer as JSON. What programs there are
and what they do is a matter of the surroundings. -/

namespace Dilemma

/-- What is left open about the reading of JSON: how numbers are taken, and how
it is said that something cannot be read. -/
structure Decoding where
  numbers : Json.NumberReader
  /-- What is wrong with the output of a program that is not an answer. -/
  answerFault : List UInt8 → String
  /-- What is wrong with a text that is not a tournament file. -/
  fileFault : String → String

/-- Numbers are rounded as well as they can be, and there are no details about
what cannot be read. -/
def Decoding.plain : Decoding where
  numbers := .nearest
  answerFault _ := "the output is not an answer"
  fileFault _ := "the text is not a tournament file"

/-- What comes of the start of a program, and when the outcome is known. -/
structure Launch where
  process : Except Command.FileError Process
  delay : Duration

/-- The programs that can be started by their names. They are given their
arguments and their input, and can find and leave traces in the world. -/
abbrev Programs (World : Type) :=
  (name : String) → (arguments : List String) → (input : String) → World → Launch × World

namespace Process

variable (process : Process) (decoding : Decoding) (program : String)

/-- What a process leaves behind that has ended. The output counts if it ended well. -/
def legacy (status : ExitStatus) : Except TranslatorError Answer :=
  if status.isSuccess then
    match (Text.ofOctets? process.output).bind (Answer.parse? decoding.numbers) with
    | some answer => .ok answer
    | none => .error (.malformed (decoding.answerFault process.output))
  else
    let complaint := Text.trim (Text.ofOctets process.complaint)
    .error (.unavailable s!"`{program}` exited with {status.text}: {complaint}")

/-- A process that does not take its input is not waited for. -/
def answer (limit : Duration) : Except TranslatorError Answer :=
  match process.unwritten with
  | some message => .error (.unavailable s!"cannot write request: {message}")
  | none =>
      match process.wait program limit with
      | .ok status => process.legacy decoding program status
      | .error error => .error error

end Process

def Launch.answer (launch : Launch) (decoding : Decoding) (program : String)
    (limit : Duration) : Except TranslatorError Answer :=
  match launch.process with
  | .error error => .error (.unavailable s!"cannot start `{program}`: {error.message}")
  | .ok process => process.answer decoding program limit

/-- A program with its arguments. -/
structure CommandLine where
  program : String
  arguments : List String
  deriving DecidableEq, Repr

namespace CommandLine

/-- Words are separated by blanks; there is no quoting. -/
def ofText? (text : String) : Option CommandLine :=
  match (Text.words text.toList).map String.ofList with
  | [] => none
  | program :: arguments => some ⟨program, arguments⟩

example : ofText? " sed  s/a/b/ " = some ⟨"sed", ["s/a/b/"]⟩ := by decide +kernel
example : ofText? "  " = none := by decide +kernel

variable {World : Type}

/-- The program may take as long as the one who asks waits for an answer. -/
def translator (line : CommandLine) (programs : Programs World) (decoding : Decoding)
    (limit : Duration) : Translator World where
  translate request world :=
    let (launch, world) :=
      programs line.program line.arguments request.toJson.compact world
    (⟨.returns (launch.answer decoding line.program limit), launch.delay, []⟩, world)

end CommandLine

end Dilemma
