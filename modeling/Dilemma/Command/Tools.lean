import Dilemma.Command.Program
import Dilemma.Command.Tools.Awk
import Dilemma.Command.Tools.Sed
import Dilemma.Command.Tools.Shell
import Dilemma.Command.Tools.Sleep

/-! # Tools

Translators can be any programs, and nothing that is proved about them asks for
more than that. These are some that stand for the usual ones, as functions of
their arguments and their input, so that a command with a translator has an
outcome without a process ever being started. They take texts for rows of
octets. -/

namespace Dilemma

/-- A tool by its own name, in a host of octets. The first argument is the name
in which it complains. -/
def tool? (complainer : String) (host : Host) (name : String) : Option Tool :=
  match name with
  | "awk" | "mawk" => some (Awk.program name host)
  | "sed" => some (Sed.program complainer host)
  | "sleep" => some (Sleep.program complainer)
  | _ => none

/-! ## Paths -/

/-- The parts of a path that are left when dots have led up. -/
def leadingParts (path : String) : List String :=
  let parts := (Command.Files.parts path.toList).map String.ofList
  (parts.foldl (fun passed part =>
    if part = "" ∨ part = "." then passed
    else if part = ".." then passed.drop 1
    else part :: passed) []).reverse

/-- The name of a tool behind a path. Tools are not text, and they are found in
certain directories. -/
def nameInDirectory? (readFile : Command.ReadFile) (path : String) : Option String :=
  match readFile path, leadingParts path with
  | .error .notText, ["bin", name] | .error .notText, ["usr", "bin", name] => some name
  | _, _ => none

/-- Why a path leads to nothing that can be started. What can be read, or is a
directory, is not a program. -/
def refusal (readFile : Command.ReadFile) (path : String) : Command.FileError :=
  match readFile path with
  | .ok _ | .error .isDirectory | .error .notText => .denied
  | .error error => error

/-- A name without a slash is looked up in the directories of tools, a path is
followed. -/
def findTool (host : Host) (readFile : Command.ReadFile) (path : String) :
    Except Command.FileError Tool :=
  if path.toList.contains '/' then
    match (nameInDirectory? readFile path).bind (tool? path host) with
    | some program => .ok program
    | none => .error (refusal readFile path)
  else match tool? path host path with
    | some program => .ok program
    | none =>
        if path = "." ∨ path = ".." then .error .denied
        else if Command.Files.nameLimit ≤ path.utf8ByteSize then .error .nameTooLong
        else .error .missing

/-! ## Hosts -/

/-- A host of octets, in which tools can start tools. `fuel` bounds how often
that happens within one another. -/
def octetHost (readFile : Command.ReadFile) (settings : List (String × String)) :
    (fuel : Nat) → Host
  | 0 => .bare
  | fuel + 1 =>
      let readOctets : Command.ReadFile := fun path =>
        (readFile (Text.ofOctets (Text.octetsIn path))).map Text.octets
      let settings := settings.map fun (name, value) => (Text.octets name, Text.octets value)
      let host := octetHost readFile settings fuel
      let surroundings : Shell.Surroundings :=
        ⟨readOctets, fun path => (findTool host readOctets path).toOption⟩
      ⟨readOctets, settings, Shell.run surroundings settings⟩

/-- More tools within one another than are ever started. -/
def hostDepth : Nat := 5

/-! ## Tools as processes -/

/-- A process that does what the tool did. It is looked at as often as possible. -/
def Execution.process (execution : Execution) : Process where
  unwritten := none
  look count :=
    if execution.duration.nanoseconds ≤ count * Look.interval.nanoseconds then
      .ended (.code (UInt8.ofNat execution.status))
    else .running
  clock count := ⟨count * Look.interval.nanoseconds⟩
  paced count := Nat.le_of_eq (Nat.succ_mul count _).symm
  output := Text.octetsIn execution.output
  complaint := Text.octetsIn execution.complaint

/-- The tools of a system with files and settings. They leave no traces, and
they take texts for rows of octets. -/
def tools (readFile : Command.ReadFile) (settings : List (String × String)) : Programs Unit :=
  fun path arguments input world =>
    match findTool (octetHost readFile settings hostDepth) readFile path with
    | .error error => (⟨.error error, ⟨0⟩⟩, world)
    | .ok tool =>
        let execution := tool (arguments.map Text.octets) (Text.octets input)
        (⟨.ok execution.process, execution.duration⟩, world)

end Dilemma
