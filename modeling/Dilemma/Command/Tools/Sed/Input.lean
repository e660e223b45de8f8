import Dilemma.Command.Tools.Host
import Dilemma.Text.Lines

/-! # Files to edit

Files are opened one after the other, when a line of them is wanted, or when
it has to be known whether there is another line. -/

namespace Dilemma.Sed

/-- The files as the tool finds them. -/
structure Shelf where
  readFile : Command.ReadFile
  /-- Files that the tool has written. -/
  changed : List (String × List Char)
  /-- What is left of what the tool is given. -/
  console : List Char

namespace Shelf

def read (shelf : Shelf) (path : String) : Except Command.FileError (List Char) :=
  match shelf.changed.find? (·.1 = path) with
  | some (_, text) => .ok text
  | none => (shelf.readFile path).map (·.toList)

def put (shelf : Shelf) (path : String) (text : List Char) : Shelf :=
  { shelf with changed := (path, text) :: shelf.changed }

end Shelf

/-- What is wrong with the files. -/
inductive InputFault where
  /-- The tool goes on without the file. -/
  | skipped (message : String)
  /-- The tool gives up. -/
  | final (message : String)
  deriving DecidableEq, Repr

structure Input where
  /-- What ends a line. -/
  mark : Char
  /-- Lines are counted anew in every file. -/
  isSeparate : Bool
  /-- Files are replaced by what is written. -/
  isInPlace : Bool
  /-- The files that have not been opened. -/
  waiting : List String
  /-- The file that has been opened last. -/
  name : String
  /-- The lines of it that have not been read. -/
  lines : List (List Char)
  /-- The last of them has an end. -/
  lastEnds : Bool
  shelf : Shelf
  /-- Latest first. -/
  faults : List InputFault

namespace Input

def isOver (input : Input) : Bool :=
  input.faults.any fun fault =>
    match fault with
    | .final _ => true
    | .skipped _ => false

def tell (input : Input) (fault : InputFault) : Input :=
  { input with faults := fault :: input.faults }

/-- The lines of a text are next. -/
def hold (input : Input) (text : List Char) : Input :=
  { input with
    lines := Text.linesBy input.mark text
    lastEnds := text.isEmpty || text.getLast? = some input.mark }

def isConsole (input : Input) (name : String) : Bool :=
  name = "/dev/stdin" || name = "-" && !input.isInPlace

/-- Two names stand for what the tool is given. A directory can be opened, but
not be read. -/
def openFile (input : Input) (name : String) (waiting : List String) : Input :=
  let input := { input with waiting, name }
  if input.isConsole name then
    { input.hold input.shelf.console with shelf := { input.shelf with console := [] } }
  else match input.shelf.read name with
    | .ok text => input.hold text
    | .error .isDirectory =>
        input.tell (.final (if input.isInPlace then s!"couldn't edit {name}: not a regular file"
          else s!"read error on {name}: Is a directory"))
    | .error error => input.tell (.skipped s!"can't read {name}: {error.reason.1}")

/-- Open files up to one that has lines. `fuel` bounds their number. -/
def openUntilFilled : (fuel : Nat) → Input → Input
  | 0, input => input
  | fuel + 1, input =>
      match input.lines, input.waiting with
      | [], name :: waiting =>
          let faults := input.faults
          let opened := input.openFile name waiting
          openUntilFilled fuel (if opened.isOver then { opened with faults } else opened)
      | _, _ => input

/-- Whether there is another line. A directory has none as long as none is
read. -/
def atLast (input : Input) : Bool × Input :=
  if input.isSeparate then (input.lines.isEmpty, input)
  else
    let input := openUntilFilled input.waiting.length input
    (input.lines.isEmpty, input)

/-- The next line of the open file, and whether it has an end. -/
def take? (input : Input) : Option (List Char × Bool × Input) :=
  match input.lines with
  | [] => none
  | line :: lines => some (line, !lines.isEmpty || input.lastEnds, { input with lines })

end Input

end Dilemma.Sed
