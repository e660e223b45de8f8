import Dilemma.Command.Tools.Awk.Format
import Dilemma.Command.Tools.Host
import Dilemma.Command.Tools.Shell.Line

/-! # Running command lines

A line of commands is carried out by recursion on it. Some commands are part
of the shell; the others are looked up among the programs it is given. -/

namespace Dilemma.Shell

/-! ## Sessions -/

structure Session where
  values : List (String × List Char)
  /-- Files that have been written. -/
  files : List (String × List Char)
  /-- What is left of the input. -/
  input : List Char
  /-- What has been written, latest first. -/
  output : List (List Char)
  errors : List (List Char)
  status : Nat
  /-- Nothing more is done. -/
  isOver : Bool
  spent : Nat

namespace Session

def start (settings : List (String × String)) (input : List Char) : Session :=
  ⟨settings.map fun (name, value) => (name, value.toList), [], input, [], [], 0, false, 0⟩

def lookUp (session : Session) (name : String) : List Char :=
  if name = "?" then Text.natural session.status
  else ((session.values.find? (·.1 = name)).map (·.2)).getD []

def store (session : Session) (name : String) (value : List Char) : Session :=
  { session with values := (name, value) :: session.values.filter (·.1 ≠ name) }

def say (session : Session) (text : List Char) : Session :=
  { session with output := text :: session.output }

def complain (session : Session) (text : String) : Session :=
  { session with errors := text.toList :: session.errors }

def finish (session : Session) (status : Nat) : Session := { session with status }

def fail (session : Session) (status : Nat) (text : String) : Session :=
  (session.complain s!"sh: 1: {text}\n").finish status

def written (session : Session) : List Char := session.output.reverse.flatten

end Session

/-- What a shell finds around itself. -/
structure Surroundings where
  readFile : Command.ReadFile
  program? : String → Option Tool

namespace Surroundings

def contents (surroundings : Surroundings) (session : Session) (path : String) :
    Except Command.FileError (List Char) :=
  match session.files.find? (·.1 = path) with
  | some (_, text) => .ok text
  | none => (surroundings.readFile path).map (·.toList)

end Surroundings

/-! ## Words -/

/-- Fields that are complete, and one that may go on, all with what has been
added last in front. -/
structure Fields where
  complete : List (List Char)
  opened : Option (List Char)

namespace Fields

def add (fields : Fields) (text : List Char) : Fields :=
  { fields with opened := some (text.reverse ++ fields.opened.getD []) }

def close (fields : Fields) : Fields :=
  match fields.opened with
  | some text => ⟨text.reverse :: fields.complete, none⟩
  | none => fields

def isSeparator (char : Char) : Bool := char = ' ' || char = '\t' || char = '\n'

/-- A text that falls apart at blanks. -/
def addSplit (fields : Fields) : List Char → Fields
  | [] => fields
  | char :: rest => if isSeparator char then fields.close.addSplit rest
      else (fields.add [char]).addSplit rest

def toList (fields : Fields) : List (List Char) := fields.complete.reverse

end Fields

/-- What another line has to say, in a session. -/
abbrev Answer := List Char → Session → List Char × Session

/-- Line feeds at the end do not count. -/
def withoutLineEnds (text : List Char) : List Char :=
  (text.reverse.dropWhile (· = '\n')).reverse

def expandPiece (answer : Answer) (fields : Fields) (session : Session) :
    Piece → Fields × Session
  | .plain text | .quoted text => (fields.add text, session)
  | .named name isQuoted =>
      let text := session.lookUp name
      (if isQuoted then fields.add text else fields.addSplit text, session)
  | .output line isQuoted =>
      let (text, session) := answer line session
      let text := withoutLineEnds text
      (if isQuoted then fields.add text else fields.addSplit text, session)

def expandWith (answer : Answer) (fields : Fields) (session : Session) (word : Word) :
    Fields × Session :=
  let (fields, session) := word.foldl
    (fun (fields, session) piece => expandPiece answer fields session piece) (fields, session)
  (fields.close, session)

def expandAll (answer : Answer) (session : Session) (words : List Word) :
    List (List Char) × Session :=
  let (fields, session) := words.foldl
    (fun (fields, session) word => expandWith answer fields session word) (⟨[], none⟩, session)
  (fields.toList, session)

/-- A word that does not fall apart. -/
def expandWhole (answer : Answer) (session : Session) (word : Word) : List Char × Session :=
  let (fields, session) := expandWith answer ⟨[], none⟩ session (word.map fun piece =>
    match piece with
    | .named name _ => .named name true
    | .output line _ => .output line true
    | piece => piece)
  (fields.toList.flatten, session)

/-! ## Commands of the shell -/

/-- Text with escapes put in, and whether it goes on behind them. `fuel` bounds
the number of characters. -/
def escaped : (fuel : Nat) → List Char → List Char × Bool
  | 0, _ | _, [] => ([], true)
  | fuel + 1, '\\' :: char :: rest =>
      let andThen (taken : Char) (rest : List Char) : List Char × Bool :=
        let (text, goesOn) := escaped fuel rest
        (taken :: text, goesOn)
      match char, Pattern.codeChar? 8 3 (char :: rest), Pattern.codeChar? 8 3 rest with
      | 'c', _, _ => ([], false)
      | '0', _, some (meant, rest) | _, some (meant, rest), _ => andThen meant rest
      | 'b', _, _ => andThen '\x08' rest
      | '\\', _, _ => andThen '\\' rest
      | char, none, _ =>
          match Pattern.commonEscape char with
          | .char meant =>
              if meant = char then
                let (text, goesOn) := escaped fuel (char :: rest)
                ('\\' :: text, goesOn)
              else andThen meant rest
          | _ => andThen char rest
  | fuel + 1, char :: rest =>
      let (text, goesOn) := escaped fuel rest
      (char :: text, goesOn)

def echo (arguments : List (List Char)) (session : Session) : Session :=
  let (arguments, finish) := match arguments with
    | ['-', 'n'] :: arguments => (arguments, [])
    | arguments => (arguments, ['\n'])
  let text := [' '].intercalate arguments
  let (text, goesOn) := escaped (text.length + 1) text
  (session.say (if goesOn then text ++ finish else text)).finish 0

/-- A field of a format with the argument for it; `none` if it should be a
number and is not. -/
def fill (kind : Char) (field : Awk.FormatField) (argument : Option (List Char)) :
    List Char × Bool :=
  let text := argument.getD []
  let field := { field with kind }
  match kind with
  | 's' => (field.apply Awk.Value.toText (.text text), true)
  | 'b' =>
      let text := (escaped (text.length + 1) text).1
      ({ field with kind := 's' }.apply Awk.Value.toText (.text text), true)
  | 'c' => (field.apply Awk.Value.toText (.text (text.take 1)), true)
  | _ =>
      let isNumber := argument.isNone || Awk.Value.looksNumeric text
      (field.apply Awk.Value.toText (.number (Awk.Value.numberOfText text)), isNumber)

/-- A format once, with what is left of its arguments and what is no number.
`fuel` bounds the number of characters. -/
def formatOnce : (fuel : Nat) → List (List Char) → List Char →
    List Char × List (List Char) × List (List Char)
  | 0, arguments, _ | _, arguments, [] => ([], arguments, [])
  | fuel + 1, arguments, '%' :: '%' :: rest =>
      let (text, arguments, wrong) := formatOnce fuel arguments rest
      ('%' :: text, arguments, wrong)
  | fuel + 1, arguments, '%' :: rest =>
      match Awk.FormatField.readSizes [] rest with
      | .ok (field, _, kind :: rest) =>
          let (taken, isRight) := fill kind field arguments.head?
          let (text, left, wrong) := formatOnce fuel (arguments.drop 1) rest
          (taken ++ text, left, if isRight then wrong else arguments.headD [] :: wrong)
      | _ => ([], arguments, [])
  | fuel + 1, arguments, char :: rest =>
      let (text, arguments, wrong) := formatOnce fuel arguments rest
      (char :: text, arguments, wrong)

/-- A format is used again as long as arguments are left. `fuel` bounds their
number. -/
def formatAll (layout : List Char) : (fuel : Nat) → List (List Char) →
    List Char × List (List Char)
  | 0, _ => ([], [])
  | fuel + 1, arguments =>
      let (text, left, wrong) := formatOnce (layout.length + 1) arguments layout
      if left.isEmpty ∨ left.length = arguments.length then (text, wrong)
      else
        let (others, faults) := formatAll layout fuel left
        (text ++ others, wrong ++ faults)

def printFormat (arguments : List (List Char)) (session : Session) : Session :=
  match arguments with
  | [] => session.fail 2 "printf: usage: printf format [arg ...]"
  | layout :: arguments =>
      let (layout, _) := escaped (layout.length + 1) layout
      let (text, wrong) := formatAll layout (arguments.length + 1) arguments
      wrong.foldl (fun session text =>
          session.fail 1 s!"printf: {String.ofList text}: expected numeric value")
        ((session.say text).finish 0)

def exit (arguments : List (List Char)) (session : Session) : Session :=
  match arguments with
  | [] => { session with isOver := true }
  | status :: _ =>
      match Text.digits? status with
      | some status => { session with isOver := true, status := status % 256 }
      | none =>
          { session.fail 2 s!"exit: Illegal number: {String.ofList status}" with isOver := true }

/-- The files of a list one after the other. -/
def concatenate (surroundings : Surroundings) : List String → Session → Session
  | [], session => session
  | "-" :: rest, session =>
      concatenate surroundings rest { session.say session.input with input := [] }
  | file :: rest, session =>
      match surroundings.contents session file with
      | .ok text => concatenate surroundings rest (session.say text)
      | .error error =>
          let session := concatenate surroundings rest
            (session.complain s!"cat: {file}: {error.reason.1}\n")
          session.finish 1

def readLine (arguments : List (List Char)) (session : Session) : Session :=
  let line := session.input.takeWhile (· ≠ '\n')
  let rest := session.input.dropWhile (· ≠ '\n')
  let session := { session with input := rest.drop 1 }
  let session := match arguments with
    | name :: _ => session.store (String.ofList name) line
    | [] => session
  session.finish (if rest.isEmpty then 1 else 0)

/-- A comparison of texts, or a question about one. -/
def isTrue (arguments : List (List Char)) : Bool :=
  match arguments.map String.ofList with
  | [left, "=", right] => left = right
  | [left, "!=", right] => left ≠ right
  | ["-n", text] => text ≠ ""
  | ["-z", text] => text = ""
  | [text] => text ≠ ""
  | _ => false

/-! ## Running -/

/-- The commands of the shell, and programs. -/
def runCommand (surroundings : Surroundings) (name : String) (arguments : List (List Char))
    (session : Session) : Session :=
  match name with
  | ":" | "true" => session.finish 0
  | "false" => session.finish 1
  | "echo" => echo arguments session
  | "printf" => printFormat arguments session
  | "exit" => exit arguments session
  | "read" => readLine arguments session
  | "test" => session.finish (if isTrue arguments then 0 else 1)
  | "[" => session.finish (if isTrue arguments.dropLast then 0 else 1)
  | "cat" =>
      let files := if arguments.isEmpty then ["-"] else arguments.map String.ofList
      concatenate surroundings files (session.finish 0)
  | name =>
      match surroundings.program? name with
      | some program =>
          let execution := program (arguments.map String.ofList) (String.ofList session.input)
          { (session.say execution.output.toList).complain execution.complaint with
            input := []
            status := execution.status
            spent := session.spent + execution.duration.nanoseconds }
      | none =>
          let isThere : Bool := match name.toList.contains '/', surroundings.readFile name with
            | false, _ | true, .error .missing | true, .error .notDirectory => false
            | true, _ => true
          if isThere then session.fail 126 s!"{name}: Permission denied"
          else session.fail 127 s!"{name}: not found"

/-- Where a stream goes. -/
inductive Sink where
  | output
  | errors
  | file (path : String)
  deriving DecidableEq, Repr

/-- Where the streams of a command go, and what it reads. -/
structure Streams where
  output : Sink
  errors : Sink
  input : Option (List Char)

namespace Streams

def of (streams : Streams) (stream : Nat) : Sink :=
  if stream = 2 then streams.errors else streams.output

def set (streams : Streams) (stream : Nat) (sink : Sink) : Streams :=
  if stream = 2 then { streams with errors := sink } else { streams with output := sink }

/-- The place behind the name of a file. -/
def sinkOf (streams : Streams) (path : String) : Sink :=
  match path with
  | "/dev/stdout" => streams.output
  | "/dev/stderr" => streams.errors
  | path => .file path

end Streams

def Sink.receive (sink : Sink) (text : List Char) (session : Session) : Session :=
  match sink with
  | output => if text.isEmpty then session else session.say text
  | errors =>
      if text.isEmpty then session else { session with errors := text :: session.errors }
  | file path =>
      let before := ((session.files.find? (·.1 = path)).map (·.2)).getD []
      { session with
        files := (path, before ++ text) :: session.files.filter (·.1 ≠ path) }

/-- Open the files of redirections; `none` if one of them cannot be opened. -/
def openStreams (surroundings : Surroundings) (answer : Answer) :
    List Redirection → Streams → Session → Option Streams × Session
  | [], streams, session => (some streams, session)
  | .copy stream other :: rest, streams, session =>
      openStreams surroundings answer rest (streams.set stream (streams.of other)) session
  | .source word :: rest, streams, session =>
      let (path, session) := expandWhole answer session word
      match surroundings.contents session (String.ofList path) with
      | .ok text =>
          openStreams surroundings answer rest { streams with input := some text } session
      | .error _ =>
          (none, session.fail 2 s!"cannot open {String.ofList path}: No such file")
  | .target stream adds word :: rest, streams, session =>
      let (path, session) := expandWhole answer session word
      let path := String.ofList path
      match Command.writeFault? surroundings.readFile path with
      | some .missing => (none, session.fail 2 s!"cannot create {path}: Directory nonexistent")
      | some error => (none, session.fail 2 s!"cannot create {path}: {error.reason.1}")
      | none =>
          let sink := streams.sinkOf path
          let before := if adds then (surroundings.contents session path).toOption.getD [] else []
          let session := match sink with
            | .file path =>
                { session with files := (path, before) :: session.files.filter (·.1 ≠ path) }
            | _ => session
          openStreams surroundings answer rest (streams.set stream sink) session

/-- Do something while streams go elsewhere. -/
def redirected (surroundings : Surroundings) (answer : Answer) (redirections : List Redirection)
    (body : Session → Session) (session : Session) : Session :=
  match openStreams surroundings answer redirections ⟨.output, .errors, none⟩ session with
  | (none, session) => session
  | (some streams, session) =>
      let input := streams.input.getD session.input
      let inner := body { session with input, output := [], errors := [] }
      let session : Session :=
        { inner with
          input := if streams.input.isSome then session.input else inner.input
          output := session.output, errors := session.errors }
      streams.errors.receive inner.errors.reverse.flatten
        (streams.output.receive inner.written session)

/-- Variables that are set in front of a command. -/
def assignAll (answer : Answer) (assignments : List (String × Word)) (session : Session) :
    Session :=
  assignments.foldl (fun session (name, word) =>
    let (value, session) := expandWhole answer session word
    session.store name value) session

/-- One round for every field. -/
def throughFields (name : String) (body : Session → Session) : List (List Char) → Session → Session
  | [], session => session
  | field :: rest, session =>
      if session.isOver then session
      else throughFields name body rest (body (session.store name field))

def Line.run (surroundings : Surroundings) (answer : Answer) : Line → Session → Session
  | .nothing, session => session
  | .simple assignments words redirections, session =>
      let (fields, session) := expandAll answer (session.finish session.status) words
      match fields with
      | [] =>
          redirected surroundings answer redirections (·.finish 0)
            (assignAll answer assignments session)
      | name :: arguments =>
          let values := session.values
          let session := redirected surroundings answer redirections
            (runCommand surroundings (String.ofList name) arguments)
            (assignAll answer assignments session)
          if assignments.isEmpty then session else { session with values }
  | .group inner isApart redirections, session =>
      let after := redirected surroundings answer redirections
        (inner.run surroundings answer) session
      if isApart then
        { after with values := session.values, isOver := session.isOver }
      else after
  | .piped left right, session =>
      let first := left.run surroundings answer { session with output := [] }
      let second := right.run surroundings answer
        { first with input := first.written, output := session.output, isOver := false
                     values := session.values }
      { second with
        input := first.input, values := session.values, isOver := session.isOver }
  | .negated inner, session =>
      let session := inner.run surroundings answer session
      session.finish (if session.status = 0 then 1 else 0)
  | .both left right, session =>
      let session := left.run surroundings answer session
      if session.isOver || session.status ≠ 0 then session
      else right.run surroundings answer session
  | .either left right, session =>
      let session := left.run surroundings answer session
      if session.isOver || session.status = 0 then session
      else right.run surroundings answer session
  | .sequence left right, session =>
      let session := left.run surroundings answer session
      if session.isOver then session else right.run surroundings answer session
  | .branch test yes no, session =>
      let session := test.run surroundings answer session
      if session.isOver then session
      else if session.status = 0 then yes.run surroundings answer (session.finish 0)
      else no.run surroundings answer (session.finish 0)
  | .forEach name words body, session =>
      let (fields, session) := expandAll answer session words
      throughFields name (body.run surroundings answer) fields (session.finish 0)

/-- Carry out a line in a session. `fuel` bounds the depth of lines within
lines. -/
def runIn (surroundings : Surroundings) : (fuel : Nat) → List Char → Session → Session
  | 0, _, session => session
  | fuel + 1, text, session =>
      match Line.parse text with
      | .error fault => session.fail 2 fault.message
      | .ok line =>
          let answer : Answer := fun text session =>
            let after := runIn surroundings fuel text { session with output := [] }
            (after.written, { after with
              output := session.output, values := session.values
              isOver := session.isOver })
          line.run surroundings answer session

/-- More lines within lines than are ever written. -/
def depthLimit : Nat := 20

/-- What a line does with its input. -/
def run (surroundings : Surroundings) (settings : List (String × String)) (line input : String) :
    Execution :=
  let session := runIn surroundings depthLimit line.toList (.start settings input.toList)
  ⟨session.status, String.ofList session.written, String.ofList session.errors.reverse.flatten,
    ⟨session.spent⟩⟩

example : run ⟨fun _ => .error .missing, fun _ => none⟩ [] "echo no>&2; nope" "" =
    ⟨127, "", "no\nsh: 1: nope: not found\n", ⟨0⟩⟩ := by decide +kernel

end Dilemma.Shell
