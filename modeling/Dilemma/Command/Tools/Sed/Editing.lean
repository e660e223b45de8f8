import Dilemma.Command.Tools.Pattern.Replacement
import Dilemma.Command.Tools.Sed.Input
import Dilemma.Command.Tools.Sed.Script
import Dilemma.Text.Integer

/-! # Editing

A script is gone through once for every line. The line is kept in a space of
its own; a second space holds text from one line to the next. What goes on is
a sequence of steps, so that a script that jumps back forever is a script for
which no number of steps is enough. -/

namespace Dilemma.Sed

/-! ## The editor -/

/-- What is written when the script has been gone through. -/
inductive Addition where
  | text (value : List Char)
  | file (path : String)
  /-- The line of a file, counted from zero. -/
  | line (path : String) (number : Nat)

/-- A text, and whether it is written with the mark that ends a line. -/
structure Space where
  text : List Char
  ends : Bool

namespace Space

/-- Another text on a line of its own. -/
def append (mark : Char) (space other : Space) : Space :=
  ⟨space.text ++ mark :: other.text, other.ends⟩

def firstText (mark : Char) (space : Space) : List Char := space.text.takeWhile (· ≠ mark)

/-- What comes after the first line, `none` if there is only one. -/
def laterText? (mark : Char) (space : Space) : Option (List Char) :=
  match space.text.dropWhile (· ≠ mark) with
  | [] => none
  | _ :: rest => some rest

/-- The first line has an end if there is another one. -/
def first (mark : Char) (space : Space) : Space :=
  ⟨space.firstText mark, space.ends || (space.laterText? mark).isSome⟩

end Space

/-- How far an instruction is in its range of lines. -/
inductive Range where
  /-- The range goes on, perhaps to a line whose number is known. -/
  | inside (last : Option Nat)
  /-- The range cannot begin again. -/
  | over
  deriving DecidableEq

structure Editor where
  input : Input
  /-- The line, changed so far. -/
  space : Space
  held : Space
  /-- The number of the line. -/
  number : Nat
  written : List Char
  /-- The last line that has been written was not ended. -/
  unfinished : Bool
  /-- What has been written to the output while files are replaced. -/
  shown : List Char
  /-- The files that commands name whose last line was not ended. -/
  unfinishedFiles : List String
  complaints : List Char
  additions : List Addition
  /-- The files of which lines have been read, once for every line. -/
  readFrom : List String
  /-- A substitution has been made since a line was read. -/
  changed : Bool
  /-- The ranges that have begun, by the places of their instructions. -/
  ranges : List (Nat × Range)
  lastPattern : Option Matcher
  /-- How long commands have taken. -/
  spent : Duration

namespace Editor

def start (input : Input) : Editor :=
  ⟨input, ⟨[], true⟩, ⟨[], true⟩, 0, [], false, [], [], [], [], [], false, [], none, ⟨0⟩⟩

def mark (editor : Editor) : Char := editor.input.mark

/-- Text that is written after the end of the previous line. -/
def write (editor : Editor) (text : List Char) : Editor :=
  { editor with
    written := editor.written ++ (if editor.unfinished then [editor.mark] else []) ++ text
    unfinished := false }

/-- The last line is ended if it has not been. -/
def endLine (editor : Editor) : Editor := editor.write []

def writeLine (editor : Editor) (line : Space) : Editor :=
  if line.ends then editor.write (line.text ++ [editor.mark])
  else { editor.write line.text with unfinished := true }

/-- A text that ends with a line feed is written like a line. -/
def writeText (editor : Editor) (text : List Char) : Editor :=
  if text.isEmpty then editor else editor.write (text.dropLast ++ [editor.mark])

/-- Two files are the streams of the tool itself. Others cannot be seen as long
as the tool is at work. -/
def writeTo (editor : Editor) (path : String) (line : Space) : Editor :=
  let unfinished := editor.unfinishedFiles.contains path
  let text := (if unfinished then [editor.mark] else []) ++ line.text ++
    (if line.ends then [editor.mark] else [])
  let others := editor.unfinishedFiles.filter (· ≠ path)
  let editor := { editor with unfinishedFiles := if line.ends then others else path :: others }
  match path, editor.input.isInPlace with
  | "/dev/stdout", false => { editor with written := editor.written ++ text }
  | "/dev/stdout", true => { editor with shown := editor.shown ++ text }
  | "/dev/stderr", _ => { editor with complaints := editor.complaints ++ text }
  | _, _ => editor

/-- What the tool is given is read under a name too, unless the lines are from
there already. -/
def contentsOf (editor : Editor) (path : String) : Option (List Char) × Editor :=
  if path = "/dev/stdin" then
    let shelf := editor.input.shelf
    let input := { editor.input with shelf := { shelf with console := [] } }
    (some shelf.console, { editor with input })
  else ((editor.input.shelf.read path).toOption, editor)

/-- A file that cannot be read adds nothing, but the line before is ended. -/
def writeAddition (editor : Editor) : Addition → Editor
  | .text value => editor.write value
  | .file path =>
      match editor.contentsOf path with
      | (some contents, editor) => editor.write contents
      | (none, editor) => editor.endLine
  | .line path number =>
      match editor.input.shelf.read path with
      | .ok contents =>
          match (Text.linesBy editor.mark contents).drop number with
          | [] => editor
          | [line] =>
              let ends := contents.getLast? = some editor.mark
              editor.write (if ends then line ++ [editor.mark] else line)
          | line :: _ => editor.write (line ++ [editor.mark])
      | .error _ => editor

def writeAdditions (editor : Editor) : Editor :=
  editor.additions.foldl writeAddition { editor with additions := [] }

/-! ### Reading lines -/

/-- A file that is replaced holds from now on what has been written. -/
def leaveFile (editor : Editor) : Editor :=
  let input := editor.input
  if input.isInPlace && !input.name.isEmpty then
    { editor with
      input := { input with shelf := input.shelf.put input.name editor.written }
      written := [], unfinished := false }
  else editor

/-- Where files are separate, each of them begins anew. -/
def enterFile (editor : Editor) (name : String) (waiting : List String) : Editor :=
  let editor := editor.leaveFile
  let editor := if editor.input.isSeparate then
      { editor.endLine with number := 0, held := ⟨[], true⟩, ranges := [], readFrom := [] }
    else editor
  { editor with input := editor.input.openFile name waiting }

/-- Take the next line, after some text; `none` if there is none. `fuel`
bounds the number of files. -/
def advanceWithin (before : List Char) : (fuel : Nat) → Editor → Option Editor × Editor
  | 0, editor => (none, editor)
  | fuel + 1, editor =>
      match editor.input.take?, editor.input.waiting with
      | some (line, ends, input), _ =>
          (some { editor with
            input, space := ⟨before ++ line, ends⟩, number := editor.number + 1, changed := false },
            editor)
      | none, [] => (none, editor)
      | none, name :: waiting =>
          if editor.input.isOver then (none, editor)
          else advanceWithin before fuel (editor.enterFile name waiting)

def advance (editor : Editor) (before : List Char) : Option Editor × Editor :=
  advanceWithin before (editor.input.waiting.length + 1) editor

def atLast (editor : Editor) : Bool × Editor :=
  let (isLast, input) := editor.input.atLast
  (isLast, { editor with input })

def setText (editor : Editor) (text : List Char) : Editor :=
  { editor with space := { editor.space with text } }

/-! ## Selections -/

/-- A sought pattern is remembered. It is an error to ask for the last one
before there is one. -/
def resolve (editor : Editor) (sought : Sought) : Option (Matcher × Editor) :=
  match sought with
  | some pattern => some (pattern, { editor with lastPattern := some pattern })
  | none => editor.lastPattern.map fun pattern => (pattern, editor)

/-- What is to be done in line zero is done when the first line comes. -/
def isAt (editor : Editor) : Address → Option (Bool × Editor)
  | .line number => some (editor.number = max number 1, editor)
  | .every first step =>
      some (first ≤ editor.number && (editor.number - first) % step = 0, editor)
  | .last => some editor.atLast
  | .found sought => do
      let (pattern, editor) ← editor.resolve sought
      return (pattern.occursIn editor.space.text, editor)

/-! ### Ranges -/

/-- The line with which a range ends that begins here, if that is known. -/
def rangeEnd (editor : Editor) : Limit → Option Nat
  | .address (.line number) => some number
  | .address (.every first step) =>
      some (if editor.number ≤ first then first
        else editor.number + (step - 1) - (editor.number - first + (step - 1)) % step)
  | .address _ => none
  | .after count => some (editor.number + count)
  | .multiple step =>
      some (if step = 0 then editor.number else (editor.number / step + 1) * step)

def setRange (editor : Editor) (place : Nat) (range : Option Range) : Editor :=
  { editor with
    ranges := (range.toList.map (place, ·)) ++ editor.ranges.filter (·.1 ≠ place) }

def range? (editor : Editor) (place : Nat) : Option Range :=
  (editor.ranges.find? (·.1 = place)).map (·.2)

def isInside (editor : Editor) (place : Nat) : Bool :=
  match editor.range? place with
  | some (.inside _) => true
  | _ => false

/-- A range that begins at a line by its number does so only once. -/
def leaveRange (editor : Editor) (place : Nat) (first : Address) : Editor :=
  match first with
  | .line _ => editor.setRange place (some .over)
  | _ => editor.setRange place none

/-- The range begins here. It is left at once if it ends here too. A range
between two numbers can lie before the line. -/
def beginRange (editor : Editor) (place : Nat) (first : Address) (limit : Limit) :
    Bool × Editor :=
  match editor.rangeEnd limit with
  | none => (true, editor.setRange place (some (.inside none)))
  | some last =>
      if editor.number < last then (true, editor.setRange place (some (.inside (some last))))
      else
        let isBetween : Bool := match first, limit with
          | .line number, .address (.line last) =>
              editor.number = number || editor.number ≤ last
          | _, _ => true
        (isBetween, editor.leaveRange place first)

/-- The range is being gone through. A line behind its end still belongs to it
unless the end is given by its number. -/
def continueRange (editor : Editor) (place : Nat) (first : Address) (last : Option Nat)
    (limit : Limit) : Option (Bool × Editor) :=
  match last, limit with
  | some last, limit =>
      if editor.number < last then some (true, editor)
      else
        let isIn : Bool := match limit with
          | .address (.line _) => editor.number = last
          | _ => true
        some (isIn, editor.leaveRange place first)
  | none, .address address => do
      let (ends, editor) ← editor.isAt address
      return (true, if ends then editor.leaveRange place first else editor)
  | none, _ => some (true, editor)

/-- Line zero lies before the first line, so that a range from there on can
end in the first line. A line that is passed over begins a range too. -/
def isSelected (editor : Editor) (place : Nat) (selection : Selection) :
    Option (Bool × Editor) :=
  match selection.first, selection.limit with
  | none, _ => some (true, editor)
  | some first, none => editor.isAt first
  | some first, some limit =>
      match editor.range? place, first with
      | some .over, _ => some (false, editor)
      | some (.inside last), _ => editor.continueRange place first last limit
      | none, .line 0 =>
          (editor.setRange place (some (.inside none))).continueRange place first none limit
      | none, .line number =>
          some (if number ≤ editor.number then editor.beginRange place first limit
            else (false, editor))
      | none, _ => do
          let (begins, editor) ← editor.isAt first
          return if begins then editor.beginRange place first limit else (false, editor)

end Editor

/-! ## Substitution -/

/-- How the case of the next character and of those after it is changed. -/
structure Casing where
  next : Option CaseChange
  all : CaseChange

def Casing.change (casing : Casing) : CaseChange → Casing
  | .upperNext => { casing with next := some .upper }
  | .lowerNext => { casing with next := some .lower }
  | change => ⟨none, change⟩

def caseChar (change : CaseChange) (char : Char) : Char :=
  match change with
  | .upper => char.toUpper
  | .lower => char.toLower
  | _ => char

/-- Characters in the case that is asked for. -/
def Casing.apply (casing : Casing) : List Char → List Char × Casing
  | [] => ([], casing)
  | char :: rest =>
      (caseChar (casing.next.getD casing.all) char :: rest.map (caseChar casing.all),
        { casing with next := none })

def expandFrom (casing : Casing) (found : Found) : List Part → List Char
  | [] => []
  | .case change :: rest => expandFrom (casing.change change) found rest
  | .char char :: rest =>
      let (text, casing) := casing.apply [char]
      text ++ expandFrom casing found rest
  | .group number :: rest =>
      let (text, casing) := casing.apply (found.group number)
      text ++ expandFrom casing found rest

def expand (found : Found) (parts : List Part) : List Char :=
  expandFrom ⟨none, .stop⟩ found parts

/-! ## Commands -/

/-- What happens after a command. -/
inductive Continuation where
  | onward
  | jump (label : String)
  /-- The line is written, if it is to be, and the next one is read. -/
  | finish (prints : Bool)
  /-- The script is gone through again with what is left of the line. -/
  | again
  | quit (status : Nat) (prints : Bool)
  /-- There is no pattern to look for again. -/
  | fail

/-- The last pair of a character counts. -/
def exchangeChar (pairs : List (Char × Char)) (char : Char) : Char :=
  ((pairs.reverse.find? (·.1 = char)).map (·.2)).getD char

/-- A character that would not be seen is written as an escape. -/
def visible (char : Char) : List Char :=
  let letter? : Option Char := match char with
    | '\\' => '\\'
    | '\x07' => 'a'
    | '\x08' => 'b'
    | '\x0c' => 'f'
    | '\n' => 'n'
    | '\r' => 'r'
    | '\t' => 't'
    | '\x0b' => 'v'
    | _ => none
  match letter? with
  | some letter => ['\\', letter]
  | none =>
      if CharClass.contains [(' ', '~')] char then [char]
      else
        let code := Nat.toDigits 8 char.toNat
        '\\' :: List.replicate (3 - code.length) '0' ++ code

/-- Visible characters behind so many others on the line. A backslash, for
which there has to be room too, ends a line that goes on; a line of no width
never ends. -/
def foldedFrom (mark : Char) (width : Nat) : (column : Nat) → List Char → List Char
  | _, [] => ['$', mark]
  | column, char :: rest =>
      let shown := visible char
      if 0 < width ∧ width ≤ column + shown.length then
        ['\\', mark] ++ shown ++ foldedFrom mark width shown.length rest
      else shown ++ foldedFrom mark width (column + shown.length) rest

example : foldedFrom '\n' 5 0 "ab\tc\\".toList = "ab\\t\\\nc\\\\$\n".toList := by
  decide +kernel

/-- What a script is applied with. -/
structure Conditions where
  script : Script
  /-- Lines are written only by commands. -/
  quiet : Bool
  /-- At the end of the input a line that waits for another is dropped. -/
  strict : Bool
  /-- The width of lines in which all characters are visible. -/
  width : Nat
  start : (line input : String) → Execution

namespace Conditions

/-- Start a command. It can read what the tool is given as long as that has not
been read. -/
def carryOut (conditions : Conditions) (editor : Editor) (line : List Char) :
    List Char × Editor :=
  let input := String.ofList editor.input.shelf.console
  let execution := conditions.start (String.ofList (line.takeWhile (· ≠ '\x00'))) input
  (execution.output.toList,
    { editor with
      complaints := editor.complaints ++ execution.complaint.toList
      spent := ⟨editor.spent.nanoseconds + execution.duration.nanoseconds⟩ })

/-- The line is a command, and what it has to say takes its place. -/
def startLine (conditions : Conditions) (editor : Editor) : Editor :=
  let (text, editor) := conditions.carryOut editor editor.space.text
  editor.setText (if text.getLast? = some editor.mark then text.dropLast else text)

def substitute (conditions : Conditions) (editor : Editor) (substitution : Substitution) :
    Editor × Continuation :=
  match editor.resolve substitution.sought with
  | none => (editor, .fail)
  | some (pattern, editor) =>
      let replacement : Matcher.Replacement := ⟨substitution.first, substitution.everywhere,
        fun found => expand found substitution.parts⟩
      match pattern.replaceIn replacement editor.space.text with
      | (_, 0) => (editor, .onward)
      | (text, _) =>
          let editor := { editor.setText text with changed := true }
          let printsBefore := substitution.starts && substitution.prints = some false
          let editor := if printsBefore then editor.writeLine editor.space else editor
          let editor := if substitution.starts then conditions.startLine editor else editor
          let printsAfter := substitution.prints.isSome && !printsBefore
          let editor := if printsAfter then editor.writeLine editor.space else editor
          match substitution.target with
          | some path => (editor.writeTo path editor.space, .onward)
          | none => (editor, .onward)

/-- Go on with the next line; without one the script ends. -/
def next (conditions : Conditions) (editor : Editor) : Editor × Continuation :=
  match editor.atLast with
  | (true, editor) => (editor, .finish true)
  | (false, editor) =>
      let editor := if conditions.quiet then editor else editor.writeLine editor.space
      match editor.writeAdditions.advance [] with
      | (some editor, _) => (editor, .onward)
      | (none, editor) => (editor, .finish false)

def appendNext (conditions : Conditions) (editor : Editor) : Editor × Continuation :=
  match editor.atLast with
  | (true, editor) => (editor, .finish !conditions.strict)
  | (false, editor) =>
      match editor.writeAdditions.advance (editor.space.text ++ [editor.mark]) with
      | (some editor, _) => (editor, .onward)
      | (none, editor) => (editor, .finish false)

/-- Do what a command says. `inRange` tells that more lines of the command's
range follow. -/
def apply (conditions : Conditions) (inRange : Bool) (editor : Editor) (command : Command) :
    Editor × Continuation :=
  match command with
  | .openBlock | .closeBlock | .label _ | .nothing => (editor, .onward)
  | .jump name => (editor, .jump name)
  | .jumpIfChanged name =>
      if editor.changed then ({ editor with changed := false }, .jump name) else (editor, .onward)
  | .jumpUnlessChanged name =>
      if editor.changed then ({ editor with changed := false }, .onward) else (editor, .jump name)
  | .substitute substitution => conditions.substitute editor substitution
  | .exchangeChars pairs =>
      (editor.setText (editor.space.text.map (exchangeChar pairs)), .onward)
  | .append text => ({ editor with additions := editor.additions ++ [.text text] }, .onward)
  | .insert text => (editor.writeText text, .onward)
  | .change text => (if inRange then editor else editor.writeText text, .finish false)
  | .print => (editor.writeLine editor.space, .onward)
  | .printFirst => (editor.writeLine (editor.space.first editor.mark), .onward)
  | .printNumber => (editor.writeText (Text.natural editor.number ++ ['\n']), .onward)
  | .printSource => (editor.writeText (editor.input.name.toList ++ ['\n']), .onward)
  | .printVisibly width =>
      let width := width.getD conditions.width
      (editor.write (foldedFrom editor.mark width 0 editor.space.text), .onward)
  | .delete => (editor, .finish false)
  | .deleteFirst =>
      match editor.space.laterText? editor.mark with
      | some rest => (editor.setText rest, .again)
      | none => (editor, .finish false)
  | .clear => (editor.setText [], .onward)
  | .next => conditions.next editor
  | .appendNext => conditions.appendNext editor
  | .hold => ({ editor with held := editor.space }, .onward)
  | .appendToHold => ({ editor with held := editor.held.append editor.mark editor.space }, .onward)
  | .get => ({ editor with space := editor.held }, .onward)
  | .appendHeld => ({ editor with space := editor.space.append editor.mark editor.held }, .onward)
  | .exchange => ({ editor with space := editor.held, held := editor.space }, .onward)
  | .quit status prints => (editor, .quit status prints)
  | .start [] =>
      let editor := conditions.startLine editor
      ({ editor with space := { editor.space with ends := true } }, .onward)
  | .start line =>
      let (text, editor) := conditions.carryOut editor line
      (editor.write text, .onward)
  | .readLine "/dev/stdin" =>
      match editor.input.isConsole editor.input.name, editor.input.take? with
      | true, some (line, ends, input) =>
          let text := if ends then line ++ [editor.mark] else line
          ({ editor with input, additions := editor.additions ++ [.text text] }, .onward)
      | _, _ => (editor, .onward)
  | .readLine path =>
      let addition := Addition.line path (editor.readFrom.count path)
      ({ editor with
          additions := editor.additions ++ [addition], readFrom := path :: editor.readFrom },
        .onward)
  | .insertFile path => (editor.writeAddition (.file path), .onward)
  | .readFile path => ({ editor with additions := editor.additions ++ [.file path] }, .onward)
  | .writeFile path => (editor.writeTo path editor.space, .onward)
  | .writeFirst path => (editor.writeTo path (editor.space.first editor.mark), .onward)

end Conditions

/-! ## Going through a script -/

inductive Ending where
  /-- The lines have come to an end. -/
  | ended
  | quit (status : Nat)
  | noPattern
  deriving DecidableEq, Repr

namespace Conditions

/-- The end of a line: it is written, and then what has been added to it. -/
def finishLine (conditions : Conditions) (editor : Editor) (prints : Bool) : Editor :=
  let editor :=
    if prints && !conditions.quiet then editor.writeLine editor.space else editor
  editor.writeAdditions

/-- Begin with the next line, or end. -/
def beginLine (editor : Editor) : Editor × (Nat ⊕ Ending) :=
  match editor.advance [] with
  | (some editor, _) => (editor, .inl 0)
  | (none, editor) => (editor, .inr .ended)

/-- One step from a place in the script: the next place, or the end. -/
def step (conditions : Conditions) (place : Nat) (editor : Editor) :
    Editor × (Nat ⊕ Ending) :=
  match conditions.script[place]? with
  | none => beginLine (conditions.finishLine editor true)
  | some instruction =>
      match editor.isSelected place instruction.selection with
      | none => (editor, .inr .noPattern)
      | some (selected, editor) =>
          if selected = instruction.selection.negated then
            if instruction.command = .openBlock then
              (editor, .inl (Script.afterBlock 0 (place + 1) (conditions.script.drop (place + 1))))
            else (editor, .inl (place + 1))
          else
            let inRange := !instruction.selection.negated && editor.isInside place
            match conditions.apply inRange editor instruction.command with
            | (editor, .onward) => (editor, .inl (place + 1))
            | (editor, .jump name) =>
                (editor, .inl ((conditions.script.labelled? name).getD conditions.script.length))
            | (editor, .finish prints) => beginLine (conditions.finishLine editor prints)
            | (editor, .again) => (editor, .inl 0)
            | (editor, .quit status prints) =>
                if prints then
                  ((conditions.finishLine editor true).endLine, .inr (.quit status))
                else (editor, .inr (.quit status))
            | (editor, .fail) => (editor, .inr .noPattern)

/-- What a script that ends at all can need for a few lines: so many steps, and
so many characters in the lines that the steps are for. -/
def stepLimit : Nat := 200000
def effortLimit : Nat := 20000000

/-- Steps until the end, `none` if `fuel` of them are not enough, or if they
take more effort than is left. -/
def run (conditions : Conditions) : (fuel effort place : Nat) → Editor → Option (Editor × Ending)
  | 0, _, _, _ => none
  | fuel + 1, effort, place, editor =>
      match conditions.step place editor with
      | (editor, .inr ending) => some (editor, ending)
      | (editor, .inl place) =>
          let size := editor.space.text.length
          if effort < size then none else conditions.run fuel (effort - size) place editor

/-- Without any line nothing is done. -/
def edit (conditions : Conditions) (input : Input) : Option (Editor × Ending) :=
  match beginLine (.start input) with
  | (editor, .inl place) => conditions.run stepLimit effortLimit place editor
  | (editor, .inr ending) => some (editor, ending)

end Conditions

end Dilemma.Sed
