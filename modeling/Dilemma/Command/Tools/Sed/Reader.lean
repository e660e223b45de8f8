import Dilemma.Command.Tools.Sed.Escape
import Dilemma.Command.Tools.Sed.Script

/-! # Reading scripts

A script is read from one or more expressions. A fault is reported with the
number of characters that have been read of its expression. -/

namespace Dilemma.Sed

/-! ## Faults -/

inductive Fault where
  | unknownCommand (char : Char)
  | missingCommand
  | extraCharacters
  | unexpectedComma
  | unexpectedClose
  | closeWithAddress
  | unmatchedOpen
  | manyNegations
  | lineZero
  | stepFirst
  | unfinishedAddress
  | unfinishedSubstitution
  | unfinishedExchange
  | unknownOption
  | manyPrints
  | manyGlobals
  | manyNumbers
  | zeroNumber
  | missingGroup (number : Nat)
  | differentLengths
  | expectedText
  /-- The text goes on in the next expression, if there is one. -/
  | unfinishedText
  | missingText
  | escapedControl
  | forbidden
  | emptyLabel
  | labelWithAddress
  | commentWithAddress
  | oneAddress
  | missingFileName
  | newerVersion
  | emptyWithModifiers
  | pattern (error : PatternError)
  /-- A class looks like the name of one. -/
  | bareClassName
  deriving DecidableEq, Repr

def Fault.message : Fault → String
  | unknownCommand char => s!"unknown command: \x60{char}'"
  | missingCommand => "missing command"
  | extraCharacters => "extra characters after command"
  | unexpectedComma => "unexpected \x60,'"
  | unexpectedClose => "unexpected \x60\x7d'"
  | closeWithAddress => "\x60\x7d' doesn't want any addresses"
  | unmatchedOpen => "unmatched \x60\x7b'"
  | manyNegations => "multiple \x60!'s"
  | lineZero => "invalid usage of line address 0"
  | stepFirst => "invalid usage of +N or ~N as first address"
  | unfinishedAddress => "unterminated address regex"
  | unfinishedSubstitution => "unterminated \x60s' command"
  | unfinishedExchange => "unterminated \x60y' command"
  | unknownOption => "unknown option to \x60s'"
  | manyPrints => "multiple \x60p' options to \x60s' command"
  | manyGlobals => "multiple \x60g' options to \x60s' command"
  | manyNumbers => "multiple number options to \x60s' command"
  | zeroNumber => "number option to \x60s' command may not be zero"
  | missingGroup number => s!"invalid reference \\{number} on \x60s' command's RHS"
  | differentLengths => "strings for \x60y' command are different lengths"
  | expectedText | unfinishedText => "expected \\ after \x60a', \x60c' or \x60i'"
  | missingText => "incomplete command"
  | escapedControl => "recursive escaping after \\c not allowed"
  | forbidden => "e/r/w commands disabled in sandbox mode"
  | emptyLabel => "\":\" lacks a label"
  | labelWithAddress => ": doesn't want any addresses"
  | commentWithAddress => "comments don't accept any addresses"
  | oneAddress => "command only uses one address"
  | missingFileName => "missing filename in r/R/w/W commands"
  | newerVersion => "expected newer version of sed"
  | emptyWithModifiers => "cannot specify modifiers on empty regexp"
  | pattern error => error.message
  | bareClassName => "character class syntax is [[:space:]], not [:space:]"

/-! ## The rest of an expression

Reading passes the rest along. A fault keeps it, because it tells how far
reading has come. -/

abbrev Reading := StateT (List Char) (Except (Fault × List Char))

def fail {α : Type} (fault : Fault) : Reading α := fun rest => .error (fault, rest)

def nextChar : Reading (Option Char) := fun rest =>
  match rest with
  | [] => .ok (none, [])
  | char :: rest => .ok (some char, rest)

def peek : Reading (Option Char) := fun rest => .ok (rest.head?, rest)

/-- The characters that satisfy `wanted`, up to the first that does not. -/
def readWhile (wanted : Char → Bool) : Reading (List Char) := fun rest =>
  .ok (rest.takeWhile wanted, rest.dropWhile wanted)

def isSpace (char : Char) : Bool := CharClass.contains CharClass.blanks char

def skipBlanks : Reading Unit := do
  let _ ← readWhile fun char => char = ' ' || char = '\t'

/-- The next character that is not blank. -/
def nextMark : Reading (Option Char) := do
  skipBlanks
  nextChar

def isDigit (char : Char) : Bool := (Text.digitValue? char).isSome

/-- A number, zero if there are no digits. -/
def readNumber : Reading Nat := do
  return (Text.digits? (← readWhile isDigit)).getD 0

/-- After a command comes a line feed, a semicolon, or what ends a block. -/
def readEnd : Reading Unit := do
  skipBlanks
  match ← peek with
  | none | some '\x7d' | some '#' => return ()
  | some char =>
      let _ ← nextChar
      if char = '\n' ∨ char = ';' then return () else fail .extraCharacters

/-! ## Delimited texts -/

/-- What a backslash and the next character stand for between delimiters. A
line feed is written with a letter in patterns, and a delimiter loses its
backslash. -/
def delimitedEscape (delimiter : Char) (isPattern : Bool) (char : Char) : List Char :=
  if char = 'n' ∧ isPattern then ['\n']
  else if char = '\n' then [char]
  else if char = delimiter ∧ (isPattern ∨ char ≠ '&') then [char]
  else ['\\', char]

/-- Where a class of characters is being read: in a named part of it, a mark
after the inner bracket is waited for at both ends. -/
inductive ClassPlace where
  | plain
  | opened
  | named (mark : Char)
  | marked (mark : Char)

/-- The place after a character that does not close the class. -/
def ClassPlace.after (char : Char) : ClassPlace → ClassPlace
  | plain => if char = '[' then opened else plain
  | opened =>
      if char = '.' ∨ char = ':' ∨ char = '=' then named char
      else if char = '[' then opened
      else plain
  | named mark => if char = mark then marked mark else named mark
  | marked mark => if char = ']' then plain else if char = '[' then marked mark else named mark

/-- The class up to its closing bracket, `none` if there is none on the line,
and the rest. -/
def classBody : ClassPlace → List Char → Option (List Char) × List Char
  | _, [] => (none, [])
  | place, char :: rest =>
      let closes : Bool := match place with
        | .plain | .opened => char = ']'
        | _ => false
      if char = '\n' then (none, char :: rest)
      else if closes then (some [char], rest)
      else
        let (text, rest) := classBody (place.after char) rest
        (text.map (char :: ·), rest)

/-- A circumflex and a bracket that come first belong to the class. -/
def bracketed (text : List Char) : Option (List Char) × List Char :=
  let start := match text with
    | '^' :: ']' :: _ => 2
    | '^' :: _ | ']' :: _ => 1
    | _ => 0
  let (body, rest) := classBody .plain (text.drop start)
  (body.map fun body => '[' :: (text.take start ++ body), rest)

example : bracketed "]/]/".toList = (some "[]/]".toList, ['/']) := by decide +kernel

/-- The text up to the delimiter, `none` if there is none on the line, and the
rest. A class in a pattern can hold delimiters. `fuel` bounds the number of
characters. -/
def delimited (delimiter : Char) (isPattern : Bool) :
    (fuel : Nat) → List Char → Option (List Char) × List Char
  | 0, rest => (none, rest)
  | fuel + 1, rest =>
      let andThen (taken : List Char) (rest : List Char) : Option (List Char) × List Char :=
        let (text, rest) := delimited delimiter isPattern fuel rest
        (text.map (taken ++ ·), rest)
      match rest with
      | [] => (none, [])
      | char :: rest =>
          if char = delimiter then (some [], rest)
          else if char = '\n' then (none, char :: rest)
          else if char = '[' ∧ isPattern then
            match bracketed rest with
            | (some taken, rest) => andThen taken rest
            | (none, rest) => (none, rest)
          else match char, rest with
            | '\\', [] => (none, [])
            | '\\', char :: rest => andThen (delimitedEscape delimiter isPattern char) rest
            | char, rest => andThen [char] rest

def readDelimited (delimiter : Char) (isPattern : Bool) (fault : Fault) :
    Reading (List Char) := fun rest =>
  match delimited delimiter isPattern (rest.length + 1) rest with
  | (some text, rest) => .ok (text, rest)
  | (none, rest) => .error (fault, rest)

/-! ## Patterns -/

/-- A text with the characters in it that escapes stand for. -/
def readInserted (use : TextUse) (strict : Bool) (text : List Char) : Reading (List Char) :=
  match inserted? use strict text with
  | some text => return text
  | none => fail .escapedControl

/-- The characters of a class begin and end with a colon, and are not all
colons. Ranges and named classes are no mistake. -/
def looksLikeName (body : List Char) : Bool :=
  let named := (body.zip (body.drop 1)).any fun (char, mark) =>
    char = '[' && [':', '.', '='].contains mark
  body.head? = some ':' && body.getLast? = some ':' && body.any (· ≠ ':') &&
    !named && !body.contains '-'

/-- Whether a class looks like the name of one. `fuel` bounds the number of
characters. -/
def hasBareClassName : (fuel : Nat) → List Char → Bool
  | 0, _ | _, [] => false
  | fuel + 1, '\\' :: _ :: rest => hasBareClassName fuel rest
  | fuel + 1, '[' :: rest =>
      match bracketed rest with
      | (some taken, rest) =>
          let body := (taken.drop 1).dropLast
          let body := if body.head? = some '^' then body.drop 1 else body
          looksLikeName body || hasBareClassName fuel rest
      | (none, _) => false
  | fuel + 1, _ :: rest => hasBareClassName fuel rest

def readSought (style : PatternStyle) (text : List Char) : Reading Sought := do
  let text ← readInserted .pattern style.strict text
  if text.isEmpty then
    if style.ignoresCase ∨ style.byLine then fail .emptyWithModifiers else return none
  else match Matcher.parse style text with
    | .ok pattern =>
        if hasBareClassName text.length text then fail .bareClassName else return some pattern
    | .error error => fail (.pattern error)

/-! ## Addresses -/

/-- The modifiers behind a pattern that is an address. The strict reader knows
none. `fuel` bounds their number. -/
def readModifiers : (fuel : Nat) → PatternStyle → Reading PatternStyle
  | 0, style => return style
  | fuel + 1, style => do
      skipBlanks
      match style.strict, ← peek with
      | false, some 'I' =>
          let _ ← nextChar
          readModifiers fuel { style with ignoresCase := true }
      | false, some 'M' =>
          let _ ← nextChar
          readModifiers fuel { style with byLine := true }
      | _, _ => return style

def readPatternAddress (style : PatternStyle) (delimiter : Char) : Reading Address := do
  let text ← readDelimited delimiter true .unfinishedAddress
  let style ← readModifiers (← get).length style
  return .found (← readSought style text)

def readLineAddress (strict : Bool) : Reading Address := do
  let number ← readNumber
  skipBlanks
  match strict, ← peek with
  | false, some '~' =>
      let _ ← nextChar
      skipBlanks
      let step ← readNumber
      return if step = 0 then .line number else .every number step
  | _, _ => return .line number

def readAddress? (style : PatternStyle) : Reading (Option Address) := do
  match ← peek with
  | some '/' =>
      let _ ← nextChar
      return some (← readPatternAddress style '/')
  | some '\\' =>
      let _ ← nextChar
      match ← nextChar with
      | some delimiter => return some (← readPatternAddress style delimiter)
      | none => fail .unfinishedAddress
  | some '$' =>
      let _ ← nextChar
      return some .last
  | some char =>
      if isDigit char then return some (← readLineAddress style.strict) else return none
  | none => return none

def readLimit (style : PatternStyle) : Reading Limit := do
  skipBlanks
  match style.strict, ← peek with
  | false, some '+' =>
      let _ ← nextChar
      skipBlanks
      return .after (← readNumber)
  | false, some '~' =>
      let _ ← nextChar
      skipBlanks
      return .multiple (← readNumber)
  | _, _ =>
      match ← readAddress? style with
      | some address => return .address address
      | none =>
          let _ ← nextChar
          fail .unexpectedComma

/-- Line zero is a place only before a pattern, or for a file that is to be in
front of all lines, and not for the strict reader. The fault is noticed with
the mark behind the addresses. -/
def checkFirst (strict : Bool) (first : Address) (limit : Option Limit) : Reading Unit := do
  let isPlace : Bool := match first, limit, ← peek with
    | .line 0, some (.address (.found _)), _ => !strict
    | .line 0, none, some 'r' => !strict
    | .line 0, _, _ => false
    | _, _, _ => true
  if ¬ isPlace then
    let _ ← nextMark
    fail .lineZero

/-- What comes behind the first address. -/
def readSecond (style : PatternStyle) (first : Address) :
    Reading (Option Address × Option Limit) := do
  skipBlanks
  let limit ← match ← peek with
    | some ',' => do
        let _ ← nextChar
        pure (some (← readLimit style))
    | _ => pure none
  checkFirst style.strict first limit
  return (some first, limit)

/-- A sign with nothing to add stands for every line. -/
def readAddresses (style : PatternStyle) : Reading (Option Address × Option Limit) := do
  match style.strict, ← peek with
  | false, some '+' | false, some '~' =>
      let _ ← nextChar
      skipBlanks
      if (← readNumber) ≠ 0 then fail .stepFirst
      readSecond style (.every 1 1)
  | _, _ =>
      match ← readAddress? style with
      | none => return (none, none)
      | some first => readSecond style first

/-- Addresses and an exclamation mark. -/
def readSelection (style : PatternStyle) : Reading Selection := do
  let (first, limit) ← readAddresses style
  skipBlanks
  match ← peek with
  | some '!' =>
      let _ ← nextChar
      skipBlanks
      match ← peek with
      | some '!' =>
          let _ ← nextChar
          fail .manyNegations
      | _ => return ⟨first, limit, true⟩
  | _ => return ⟨first, limit, false⟩

/-! ## Texts and names -/

/-- A text as it is written, `none` behind it if a backslash ends the
expression. Every line but the last ends with a backslash. `fuel` bounds the
number of characters. -/
def writtenText : (fuel : Nat) → List Char → List Char × Option (List Char)
  | 0, rest => ([], some rest)
  | _ + 1, [] => ([], some [])
  | _ + 1, ['\\'] => ([], none)
  | _ + 1, '\n' :: rest => ([], some rest)
  | fuel + 1, '\\' :: char :: rest =>
      let (text, rest) := writtenText fuel rest
      ('\\' :: char :: text, rest)
  | fuel + 1, char :: rest =>
      let (text, rest) := writtenText fuel rest
      (char :: text, rest)

/-- What a text is in the end. It can go on in the next expression if there is
one. -/
def readText (goesOn : Bool) : Reading (List Char) := do
  let rest ← get
  let (text, rest) := writtenText rest.length rest
  if rest.isNone && goesOn then fail .unfinishedText
  set (rest.getD [])
  readInserted .addition false (text ++ ['\n'])

/-- A text follows at once, or after a backslash and perhaps a line feed. The
strict reader wants the backslash. -/
def readAddedText (strict goesOn : Bool) : Reading (List Char) := do
  skipBlanks
  match ← peek with
  | none => fail .expectedText
  | some '\\' =>
      let _ ← nextChar
      match ← peek with
      | none =>
          if goesOn then fail .unfinishedText
          if strict then fail .missingText
          return []
      | some '\n' =>
          let _ ← nextChar
          readText goesOn
      | some _ => readText goesOn
  | some _ =>
      if strict then
        let _ ← nextChar
        fail .expectedText
      readText goesOn

/-- A command to be started goes on to the end of the line; there need not be
one. -/
def readStarted (goesOn : Bool) : Reading (List Char) := do
  skipBlanks
  match ← peek with
  | none => return []
  | some '\n' =>
      let _ ← nextChar
      return []
  | some _ => return (← readAddedText false goesOn).dropLast

def readLabel : Reading String := do
  skipBlanks
  return String.ofList (← readWhile fun char =>
    !isSpace char && char ∉ [';', '#', '\x7d'])

/-- What is left of the line. -/
def readRest : Reading (List Char) := do
  skipBlanks
  let text ← readWhile (· ≠ '\n')
  let _ ← nextChar
  return text

/-- A file name goes on to the end of the line. -/
def readFileName : Reading String := do
  skipBlanks
  let name ← readRest
  if name.isEmpty then fail .missingFileName
  return String.ofList name

/-! ## Substitutions -/

/-- What a backslash and the next character stand for in a replacement. -/
def partEscape (strict : Bool) (char : Char) : Part :=
  match strict, char with
  | false, 'U' => .case .upper
  | false, 'L' => .case .lower
  | false, 'u' => .case .upperNext
  | false, 'l' => .case .lowerNext
  | false, 'E' => .case .stop
  | _, char =>
      match Text.digitValue? char with
      | some number => .group number
      | none => .char char

def partsOf (strict : Bool) : List Char → List Part
  | [] => []
  | '\\' :: char :: rest => partEscape strict char :: partsOf strict rest
  | '&' :: rest => .group 0 :: partsOf strict rest
  | char :: rest => .char char :: partsOf strict rest

/-- The options of a substitution. -/
structure Options where
  /-- The result is printed; what is started has been started before. -/
  prints : Option Bool
  starts : Bool
  everywhere : Bool
  first : Option Nat
  ignoresCase : Bool
  byLine : Bool
  target : Option String

/-- How a script is read. -/
structure Manner where
  style : PatternStyle
  /-- Commands that reach beyond the lines are refused. -/
  guarded : Bool

/-- The options that the strict reader does not know. -/
def richOptions : List Char := ['i', 'I', 'm', 'M', 'e']

/-- `fuel` bounds the number of options. -/
def readOptions (manner : Manner) : (fuel : Nat) → Options → Reading Options
  | 0, options => return options
  | fuel + 1, options => do
      match ← peek with
      | none | some '\x7d' | some '#' => return options
      | some char =>
          if isDigit char then
            if options.first.isSome then
              let _ ← nextChar
              fail .manyNumbers
            let number ← readNumber
            if number = 0 then fail .zeroNumber
            readOptions manner fuel { options with first := some number }
          else
            let _ ← nextChar
            if manner.style.strict && richOptions.contains char then fail .unknownOption
            match char with
            | '\n' | ';' => return options
            | ' ' | '\t' => readOptions manner fuel options
            | 'i' | 'I' => readOptions manner fuel { options with ignoresCase := true }
            | 'm' | 'M' => readOptions manner fuel { options with byLine := true }
            | 'p' =>
                if options.prints.isSome then fail .manyPrints
                readOptions manner fuel { options with prints := some options.starts }
            | 'g' =>
                if options.everywhere then fail .manyGlobals
                readOptions manner fuel { options with everywhere := true }
            | 'e' => readOptions manner fuel { options with starts := true }
            | 'w' =>
                if manner.guarded then fail .forbidden
                return { options with target := some (← readFileName) }
            | _ => fail .unknownOption

def lastGroup (parts : List Part) : Nat :=
  parts.foldl (fun largest part =>
    match part with
    | .group number => max largest number
    | _ => largest) 0

/-- Groups of the replacement have to be in the pattern. -/
def checkGroups (sought : Sought) (parts : List Part) : Reading Unit :=
  match sought with
  | some pattern =>
      if pattern.groupCount < lastGroup parts then fail (.missingGroup (lastGroup parts))
      else return ()
  | none => return ()

def readSubstitution (manner : Manner) : Reading Command := do
  match ← nextChar with
  | none => fail .unfinishedSubstitution
  | some delimiter =>
      let pattern ← readDelimited delimiter true .unfinishedSubstitution
      let replacement ← readDelimited delimiter false .unfinishedSubstitution
      let options ← readOptions manner ((← get).length + 1)
        ⟨none, false, false, none, false, false, none⟩
      let strict := manner.style.strict
      let parts := partsOf strict (← readInserted .replacement strict replacement)
      let sought ← readSought { manner.style with
        ignoresCase := options.ignoresCase, byLine := options.byLine } pattern
      checkGroups sought parts
      if manner.guarded && options.starts then fail .forbidden
      return .substitute ⟨sought, parts, options.first.getD 1, options.everywhere,
        options.starts, options.prints, options.target⟩

/-- The characters of a list, in which some are protected. -/
def plainChars : List Char → List Char
  | [] | ['\\'] => []
  | '\\' :: char :: rest => char :: plainChars rest
  | char :: rest => char :: plainChars rest

def readExchange (strict : Bool) : Reading Command := do
  match ← nextChar with
  | none => fail .unfinishedExchange
  | some delimiter =>
      let before ← readDelimited delimiter false .unfinishedExchange
      let after ← readDelimited delimiter false .unfinishedExchange
      let before := plainChars (← readInserted .exchange strict before)
      let after := plainChars (← readInserted .exchange strict after)
      if before.length ≠ after.length then fail .differentLengths
      readEnd
      return .exchangeChars (before.zip after)

/-! ## Commands -/

def ending (command : Command) : Reading Command := do
  readEnd
  return command

def readQuit (strict : Bool) (selection : Selection) (prints : Bool) : Reading Command := do
  if selection.limit.isSome then fail .oneAddress
  skipBlanks
  let status ← if strict then pure 0 else readNumber
  ending (.quit (status % 256) prints)

/-- The oldest version that a script is for. -/
def readVersion : Reading Command := do
  let version ← readLabel
  let numbers := (version.splitOn ".").map fun part => (Text.digits? part.toList).getD 0
  if [4, 9] < numbers then fail .newerVersion
  return .nothing

/-- The strict reader does not know these commands. -/
def richCommands : List Char := ['F', 'z', 'e', 'R', 'W', 'Q', 'T', 'v']

/-- The strict reader allows only one address for these. -/
def singleCommands : List Char := ['=', 'a', 'i', 'r', 'l']

/-- These reach beyond the lines. -/
def outerCommands : List Char := ['e', 'r', 'R', 'w', 'W']

def checkCommand (manner : Manner) (selection : Selection) (char : Char) : Reading Unit := do
  let strict := manner.style.strict
  if strict && richCommands.contains char then fail (.unknownCommand char)
  if strict && singleCommands.contains char && selection.limit.isSome then fail .oneAddress
  if manner.guarded && outerCommands.contains char then fail .forbidden

/-- The command of a letter. `depth` blocks are open, and `goesOn` tells that
there is another expression. -/
def readCommand (manner : Manner) (goesOn : Bool) (depth : Nat) (selection : Selection)
    (char : Char) : Reading Command := do
  let strict := manner.style.strict
  checkCommand manner selection char
  match char with
  | '\x7b' => return .openBlock
  | '\x7d' =>
      if depth = 0 then fail .unexpectedClose
      if selection.first.isSome then fail .closeWithAddress
      ending .closeBlock
  | ':' =>
      if selection.first.isSome then fail .labelWithAddress
      let name ← readLabel
      if name.isEmpty then fail .emptyLabel
      return .label name
  | '#' =>
      if selection.first.isSome then fail .commentWithAddress
      let _ ← readWhile (· ≠ '\n')
      return .nothing
  | 'b' => return .jump (← readLabel)
  | 't' => return .jumpIfChanged (← readLabel)
  | 'T' => return .jumpUnlessChanged (← readLabel)
  | 's' => readSubstitution manner
  | 'y' => readExchange strict
  | 'a' => return .append (← readAddedText strict goesOn)
  | 'i' => return .insert (← readAddedText strict goesOn)
  | 'c' => return .change (← readAddedText strict goesOn)
  | 'q' => readQuit strict selection true
  | 'Q' => readQuit strict selection false
  | 'l' =>
      skipBlanks
      let digits ← if strict then pure [] else readWhile isDigit
      ending (.printVisibly (Text.digits? digits))
  | 'r' =>
      let name ← readFileName
      return if selection.first = some (.line 0) ∧ selection.limit.isNone then .insertFile name
        else .readFile name
  | 'R' => return .readLine (← readFileName)
  | 'e' => return .start (← readStarted goesOn)
  | 'v' => readVersion
  | 'w' => return .writeFile (← readFileName)
  | 'W' => return .writeFirst (← readFileName)
  | '=' => ending .printNumber
  | 'F' => ending .printSource
  | 'd' => ending .delete
  | 'D' => ending .deleteFirst
  | 'g' => ending .get
  | 'G' => ending .appendHeld
  | 'h' => ending .hold
  | 'H' => ending .appendToHold
  | 'n' => ending .next
  | 'N' => ending .appendNext
  | 'p' => ending .print
  | 'P' => ending .printFirst
  | 'x' => ending .exchange
  | 'z' => ending .clear
  | char => fail (.unknownCommand char)

/-- The instructions of an expression. `fuel` bounds their number. -/
def readInstructions (manner : Manner) (goesOn : Bool) : (fuel depth : Nat) → Reading Script
  | 0, _ => return []
  | fuel + 1, depth => do
      let _ ← readWhile fun char => isSpace char || char = ';'
      match ← peek with
      | none => return []
      | some _ =>
          let selection ← readSelection manner.style
          match ← nextMark with
          | none => fail .missingCommand
          | some char =>
              let command ← readCommand manner goesOn depth selection char
              let depth := match command with
                | .openBlock => depth + 1
                | .closeBlock => depth - 1
                | _ => depth
              return ⟨selection, command⟩ :: (← readInstructions manner goesOn fuel depth)

/-! ## Expressions -/

/-- A fault in an expression, counted from one, after so many characters. -/
structure ScriptError where
  fault : Fault
  expression : Nat
  position : Nat
  deriving DecidableEq, Repr

def ScriptError.message (error : ScriptError) : String :=
  s!"-e expression #{error.expression}, char {error.position}: {error.fault.message}"

/-- The expressions in which blocks have been opened that are still open, the
innermost first. -/
def openBlocks (number : Nat) (opened : List Nat) (script : Script) : List Nat :=
  script.foldl (fun opened instruction =>
    match instruction.command with
    | .openBlock => number :: opened
    | .closeBlock => opened.drop 1
    | _ => opened) opened

/-- A text that an expression leaves unfinished goes on in the next one. -/
def readExpressions (manner : Manner) (number : Nat) (opened : List Nat) :
    List (List Char) → Except ScriptError Script
  | [] =>
      match opened with
      | [] => .ok []
      | number :: _ => .error ⟨.unmatchedOpen, number, 0⟩
  | expression :: rest =>
      let read :=
        readInstructions manner (!rest.isEmpty) (expression.length + 1) opened.length expression
      match read, rest with
      | .ok (instructions, _), rest => do
          let others ←
            readExpressions manner (number + 1) (openBlocks number opened instructions) rest
          return instructions ++ others
      | .error (.unfinishedText, _), next :: rest =>
          readExpressions manner (number + 1) opened ((expression ++ '\n' :: next) :: rest)
      | .error (fault, after), _ =>
          .error ⟨fault, number, expression.length - after.length⟩
termination_by expressions => expressions.length

def readScript (manner : Manner) (expressions : List (List Char)) :
    Except ScriptError Script :=
  readExpressions manner 1 [] expressions

/-- An expression that begins with a comment with this letter turns printing off. -/
def isQuiet : List Char → Bool
  | '#' :: 'n' :: _ => true
  | _ => false

end Dilemma.Sed
