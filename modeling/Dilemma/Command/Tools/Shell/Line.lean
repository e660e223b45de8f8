import Dilemma.Text.Integer

/-! # Command lines

What can be written in a line of commands: words with quotes and variables,
where input and output go, and the ways to combine commands. -/

namespace Dilemma.Shell

/-! ## Lines -/

/-- A part of a word. What is not quoted can fall apart into several words. -/
inductive Piece where
  | plain (text : List Char)
  | quoted (text : List Char)
  | named (name : String) ( isQuoted : Bool)
  /-- What another line has to say. -/
  | output (line : List Char) ( isQuoted : Bool)
  deriving DecidableEq, Repr

abbrev Word := List Piece

inductive Redirection where
  | source (file : Word)
  | target (stream : Nat) (adds : Bool) (file : Word)
  /-- A stream goes where another one goes. -/
  | copy (stream other : Nat)
  deriving DecidableEq, Repr

inductive Line where
  | nothing
  | simple (assignments : List (String × Word)) (words : List Word)
      (redirections : List Redirection)
  | group (inner : Line) ( isApart : Bool) (redirections : List Redirection)
  | piped (left right : Line)
  | negated (inner : Line)
  | both (left right : Line)
  | either (left right : Line)
  | sequence (left right : Line)
  | branch (test yes no : Line)
  | forEach (name : String) (words : List Word) (body : Line)
  deriving Repr

/-! ## Faults -/

inductive LineFault where
  | unterminated
  | early
  | unexpected (token : String)
  deriving DecidableEq, Repr

def LineFault.message : LineFault → String
  | unterminated => "Syntax error: Unterminated quoted string"
  | early => "Syntax error: end of file unexpected"
  | unexpected token => s!"Syntax error: {token} unexpected"

/-! ## Tokens -/

inductive Token where
  | word (pieces : Word)
  | operator (mark : String)
  /-- The stream in front of a mark that redirects it. -/
  | stream (number : Nat)
  deriving DecidableEq, Repr

/-- Longer marks first. -/
def operators : List String :=
  ["&&", "||", ";;", ">>", ">&", "<&", "\n", ";", "&", "|", "(", ")", "<", ">"]

def operator? (text : List Char) : Option (String × List Char) :=
  (operators.find? fun mark => mark.toList.isPrefixOf text).map fun mark =>
    (mark, text.drop mark.length)

def isNameStart (char : Char) : Bool := char.isAlpha || char = '_'
def isNameChar (char : Char) : Bool := char.isAlphanum || char = '_'

/-- The text up to the parenthesis that closes it. `fuel` bounds the number of
characters. -/
def readEnclosed : (fuel depth : Nat) → List Char → Option (List Char × List Char)
  | 0, _, _ | _, _, [] => none
  | fuel + 1, depth, char :: rest =>
      match char, depth with
      | ')', 0 => some ([], rest)
      | ')', depth + 1 => (readEnclosed fuel depth rest).map fun (text, rest) => (')' :: text, rest)
      | '(', depth => (readEnclosed fuel (depth + 1) rest).map fun (text, rest) =>
          ('(' :: text, rest)
      | char, depth => (readEnclosed fuel depth rest).map fun (text, rest) => (char :: text, rest)

/-- The text up to the mark that closes it, in which a backslash protects some
characters. -/
def readBackquoted : List Char → Option (List Char × List Char)
  | [] => none
  | '\x60' :: rest => some ([], rest)
  | '\\' :: char :: rest =>
      (readBackquoted rest).map fun (text, rest) =>
        (if char ∈ ['\\', '\x60', '$'] then (char :: text, rest) else ('\\' :: char :: text, rest))
  | char :: rest => (readBackquoted rest).map fun (text, rest) => (char :: text, rest)

/-- What a dollar sign begins, and the rest behind it. -/
def readDollar (isQuoted : Bool) (text : List Char) : Except LineFault (Piece × List Char) :=
  match text with
  | '(' :: rest =>
      match readEnclosed (rest.length + 1) 0 rest with
      | some (line, rest) => .ok (.output line isQuoted, rest)
      | none => .error .early
  | '\x7b' :: rest =>
      let name := rest.takeWhile isNameChar
      .ok (.named (String.ofList name) isQuoted, (rest.dropWhile (· ≠ '\x7d')).drop 1)
  | '?' :: rest => .ok (.named "?" isQuoted, rest)
  | char :: rest =>
      if isNameStart char then
        let name := (char :: rest).takeWhile isNameChar
        .ok (.named (String.ofList name) isQuoted, (char :: rest).dropWhile isNameChar)
      else .ok (if isQuoted then .quoted ['$'] else .plain ['$'], char :: rest)
  | [] => .ok (if isQuoted then .quoted ['$'] else .plain ['$'], [])

def readCommandOutput (isQuoted : Bool) (text : List Char) :
    Except LineFault (Piece × List Char) :=
  match readBackquoted text with
  | some (line, rest) => .ok (.output line isQuoted, rest)
  | none => .error .early

/-- Pieces up to the closing quote. `fuel` bounds the number of characters. -/
def readQuoted : (fuel : Nat) → List Char → Except LineFault (Word × List Char)
  | 0, _ | _, [] => .error .unterminated
  | _ + 1, '"' :: rest => .ok ([], rest)
  | fuel + 1, '\\' :: char :: rest => do
      let (pieces, rest) ← readQuoted fuel rest
      let text := if char = '\n' then []
        else if char ∈ ['$', '\x60', '"', '\\'] then [char] else ['\\', char]
      return (.quoted text :: pieces, rest)
  | fuel + 1, '$' :: rest => do
      let (piece, rest) ← readDollar true rest
      let (pieces, rest) ← readQuoted fuel rest
      return (piece :: pieces, rest)
  | fuel + 1, '\x60' :: rest => do
      let (piece, rest) ← readCommandOutput true rest
      let (pieces, rest) ← readQuoted fuel rest
      return (piece :: pieces, rest)
  | fuel + 1, char :: rest => do
      let (pieces, rest) ← readQuoted fuel rest
      return (.quoted [char] :: pieces, rest)

def endsWord (char : Char) : Bool :=
  [' ', '\t', '\n', ';', '&', '|', '(', ')', '<', '>'].contains char

/-- A word up to a blank or an operator. `fuel` bounds the number of
characters. -/
def readWord : (fuel : Nat) → List Char → Except LineFault (Word × List Char)
  | 0, rest => .ok ([], rest)
  | _, [] => .ok ([], [])
  | fuel + 1, char :: rest =>
      let andThen (pieces : Word) (rest : List Char) : Except LineFault (Word × List Char) := do
        let (others, rest) ← readWord fuel rest
        return (pieces ++ others, rest)
      if endsWord char then .ok ([], char :: rest)
      else match char, rest with
        | '\'', rest =>
            if rest.contains '\'' then
              andThen [.quoted (rest.takeWhile (· ≠ '\''))] ((rest.dropWhile (· ≠ '\'')).drop 1)
            else .error .unterminated
        | '"', rest => do
            let (pieces, rest) ← readQuoted (rest.length + 1) rest
            andThen (.quoted [] :: pieces) rest
        | '\\', '\n' :: rest => andThen [] rest
        | '\\', char :: rest => andThen [.quoted [char]] rest
        | '$', rest => do
            let (piece, rest) ← readDollar false rest
            andThen [piece] rest
        | '\x60', rest => do
            let (piece, rest) ← readCommandOutput false rest
            andThen [piece] rest
        | char, rest => andThen [.plain [char]] rest

/-- All tokens. `fuel` bounds their number, and that of blanks. -/
def readTokens : (fuel : Nat) → List Char → Except LineFault (List Token)
  | 0, _ | _, [] => .ok []
  | fuel + 1, char :: rest =>
      if char = ' ' ∨ char = '\t' then readTokens fuel rest
      else if char = '#' then readTokens fuel (rest.dropWhile (· ≠ '\n'))
      else match operator? (char :: rest) with
        | some (mark, rest) => do return .operator mark :: (← readTokens fuel rest)
        | none =>
            let digits := (char :: rest).takeWhile Char.isDigit
            let behind := (char :: rest).dropWhile Char.isDigit
            match Text.digits? digits, behind.head? with
            | some number, some '<' | some number, some '>' => do
                return .stream number :: (← readTokens fuel behind)
            | _, _ => do
                let (pieces, rest) ← readWord (rest.length + 2) (char :: rest)
                return .word pieces :: (← readTokens fuel rest)

/-! ## Reading lines -/

/-- The text of a word that is not quoted at all. -/
def plainText? (pieces : Word) : Option String :=
  let texts := pieces.mapM fun piece : Piece =>
    match piece with
    | .plain text => some text
    | _ => none
  texts.map fun texts => String.ofList texts.flatten

/-- Words that combine commands, where a command can begin. -/
def reserved : List String :=
  ["\x7b", "\x7d", "!", "if", "then", "else", "elif", "fi", "for", "in", "do", "done", "while",
   "until", "case", "esac"]

def shownWord (pieces : Word) : String := ((plainText? pieces).getD "word")

def unexpected : List Token → LineFault
  | [] => .early
  | .operator "\n" :: _ => .unexpected "newline"
  | .operator mark :: _ => .unexpected s!"\"{mark}\""
  | .stream _ :: _ => .unexpected "redirection"
  | .word pieces :: _ => .unexpected s!"\"{shownWord pieces}\""

abbrev Reading := StateT (List Token) (Except LineFault)

def failHere {α : Type} : Reading α := fun tokens => .error (unexpected tokens)

def peek : Reading (Option Token) := return (← get).head?

def skip : Reading Unit := modify (·.drop 1)

def take (mark : String) : Reading Bool := do
  if (← peek) = some (.operator mark) then
    skip
    return true
  else return false

def nextReserved : Reading (Option String) := do
  match ← peek with
  | some (.word pieces) => return (plainText? pieces).filter (· ∈ reserved)
  | _ => return none

def expectReserved (word : String) : Reading Unit := do
  if (← nextReserved) = some word then skip else failHere

def skipLineEnds : Reading Unit := modify fun tokens => tokens.dropWhile (· = .operator "\n")

def takeWord : Reading Word := do
  match ← peek with
  | some (.word pieces) =>
      skip
      return pieces
  | _ => failHere

/-- A name and an equals sign in front of a word make it an assignment. -/
def assignment? (pieces : Word) : Option (String × Word) :=
  let leading := (pieces.takeWhile fun piece => piece matches .plain _)
  let text := leading.flatMap fun piece =>
    match piece with
    | .plain text => text
    | _ => []
  let name := text.takeWhile isNameChar
  match text.dropWhile isNameChar with
  | '=' :: value =>
      if name.head?.any isNameStart then
        some (String.ofList name, .plain value :: pieces.drop leading.length)
      else none
  | _ => none

/-- The redirection that comes next. -/
def readRedirection? : Reading (Option Redirection) := do
  let tokens ← get
  let (stream, rest) := match tokens with
    | .stream number :: rest => (some number, rest)
    | tokens => (none, tokens)
  match rest with
  | .operator mark :: rest =>
      let andThen (make : Word → Redirection) : Reading (Option Redirection) := do
        set rest
        return some (make (← takeWord))
      match mark with
      | "<" => andThen .source
      | ">" => andThen (.target (stream.getD 1) false)
      | ">>" => andThen (.target (stream.getD 1) true)
      | ">&" => do
          set rest
          let number := ((plainText? (← takeWord)).bind fun text => Text.digits? text.toList)
          return some (.copy (stream.getD 1) (number.getD 1))
      | _ => return none
  | _ => return none

/-- The parts of a simple command. `fuel` bounds their number. -/
def readParts (assignments : List (String × Word)) (words : List Word)
    (redirections : List Redirection) : (fuel : Nat) → Reading Line
  | 0 => failHere
  | fuel + 1 => do
      match ← readRedirection? with
      | some redirection => readParts assignments words (redirections ++ [redirection]) fuel
      | none =>
          match ← peek with
          | some (.word pieces) =>
              skip
              match words, assignment? pieces with
              | [], some assignment =>
                  readParts (assignments ++ [assignment]) [] redirections fuel
              | words, _ => readParts assignments (words ++ [pieces]) redirections fuel
          | _ => return .simple assignments words redirections

/-- Redirections behind a group. `fuel` bounds their number. -/
def readRedirections : (fuel : Nat) → Reading (List Redirection)
  | 0 => return []
  | fuel + 1 => do
      match ← readRedirection? with
      | some redirection => return redirection :: (← readRedirections fuel)
      | none => return []

/-- Whether a line cannot go on here. -/
def endsLine : Reading Bool := do
  match ← peek, ← nextReserved with
  | none, _ | some (.operator ")"), _ => return true
  | _, some word => return ["\x7d", "then", "else", "elif", "fi", "do", "done"].contains word
  | _, none => return false

mutual
/-- Commands up to where a line has to end. `fuel` bounds the depth of the
reading. -/
def readList : (fuel : Nat) → Reading Line
  | 0 => failHere
  | fuel + 1 => do
      skipLineEnds
      if ← endsLine then return .nothing
      let first ← readJoined fuel (← readPipeline fuel)
      if (← take ";") || (← take "&") then return .sequence first (← readList fuel)
      else if (← peek) = some (.operator "\n") then return .sequence first (← readList fuel)
      else if ← endsLine then return first
      else failHere

def readJoined : (fuel : Nat) → Line → Reading Line
  | 0, _ => failHere
  | fuel + 1, left => do
      if ← take "&&" then
        skipLineEnds
        readJoined fuel (.both left (← readPipeline fuel))
      else if ← take "||" then
        skipLineEnds
        readJoined fuel (.either left (← readPipeline fuel))
      else return left

def readPipeline : (fuel : Nat) → Reading Line
  | 0 => failHere
  | fuel + 1 => do
      if (← nextReserved) = some "!" then
        skip
        return .negated (← readPipeline fuel)
      else readPiped fuel (← readCommand fuel)

def readPiped : (fuel : Nat) → Line → Reading Line
  | 0, _ => failHere
  | fuel + 1, left => do
      if ← take "|" then
        skipLineEnds
        readPiped fuel (.piped left (← readCommand fuel))
      else return left

def readCommand : (fuel : Nat) → Reading Line
  | 0 => failHere
  | fuel + 1 => do
      match ← nextReserved with
      | some "\x7b" =>
          skip
          let inner ← readList fuel
          expectReserved "\x7d"
          return .group inner false (← readRedirections fuel)
      | some "if" =>
          skip
          let branch ← readBranch fuel
          return .group branch false (← readRedirections fuel)
      | some "for" =>
          skip
          let name := shownWord (← takeWord)
          expectReserved "in"
          let words ← readWords fuel
          if ¬ (← take ";") then skipLineEnds
          skipLineEnds
          expectReserved "do"
          let body ← readList fuel
          expectReserved "done"
          return .group (.forEach name words body) false (← readRedirections fuel)
      | some _ => failHere
      | none =>
          if ← take "(" then
            let inner ← readList fuel
            if ¬ (← take ")") then failHere
            return .group inner true (← readRedirections fuel)
          else
            let before ← get
            let line ← readParts [] [] [] (before.length + 1)
            if (← get).length = before.length then failHere
            return line

/-- A test and what follows it. -/
def readBranch : (fuel : Nat) → Reading Line
  | 0 => failHere
  | fuel + 1 => do
      let test ← readList fuel
      expectReserved "then"
      let yes ← readList fuel
      match ← nextReserved with
      | some "elif" =>
          skip
          return .branch test yes (← readBranch fuel)
      | some "else" =>
          skip
          let no ← readList fuel
          expectReserved "fi"
          return .branch test yes no
      | _ =>
          expectReserved "fi"
          return .branch test yes .nothing

def readWords : (fuel : Nat) → Reading (List Word)
  | 0 => return []
  | fuel + 1 => do
      match ← peek with
      | some (.word pieces) =>
          skip
          return pieces :: (← readWords fuel)
      | _ => return []
end

def Line.parse (text : List Char) : Except LineFault Line := do
  let tokens ← readTokens (text.length + 1) text
  let (line, rest) ← (readList (8 * tokens.length + 8)).run tokens
  match rest with
  | [] => return line
  | rest => .error (unexpected rest)

end Dilemma.Shell
