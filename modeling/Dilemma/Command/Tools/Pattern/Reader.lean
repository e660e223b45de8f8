import Dilemma.Command.Tools.Pattern.Matching
import Dilemma.Text.Integer

/-! # Reading patterns

Patterns are written in three dialects. In the basic one a backslash makes
an operator of a bracket, a bar or a sign; in the extended one it takes the
meaning away. The lenient dialect has the same operators, but no intervals and
no references; only its tokens and classes are read here. -/

namespace Dilemma

inductive PatternError where
  | invalidReference
  | badRepetition
  | badInterval
  | unmatchedInterval
  | unmatchedOpening
  | unmatchedClosing
  | unmatchedBracket
  | unknownClass
  | unknownElement
  | badRange
  | danglingBackslash
  | missingOperand
  | repeatedEdge
  | tooBig
  | invalid
  deriving DecidableEq, Repr

def PatternError.message : PatternError → String
  | invalidReference => "Invalid back reference"
  | badRepetition => "Invalid preceding regular expression"
  | badInterval => "Invalid content of \\\x7b\\\x7d"
  | unmatchedInterval => "Unmatched \\\x7b"
  | unmatchedOpening => "Unmatched ( or \\("
  | unmatchedClosing => "Unmatched ) or \\)"
  | unmatchedBracket => "Unmatched [, [^, [:, [., or [="
  | unknownClass => "Invalid character class name"
  | unknownElement => "Invalid collation character"
  | badRange => "Invalid range end"
  | danglingBackslash => "Trailing backslash"
  | missingOperand => "missing operand"
  | repeatedEdge => "syntax error ^* or ^+"
  | tooBig => "Regular expression too big"
  | invalid => "Invalid regular expression"

inductive Dialect where
  | basic
  | extended
  | lenient
  deriving DecidableEq, Repr

/-- How a pattern is to be understood. -/
structure PatternStyle where
  dialect : Dialect
  ignoresCase : Bool
  /-- Edges of the text are edges of every line. -/
  byLine : Bool
  /-- Only what every reader of patterns knows has a meaning. -/
  strict : Bool
  deriving DecidableEq, Repr

namespace PatternStyle

def basic : PatternStyle := ⟨.basic, false, false, false⟩
def extended : PatternStyle := ⟨.extended, false, false, false⟩
def lenient : PatternStyle := ⟨.lenient, false, false, false⟩

/-- Where there are no lines, the text counts as one. -/
def startEdge (style : PatternStyle) : Edge :=
  if style.dialect = .lenient then .textStart else .lineStart

def finishEdge (style : PatternStyle) : Edge :=
  if style.dialect = .lenient then .textEnd else .lineEnd

/-- Letters are read in upper case if case does not matter. -/
def letter (style : PatternStyle) (char : Char) : Char :=
  if style.ignoresCase then char.toUpper else char

end PatternStyle

namespace Pattern

/-! ## Tokens -/

inductive Token where
  | char (value : Char)
  | oneOf (accepted : CharClass)
  | edge (edge : Edge)
  /-- An edge of a word, or none. -/
  | wordEdge (isEdge : Bool)
  | reference (number : Nat)
  | bracket
  | opening
  | closing
  | bar
  | star
  | plus
  | optional
  | interval
  | backslash
  deriving DecidableEq, Repr

/-- What a backslash makes of the next character in every dialect. -/
def commonEscape (char : Char) : Token :=
  match char with
  | 'n' => .char '\n'
  | 't' => .char '\t'
  | 'r' => .char '\r'
  | 'f' => .char '\x0c'
  | 'v' => .char '\x0b'
  | 'a' => .char '\x07'
  | char => .char char

/-- A reference, which the lenient dialect does not have. -/
def referenceEscape (char : Char) : Token :=
  match Text.digitValue? char with
  | some (number + 1) => .reference (number + 1)
  | _ => .char char

/-- Classes and edges, unless reading is strict. -/
def richEscape (strict : Bool) (char : Char) : Token :=
  if strict then referenceEscape char
  else match char with
    | 'w' => .oneOf (.ofRanges CharClass.wordRanges)
    | 'W' => .oneOf ⟨true, CharClass.wordRanges, false⟩
    | 's' => .oneOf (.ofRanges CharClass.blanks)
    | 'S' => .oneOf ⟨true, CharClass.blanks, false⟩
    | 'b' => .wordEdge true
    | 'B' => .wordEdge false
    | '<' => .edge .wordStart
    | '>' => .edge .wordEnd
    | '\x60' => .edge .textStart
    | '\'' => .edge .textEnd
    | char => referenceEscape char

/-- The operators of the basic dialect are escaped. The strict reader knows
only some of them. -/
def basicEscape (strict : Bool) (char : Char) : Token :=
  match char with
  | '(' => .opening
  | ')' => .closing
  | '\x7b' => .interval
  | '|' => if strict then .char char else .bar
  | '+' => if strict then .char char else .plus
  | '?' => if strict then .char char else .optional
  | char => richEscape strict char

/-- The value of a digit in a base up to sixteen. -/
def baseDigit? (base : Nat) (char : Char) : Option Nat :=
  let value :=
    if '0' ≤ char ∧ char ≤ '9' then some (char.toNat - '0'.toNat)
    else if 'a' ≤ char ∧ char ≤ 'f' then some (char.toNat - 'a'.toNat + 10)
    else if 'A' ≤ char ∧ char ≤ 'F' then some (char.toNat - 'A'.toNat + 10)
    else none
  value.filter (· < base)

/-- The character with a code of at most `count` digits. -/
def codeChar? (base count : Nat) (text : List Char) : Option (Char × List Char) :=
  let digits := (text.take count).takeWhile fun char => (baseDigit? base char).isSome
  if digits.isEmpty then none
  else
    let code := digits.foldl (fun code char => code * base + (baseDigit? base char).getD 0) 0
    some (Char.ofNat (code % 256), text.drop digits.length)

example : codeChar? 16 2 "41b".toList = some ('A', ['b']) := by decide +kernel

/-- The token behind a backslash. The lenient dialect has characters by their
octal codes. -/
def escape (style : PatternStyle) : List Char → Token × List Char
  | [] => (.backslash, [])
  | char :: rest =>
      match style.dialect with
      | .basic => (basicEscape style.strict char, rest)
      | .extended => (richEscape style.strict char, rest)
      | .lenient =>
          match codeChar? 8 3 (char :: rest) with
          | some (char, rest) => (.char char, rest)
          | none => (commonEscape char, rest)

/-- A dollar sign is an edge in the basic dialect only where nothing follows. -/
def atFinish : List Char → Bool
  | [] => true
  | '\\' :: ')' :: _ | '\\' :: '|' :: _ => true
  | _ => false

/-- `atStart` tells whether a circumflex can be an edge in the basic dialect. -/
def nextToken (style : PatternStyle) (atStart : Bool) : List Char → Option (Token × List Char)
  | [] => none
  | '\\' :: rest => some (escape style rest)
  | '[' :: rest => some (.bracket, rest)
  | '*' :: rest => some (.star, rest)
  | '.' :: rest => some (.oneOf ⟨true, if style.byLine then [('\n', '\n')] else [], false⟩, rest)
  | '^' :: rest =>
      if atStart || style.dialect ≠ .basic then some (.edge style.startEdge, rest)
      else some (.char '^', rest)
  | '$' :: rest =>
      if atFinish rest || style.dialect ≠ .basic then some (.edge style.finishEdge, rest)
      else some (.char '$', rest)
  | char :: rest =>
      if style.dialect = .basic then some (.char char, rest)
      else match char with
        | '(' => some (.opening, rest)
        | ')' => some (.closing, rest)
        | '|' => some (.bar, rest)
        | '+' => some (.plus, rest)
        | '?' => some (.optional, rest)
        | '\x7b' =>
            some (if style.dialect = .lenient then .char '\x7b' else .interval, rest)
        | char => some (.char char, rest)

/-! ## Brackets -/

/-- A name up to its mark and the bracket. -/
def bracketName (mark : Char) : List Char → Option (List Char × List Char)
  | [] => none
  | char :: rest =>
      if char = mark ∧ rest.head? = some ']' then some ([], rest.drop 1)
      else (bracketName mark rest).map fun (name, rest) => (char :: name, rest)

/-- One character of a class. A backslash has a meaning in the lenient dialect
only. Between marks in brackets there can be only one character. -/
def bracketChar (dialect : Dialect) : List Char → Except PatternError (Char × List Char)
  | [] => .error .unmatchedBracket
  | '\\' :: char :: rest =>
      match commonEscape char with
      | .char meant =>
          if dialect = .lenient then .ok (meant, rest) else .ok ('\\', char :: rest)
      | _ => .ok ('\\', char :: rest)
  | '[' :: mark :: rest =>
      if dialect ≠ .lenient ∧ (mark = '.' ∨ mark = '=') then
        match bracketName mark rest with
        | none => .error .unmatchedBracket
        | some ([char], rest) => .ok (char, rest)
        | some _ => .error .unknownElement
      else .ok ('[', mark :: rest)
  | char :: rest => .ok (char, rest)

/-- A character and what it begins: a range, unless a hyphen is the last. -/
def bracketRange (style : PatternStyle) (low : Char) : List Char →
    Except PatternError (List (Char × Char) × List Char)
  | '-' :: ']' :: rest => .ok ([(low, low)], '-' :: ']' :: rest)
  | '-' :: after => do
      let (high, rest) ← bracketChar style.dialect after
      let high := style.letter high
      if low ≤ high then return ([(low, high)], rest)
      else if style.dialect = .lenient then return ([(low, low), ('-', '-'), (high, high)], rest)
      else .error .badRange
  | text => .ok ([(low, low)], text)

/-- A hyphen that neither comes first nor last nor stands for a range. -/
def isStrayHyphen (dialect : Dialect) (first : Bool) : List Char → Bool
  | '-' :: char :: _ => dialect ≠ .lenient && !first && char ≠ ']'
  | _ => false

/-- The next ranges of a class. -/
def bracketItem (style : PatternStyle) (first : Bool) (text : List Char) :
    Except PatternError (List (Char × Char) × List Char) :=
  match text with
  | '[' :: ':' :: rest =>
      match bracketName ':' rest with
      | none => .error .unmatchedBracket
      | some (name, rest) =>
          match CharClass.ofName? (String.ofList name) with
          | none => .error .unknownClass
          | some ranges =>
              .ok (ranges.map fun (low, high) => (style.letter low, style.letter high), rest)
  | text => do
      if isStrayHyphen style.dialect first text then .error .badRange
      let (low, rest) ← bracketChar style.dialect text
      bracketRange style (style.letter low) rest

/-- The ranges up to the closing bracket. A bracket that comes first is an
ordinary character. `fuel` bounds the number of items. -/
def readRanges (style : PatternStyle) : (fuel : Nat) → (first : Bool) → List Char →
    Except PatternError (List (Char × Char) × List Char)
  | 0, _, _ => .error .unmatchedBracket
  | fuel + 1, first, text =>
      match first, text with
      | false, ']' :: rest => .ok ([], rest)
      | _, text => do
          let (ranges, rest) ← bracketItem style first text
          let (others, rest) ← readRanges style fuel false rest
          return (ranges ++ others, rest)

def readBracket (style : PatternStyle) (text : List Char) :
    Except PatternError (CharClass × List Char) := do
  let (negated, text) := match text with
    | '^' :: rest => (true, rest)
    | text => (false, text)
  if text.isEmpty && style.dialect ≠ .lenient then .error .invalid
  let (ranges, rest) ← readRanges style (text.length + 1) true text
  let ranges := if negated && style.byLine then ('\n', '\n') :: ranges else ranges
  return (⟨negated, ranges, style.ignoresCase⟩, rest)

/-! ## Intervals -/

/-- The most that an interval can ask for. -/
def repetitionLimit : Nat := 32767

/-- The text behind the end of an interval. -/
def afterInterval? (dialect : Dialect) : List Char → Option (List Char)
  | '\x7d' :: rest => if dialect = .basic then none else some rest
  | '\\' :: '\x7d' :: rest => if dialect = .basic then some rest else none
  | _ => none

/-- The fault of an interval that is none: it has no end, or a wrong content. -/
def intervalFault (dialect : Dialect) : List Char → PatternError
  | [] => .unmatchedInterval
  | ',' :: _ => .badInterval
  | '\\' :: char :: rest =>
      if char = ',' ∨ dialect = .basic ∧ char = '\x7d' then .badInterval
      else intervalFault dialect rest
  | char :: rest =>
      if dialect ≠ .basic ∧ char = '\x7d' then .badInterval else intervalFault dialect rest

/-- Bounds up to the end of the interval. -/
def readInterval (dialect : Dialect) (text : List Char) :
    Except PatternError ((Nat × Option Nat) × List Char) :=
  let isDigit (char : Char) : Bool := (Text.digitValue? char).isSome
  let low := text.takeWhile isDigit
  let least := (Text.digits? low).getD 0
  let afterLow := text.dropWhile isDigit
  let finish (most : Option Nat) (rest : List Char) :
      Except PatternError ((Nat × Option Nat) × List Char) :=
    if most.any (· < least) then .error .badInterval
    else if repetitionLimit < most.getD least then .error .tooBig
    else .ok ((least, most), rest)
  match afterInterval? dialect afterLow, afterLow with
  | some rest, _ => if low.isEmpty then .error .badInterval else finish (some least) rest
  | none, ',' :: afterComma =>
      let high := afterComma.takeWhile isDigit
      let afterHigh := afterComma.dropWhile isDigit
      match afterInterval? dialect afterHigh with
      | some rest => finish (Text.digits? high) rest
      | none => .error (intervalFault dialect afterHigh)
  | none, _ => .error (intervalFault dialect afterLow)

/-! ## Expressions -/

/-- How far reading has come. -/
structure Reading where
  rest : List Char
  /-- How many groups have been opened. -/
  opened : Nat
  /-- The groups that are complete, to which references can be made. -/
  complete : List Nat
  /-- Some of the pattern has been read. -/
  inside : Bool

def pair (first second : Pattern) : Pattern :=
  if second = nothing then first else sequence first second

/-- The operators behind an item. In the basic dialect only one may follow. -/
def readRepetitions (style : PatternStyle) : (fuel : Nat) → Pattern → Reading →
    Except PatternError (Pattern × Reading)
  | 0, item, reading => .ok (item, reading)
  | fuel + 1, item, reading =>
      let again (least : Nat) (most : Option Nat) (rest : List Char) :
          Except PatternError (Pattern × Reading) :=
        let more := match nextToken style false rest with
          | some (.star, _) | some (.interval, _) => true
          | _ => false
        if style.dialect = .basic && more then .error .badRepetition
        else readRepetitions style fuel (.repeated item least most) { reading with rest }
      match nextToken style false reading.rest with
      | some (.star, rest) => again 0 none rest
      | some (.plus, rest) => again 1 none rest
      | some (.optional, rest) => again 0 (some 1) rest
      | some (.interval, rest) =>
          match readInterval style.dialect rest with
          | .ok ((least, most), rest) => again least most rest
          | .error error => .error error
      | _ => .ok (item, reading)

/-- An operator that has nothing to repeat. -/
def strayOperator (style : PatternStyle) (token : Token) (char : Char) : Except PatternError Char :=
  if style.dialect = .basic ∧ token ≠ .interval then .ok char else .error .badRepetition

/-- One character, with its other case if that does not matter. -/
def letterOf (style : PatternStyle) (char : Char) : Pattern :=
  one ⟨false, [(style.letter char, style.letter char)], style.ignoresCase⟩

mutual
/-- Alternatives, inside of `depth` groups. One of them cannot refer to groups
of another. `fuel` bounds the number of steps. -/
def readChoice (style : PatternStyle) : (fuel depth : Nat) → Reading →
    Except PatternError (Pattern × Reading)
  | 0, _, _ => .error .tooBig
  | fuel + 1, depth, start => do
      let (first, reading) ← readSequence style fuel depth true start
      match nextToken style true reading.rest with
      | some (.bar, rest) =>
          let (second, after) ←
            readChoice style fuel depth
              { reading with rest, complete := start.complete, inside := true }
          return (either first second,
            { after with complete := reading.complete ++ after.complete })
      | _ => return (first, reading)

def readSequence (style : PatternStyle) : (fuel depth : Nat) → (atStart : Bool) → Reading →
    Except PatternError (Pattern × Reading)
  | 0, _, _, _ => .error .tooBig
  | fuel + 1, depth, atStart, reading =>
      match nextToken style atStart reading.rest with
      | none | some (.bar, _) => return (nothing, reading)
      | some (.closing, rest) =>
          if 0 < depth then return (nothing, reading)
          else do
            let (item, reading) ← readItem style fuel depth .closing { reading with rest }
            let (others, reading) ← readSequence style fuel depth false reading
            return (pair item others, reading)
      | some (token, rest) => do
          let (item, reading) ← readItem style fuel depth token { reading with rest }
          let (others, reading) ← readSequence style fuel depth false reading
          return (pair item others, reading)

/-- The item that a token begins. -/
def readItem (style : PatternStyle) : (fuel depth : Nat) → Token → Reading →
    Except PatternError (Pattern × Reading)
  | 0, _, _, _ => .error .tooBig
  | fuel + 1, depth, token, reading =>
      let repeatable (item : Pattern) (reading : Reading) :=
        readRepetitions style reading.rest.length item reading
      match token with
      | .edge edge => return (.border edge, reading)
      | .wordEdge isEdge => return (if isEdge then wordEdge else noWordEdge, reading)
      | .char char => repeatable (letterOf style char) reading
      | .oneOf accepted => repeatable (one accepted) reading
      | .bracket => do
          let (accepted, rest) ← readBracket style reading.rest
          repeatable (one accepted) { reading with rest }
      | .reference number =>
          if number ∈ reading.complete then repeatable (.reference number) reading
          else .error .invalidReference
      | .opening => do
          let number := reading.opened + 1
          let (inner, reading) ← readChoice style fuel (depth + 1) { reading with opened := number }
          match nextToken style false reading.rest with
          | some (.closing, rest) =>
              repeatable (.group number inner)
                { reading with rest, complete := number :: reading.complete }
          | _ => .error .unmatchedOpening
      | .closing =>
          if style.strict then repeatable (letterOf style ')') reading
          else .error .unmatchedClosing
      | .star => do
          repeatable (letterOf style (← strayOperator style token '*')) reading
      | .plus => do
          repeatable (letterOf style (← strayOperator style token '+')) reading
      | .optional => do
          repeatable (letterOf style (← strayOperator style token '?')) reading
      | .interval => do
          repeatable (letterOf style (← strayOperator style token '\x7b')) reading
      | .bar => return (nothing, reading)
      | .backslash => .error .danglingBackslash
end

def parse (style : PatternStyle) (text : List Char) : Except PatternError Pattern :=
  (readChoice style (4 * text.length + 4) 0 ⟨text, 0, [], false⟩).map (·.1)

end Pattern

def Matcher.parse (style : PatternStyle) (text : List Char) : Except PatternError Matcher :=
  (Pattern.parse style text).map fun pattern => .ofPattern pattern style.byLine

end Dilemma
