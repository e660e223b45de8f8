import Dilemma.Command.Tools.Pattern.Lenient
import Dilemma.Number.Binary64

/-! # Tokens of line programs

A slash begins a pattern wherever an operand can stand, and divides where an
operand has just been given. Line feeds are tokens, since they end statements;
comments, other blanks and protected line feeds are nothing. -/

namespace Dilemma.Awk

inductive Token where
  | number (text : List Char)
  | text (value : List Char)
  | pattern (source : List Char)
  | name (value : String)
  /-- A name with a parenthesis right behind it. -/
  | call (name : String)
  | function (name : String)
  | keyword (name : String)
  | mark (value : String)
  | lineEnd
  /-- A character that belongs to no other token. -/
  | unexpected (complaint : String)
  /-- What cannot be read any further. -/
  | broken (complaint : String)
  deriving DecidableEq, Repr

namespace Token

def keywords : List String :=
  ["BEGIN", "END", "if", "else", "while", "for", "do", "break", "continue", "next", "exit",
   "delete", "in", "getline", "print", "printf", "function", "return", "nextfile"]

def functions : List String :=
  ["length", "substr", "index", "split", "sub", "gsub", "match", "sprintf", "tolower", "toupper",
   "int", "close", "fflush", "sqrt", "exp", "log", "sin", "cos", "atan2", "rand", "srand", "system",
   "systime", "mktime", "strftime"]

/-- Longer marks first. -/
def marks : List String :=
  ["^=", "+=", "-=", "*=", "/=", "%=", "==", "<=", ">=", "!=", "!~", "++", "--", "&&",
   "||", ">>", "\x7b", "\x7d", "(", ")", "[", "]", ";", ",", "+", "-", "*", "/", "%", "^",
   "!", ">", "<", "|", "?", ":", "~", "$", "="]

def ofWord (word : String) (called : Bool) : Token :=
  if word ∈ keywords then .keyword word
  else if word ∈ functions then .function word
  else if called then .call word
  else .name word

/-- After these an operator is expected. -/
def endsOperand : Token → Bool
  | .number _ | .text _ | .pattern _ | .name _ => true
  | .keyword word => word = "getline"
  | .mark value => value = ")" || value = "]"
  | _ => false

def isStep (token : Token) : Bool := token = .mark "++" || token = .mark "--"

/-- How a token is shown in complaints. -/
def shown : Token → String
  | .number value | .text value => String.ofList value
  | .pattern source => s!"/{String.ofList source}/"
  | .name value | .call value | .function value | .keyword value | .mark value => value
  | .lineEnd => "end of line"
  | .unexpected complaint | .broken complaint => complaint

end Token

/-! ## Reading -/

def isDigit (char : Char) : Bool := (Text.digitValue? char).isSome

def isWordStart (char : Char) : Bool :=
  CharClass.contains (CharClass.lower ++ CharClass.upper ++ [('_', '_')]) char

def isWordChar (char : Char) : Bool := CharClass.contains CharClass.wordRanges char

/-- A character behind a backslash. What means nothing keeps the backslash. -/
def stringEscape : List Char → List Char × List Char
  | [] => (['\\'], [])
  | char :: rest =>
      let coded := if char = 'x' then Pattern.codeChar? 16 2 rest
        else Pattern.codeChar? 8 3 (char :: rest)
      match coded with
      | some (char, rest) => ([char], rest)
      | none =>
          match char with
          | '"' | '\\' => ([char], rest)
          | 'b' => (['\x08'], rest)
          | '\n' => ([], rest)
          | char =>
              match Pattern.commonEscape char with
              | .char meant => (if meant = char then ['\\', char] else [meant], rest)
              | _ => (['\\', char], rest)

/-- The contents of a string up to its closing quote. `fuel` bounds the number
of characters. -/
def readString : (fuel : Nat) → List Char → Option (List Char × List Char)
  | 0, _ | _, [] => none
  | _ + 1, '"' :: rest => some ([], rest)
  | fuel + 1, '\\' :: rest =>
      let (taken, rest) := stringEscape rest
      (readString fuel rest).map fun (text, rest) => (taken ++ text, rest)
  | fuel + 1, char :: rest =>
      (readString fuel rest).map fun (text, rest) => (char :: text, rest)

/-- Escapes in a text that no quotes end. `fuel` bounds the number of
characters. -/
def unescapedFrom : (fuel : Nat) → List Char → List Char
  | 0, _ | _, [] => []
  | fuel + 1, '\\' :: rest =>
      let (taken, rest) := stringEscape rest
      taken ++ unescapedFrom fuel rest
  | fuel + 1, char :: rest => char :: unescapedFrom fuel rest

def unescaped (text : List Char) : List Char := unescapedFrom text.length text

/-- A class in a pattern up to its bracket, which is not the end if it comes
first. Named parts are read over. `fuel` bounds the number of characters. -/
def readClass : (fuel : Nat) → (first : Bool) → List Char → Option (List Char × List Char)
  | 0, _, _ | _, _, [] | _, _, '\n' :: _ => none
  | fuel + 1, _, '\\' :: char :: rest =>
      (readClass fuel false rest).map fun (text, rest) => ('\\' :: char :: text, rest)
  | fuel + 1, first, '^' :: rest =>
      (readClass fuel first rest).map fun (text, rest) => ('^' :: text, rest)
  | fuel + 1, _, '[' :: ':' :: rest =>
      let name := rest.takeWhile (· ≠ ':')
      match rest.dropWhile (· ≠ ':') with
      | ':' :: ']' :: rest =>
          (readClass fuel false rest).map fun (text, rest) =>
            ('[' :: ':' :: name ++ ':' :: ']' :: text, rest)
      | _ => (readClass fuel false (':' :: rest)).map fun (text, rest) => ('[' :: text, rest)
  | fuel + 1, first, char :: rest =>
      if char = ']' ∧ ¬ first then some ([']'], rest)
      else (readClass fuel false rest).map fun (text, rest) => (char :: text, rest)

/-- A pattern up to the slash that ends it, as it is written. `fuel` bounds
the number of characters. -/
def readPattern : (fuel : Nat) → List Char → Option (List Char × List Char)
  | 0, _ | _, [] | _, '\n' :: _ => none
  | _ + 1, '/' :: rest => some ([], rest)
  | fuel + 1, '\\' :: char :: rest =>
      (readPattern fuel rest).map fun (text, rest) => ('\\' :: char :: text, rest)
  | fuel + 1, '[' :: rest => do
      let (body, rest) ← readClass (rest.length + 1) true rest
      let (text, rest) ← readPattern fuel rest
      return ('[' :: body ++ text, rest)
  | fuel + 1, char :: rest =>
      (readPattern fuel rest).map fun (text, rest) => (char :: text, rest)

/-- What is wrong with a pattern. -/
def patternFault : PatternError → String
  | .unmatchedOpening => "missing ')'"
  | .unmatchedBracket | .unknownClass => "bad class -- [], [^] or ["
  | error => error.message

def patternComplaint (error : PatternError) (source : List Char) : String :=
  s!"regular expression compile failed ({patternFault error})\n{String.ofList source}"

/-- The digits of an exponent, if there are any, with its letter and sign. -/
def readExponent (text : List Char) : List Char × List Char :=
  let (head, rest) := match text with
    | 'e' :: '-' :: rest | 'E' :: '-' :: rest => (['e', '-'], rest)
    | 'e' :: '+' :: rest | 'E' :: '+' :: rest => (['e'], rest)
    | 'e' :: rest | 'E' :: rest => (['e'], rest)
    | rest => ([], rest)
  let digits := rest.takeWhile isDigit
  if head.isEmpty || digits.isEmpty then ([], text)
  else (head ++ digits, rest.dropWhile isDigit)

/-- Digits with at most one point, and an exponent. -/
def readNumber (text : List Char) : List Char × List Char :=
  let whole := text.takeWhile isDigit
  let (fraction, rest) := match text.dropWhile isDigit with
    | '.' :: rest => ('.' :: rest.takeWhile isDigit, rest.dropWhile isDigit)
    | rest => ([], rest)
  let (exponent, rest) := readExponent rest
  (whole ++ fraction ++ exponent, rest)

/-- The value of digits as they have been read. -/
def numberOf (text : List Char) : Binary64 :=
  let digits (part : List Char) : List Char := part.takeWhile isDigit
  let whole := digits text
  let fraction := match text.dropWhile isDigit with
    | '.' :: rest => digits rest
    | _ => []
  let (negative, exponent) := match text.dropWhile fun char => isDigit char || char = '.' with
    | 'e' :: '-' :: rest => (true, digits rest)
    | 'e' :: rest => (false, digits rest)
    | _ => (false, [])
  let power : Nat := min ((Text.digits? exponent).getD 0) 100000
  .ofDecimal false ((Text.digits? (whole ++ fraction)).getD 0)
    ((if negative then -(power : Int) else power) - fraction.length)

/-- A mark at the beginning of a text. -/
def readMark (text : List Char) : Option (Token × List Char) :=
  (Token.marks.find? fun mark => mark.toList.isPrefixOf text).map fun mark =>
    (.mark mark, text.drop mark.length)

/-- The text of something that has no end on its line, without the marks that
protect it. -/
def shownText : List Char → List Char
  | [] | '\n' :: _ | ['\\', '\n'] => []
  | '\\' :: '/' :: rest => '/' :: shownText rest
  | char :: rest => char :: shownText rest

/-- The beginning of something that has no end on its line. -/
def runaway (what : String) (quote : Char) (rest : List Char) : Token :=
  .broken s!"runaway {what} {String.ofList (quote :: (shownText rest).take 10)} ..."

/-- A character that is not printed is shown by its code. -/
def unexpected (char : Char) : Token :=
  let code := Nat.toDigits 16 char.toNat
  let padded := String.ofList (List.replicate (2 - code.length) '0' ++ code)
  let shown := if CharClass.contains [(' ', '~')] char then s!"'{char}'" else s!"0x{padded}"
  .unexpected s!"unexpected character {shown}"

/-- What remains behind a slash. After a step it takes the character behind it
along, unless that is an equals sign. -/
def behindSlash (previous : Token) (rest : List Char) : List Char :=
  if previous.isStep ∧ rest.head? ≠ some '=' then rest.drop 1 else rest

/-- The next token of a text. A point takes the character behind it along. -/
def nextToken (previous : Token) (text : List Char) : Token × List Char :=
  let marked (char : Char) : Token × List Char :=
    (readMark text).getD (unexpected char, text.drop 1)
  match text with
  | '"' :: rest =>
      match readString (rest.length + 1) rest with
      | some (value, rest) => (.text value, rest)
      | none => (runaway "string constant" '"' rest, [])
  | '/' :: rest =>
      if previous.endsOperand then marked '/'
      else
        let rest := behindSlash previous rest
        match readPattern (rest.length + 1) rest with
        | some (source, rest) => (.pattern source, rest)
        | none => (runaway "regular expression" '/' rest, [])
  | '.' :: rest =>
      if rest.head?.any isDigit then
        let (number, rest) := readNumber text
        (.number number, rest)
      else (unexpected '.', rest.drop 1)
  | char :: _ =>
      if isDigit char then
        let (number, rest) := readNumber text
        (.number number, rest)
      else if isWordStart char then
        let rest := text.dropWhile isWordChar
        (.ofWord (String.ofList (text.takeWhile isWordChar)) (rest.head? = some '('), rest)
      else marked char
  | [] => (.lineEnd, [])

/-- All tokens behind one. `fuel` bounds their number, and that of blanks. -/
def readTokens : (fuel : Nat) → (previous : Token) → List Char → List Token
  | 0, _, _ | _, _, [] => []
  | fuel + 1, previous, char :: rest =>
      match char, rest with
      | ' ', rest | '\t', rest | '\r', rest => readTokens fuel previous rest
      | '\\', '\n' :: rest => readTokens fuel previous rest
      | '#', rest => readTokens fuel previous (rest.dropWhile (· ≠ '\n'))
      | '\n', rest => .lineEnd :: readTokens fuel .lineEnd rest
      | char, rest =>
          match nextToken previous (char :: rest) with
          | (.broken complaint, _) => [.broken complaint]
          | (token, rest) => token :: readTokens fuel token rest

/-- The last line is ended if it is not. -/
def tokens (text : String) : List Token :=
  let text := text.toList
  let text := if text.getLast? = some '\n' then text else text ++ ['\n']
  readTokens (text.length + 1) .lineEnd text

example : tokens "x/2~/a\\/[/]/" =
    [.name "x", .mark "/", .number ['2'], .mark "~", .pattern "a\\/[/]".toList, .lineEnd] := by
  decide +kernel
example : tokens "x@" = [.name "x", .unexpected "unexpected character '@'", .lineEnd] := by
  decide +kernel

end Dilemma.Awk
