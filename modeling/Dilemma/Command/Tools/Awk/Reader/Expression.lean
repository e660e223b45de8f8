import Dilemma.Command.Tools.Awk.Reader.Basic
import Dilemma.Number.Places

/-! # Reading expressions

Expressions are read by levels of binding: alternatives bind loosest, and a
target takes an assignment at once wherever it stands. Texts that follow each
other without an operator are joined. -/

namespace Dilemma.Awk

/-! ## Operators -/

def arithmeticOf? : String → Option Arithmetic
  | "+" | "+=" => some .add
  | "-" | "-=" => some .subtract
  | "*" | "*=" => some .multiply
  | "/" | "/=" => some .divide
  | "%" | "%=" => some .remainder
  | "^" | "^=" => some .power
  | _ => none

/-- What an assignment mark does with the old value; the inner `none` drops it. -/
def assignmentOf? (mark : String) : Option (Option Arithmetic) :=
  if mark = "=" then some none
  else if mark ∈ ["+=", "-=", "*=", "/=", "%=", "^="] then (arithmeticOf? mark).map some
  else none

def comparisonOf? : String → Option Comparison
  | "<" => some .less
  | "<=" => some .atMost
  | "==" => some .equal
  | "!=" => some .different
  | ">=" => some .atLeast
  | ">" => some .greater
  | _ => none

/-- An operator between two operands. -/
abbrev Combine := Expression → Expression → Expression

/-- The levels of alternatives, of keys, of texts that are joined, and of the
tightest operators between operands. -/
def orLevel : Nat := 0
def keyLevel : Nat := 2
def joinLevel : Nat := 5
def lastLevel : Nat := 7

/-- The operator that a mark is at a level. In a statement that prints, an
angle bracket leads to a file instead. -/
def operatorOf? (level : Nat) (printing : Bool) (mark : String) : Option Combine :=
  match level with
  | 0 => if mark = "||" then some .either else none
  | 1 => if mark = "&&" then some .both else none
  | 3 =>
      if mark = "~" then some (.matching true)
      else if mark = "!~" then some (.matching false)
      else none
  | 4 =>
      if printing ∧ mark = ">" then none
      else (comparisonOf? mark).map fun operator => .comparison operator
  | 6 =>
      if mark = "+" ∨ mark = "-" then (arithmeticOf? mark).map fun operator => .arithmetic operator
      else none
  | 7 =>
      if mark = "*" ∨ mark = "/" ∨ mark = "%" then
        (arithmeticOf? mark).map fun operator => .arithmetic operator
      else none
  | _ => none

/-- A text that is joined to another can begin like this. A sign stands
between two operands instead. -/
def continuesJoin : Token → Bool
  | .number _ | .text _ | .pattern _ | .name _ | .call _ | .function _ => true
  | .keyword name => name = "getline"
  | .mark value => value ∈ ["$", "!", "(", "++", "--"]
  | _ => false

/-! ## Calls -/

/-- The functions of values, with the least and the largest number of arguments. -/
def functionOf? : String → Option (Function × Nat × Nat)
  | "substr" => some (.substring, 2, 3)
  | "index" => some (.index, 2, 2)
  | "tolower" => some (.lower, 1, 1)
  | "toupper" => some (.upper, 1, 1)
  | "int" => some (.whole, 1, 1)
  | "sqrt" => some (.root, 1, 1)
  | "exp" => some (.exponential, 1, 1)
  | "log" => some (.logarithm, 1, 1)
  | "sin" => some (.sine, 1, 1)
  | "cos" => some (.cosine, 1, 1)
  | "atan2" => some (.arcTangent, 2, 2)
  | "rand" => some (.random, 0, 0)
  | "srand" => some (.seed, 0, 1)
  | "sprintf" => some (.format, 1, 1000)
  | "close" => some (.close, 1, 1)
  | "fflush" => some (.flush, 0, 1)
  | "system" => some (.system, 1, 1)
  | "systime" => some (.clock, 0, 0)
  | "mktime" => some (.moment, 1, 1)
  | "strftime" => some (.date, 0, 3)
  | _ => none

/-- A call of a function of values. -/
def readCall (name : String) (arguments : List Expression) : Reading Expression := do
  match functionOf? name with
  | none => fail
  | some (function, least, most) =>
      if arguments.length < least ∨ most < arguments.length then
        complain s!"wrong number of arguments in call to {name}"
      return .call function (.ofList arguments)

def wholeLine : Expression := .field (.number .zero)

/-- What a text means as a pattern. -/
def readPatternOf (source : List Char) : Reading Expression := do
  match Matcher.parseLenient source with
  | .ok pattern => return .pattern pattern
  | .error error =>
      complain (patternComplaint error source)
      return wholeLine

/-- A text that is written in the program and used as a pattern is one. -/
def asPattern (expression : Expression) : Reading Expression :=
  match expression with
  | .text source => readPatternOf source
  | expression => return expression

/-- A separator of one character is not a pattern. -/
def asSeparator (expression : Expression) : Reading Expression :=
  match expression with
  | .text [_] | .text [] => return expression
  | expression => asPattern expression

/-- A number has to be in the range of the format. -/
def readNumberOf (text : List Char) : Reading Expression := do
  let value := numberOf text
  let hasDigit := (text.takeWhile (· ≠ 'e')).any fun char => isDigit char && char ≠ '0'
  if ¬ value.isFinite then complain s!"{String.ofList text} : decimal overflow"
  if value.isZero && hasDigit then complain s!"{String.ofList text} : decimal underflow"
  return .number value

/-! ## Expressions -/

mutual
/-- Any expression. `fuel` bounds the depth of the reading. -/
def readExpression : (fuel : Nat) → (printing : Bool) → Reading Expression
  | 0, _ => fail
  | fuel + 1, printing => do
      let test ← readLevel fuel orLevel printing
      if ← take (.mark "?") then
        let yes ← readExpression fuel printing
        expect ":"
        return .choice test yes (← readExpression fuel printing)
      else return test

/-- Operands joined by the operators of a level and of tighter ones. A target
that begins a join can be given a value instead. -/
def readLevel : (fuel level : Nat) → (printing : Bool) → Reading Expression
  | 0, _, _ => fail
  | fuel + 1, level, printing => do
      let left ← if level < lastLevel then readLevel fuel (level + 1) printing
        else readSigned fuel printing
      match ← peek with
      | some (.mark mark) =>
          match assignmentOf? mark with
          | some operator =>
              if level = joinLevel ∧ left.isTarget then
                skip
                return .assign left operator (← readExpression fuel printing)
              else readMore fuel level printing left
          | none => readMore fuel level printing left
      | _ => readMore fuel level printing left

/-- What follows an operand at a level. -/
def readMore : (fuel level : Nat) → (printing : Bool) → Expression → Reading Expression
  | 0, _, _, _ => fail
  | fuel + 1, level, printing, left => do
      let right : Reading Expression :=
        if level < lastLevel then readLevel fuel (level + 1) printing
        else readSigned fuel printing
      match ← peek with
      | some (.mark mark) =>
          match operatorOf? level printing mark with
          | some combine =>
              skip
              if level < keyLevel then skipLineEnds
              let operand ← right
              let operand ← if level = keyLevel + 1 then asPattern operand else pure operand
              readMore fuel level printing (combine left operand)
          | none =>
              if level = joinLevel ∧ continuesJoin (.mark mark) then
                readMore fuel level printing (.joined left (← right))
              else return left
      | some (.keyword "in") =>
          if level = keyLevel then
            skip
            let keys := match left with
              | .grouping items => items
              | left => .ofList [left]
            readMore fuel level printing (.membership keys (← expectName .array))
          else return left
      | some token =>
          if level = joinLevel ∧ continuesJoin token then
            readMore fuel level printing (.joined left (← right))
          else return left
      | none => return left

/-- Signs bind tighter than products, and looser than reading and powers. -/
def readSigned : (fuel : Nat) → (printing : Bool) → Reading Expression
  | 0, _ => fail
  | fuel + 1, printing => do
      if ← take (.mark "!") then return .negation (← readSigned fuel printing)
      else if ← take (.mark "-") then return .sign true (← readSigned fuel printing)
      else if ← take (.mark "+") then return .sign false (← readSigned fuel printing)
      else readPiped fuel printing (← readPower fuel printing)

/-- A record can be read from the output of a command. -/
def readPiped : (fuel : Nat) → (printing : Bool) → Expression → Reading Expression
  | 0, _, _ => fail
  | fuel + 1, printing, command => do
      if ¬ printing ∧ (← peek) = some (.mark "|") then
        skip
        if ← take (.keyword "getline") then
          readPiped fuel printing (.readOutput command (← readLineTarget fuel))
        else fail
      else return command

def readPower : (fuel : Nat) → (printing : Bool) → Reading Expression
  | 0, _ => fail
  | fuel + 1, printing => do
      let base ← readStepped fuel
      if ← take (.mark "^") then
        return .arithmetic .power base (← readSigned fuel printing)
      else return base

/-- A step can stand in front of a target or behind it. -/
def readStepped : (fuel : Nat) → Reading Expression
  | 0 => fail
  | fuel + 1 => do
      if ← take (.mark "++") then return .step (← readTarget fuel) true true
      else if ← take (.mark "--") then return .step (← readTarget fuel) false true
      else
        let operand ← readOperand fuel
        if ¬ operand.isTarget then return operand
        else if ← take (.mark "++") then return .step operand true false
        else if ← take (.mark "--") then return .step operand false false
        else return operand

/-- What can be given a value. Only fields can stand in parentheses. -/
def readTarget : (fuel : Nat) → Reading Expression
  | 0 => fail
  | fuel + 1 => do
      match ← peek with
      | some (.name _) | some (.mark "$") => readOperand fuel
      | some (.mark "(") =>
          skip
          if ¬ (← nextIs (.mark "$")) then fail
          let field ← readOperand fuel
          expect ")"
          return field
      | _ => fail

/-- The target of a record that is read, if there is one. -/
def readLineTarget : (fuel : Nat) → Reading Expressions
  | 0 => fail
  | fuel + 1 => do
      match ← peek with
      | some (.name _) | some (.mark "$") | some (.mark "(") =>
          return .ofList [← readTarget fuel]
      | _ => return .nil

/-- Without a comma, parentheses around a field are nothing. Several items are
the keys of an array. -/
def readOperand : (fuel : Nat) → Reading Expression
  | 0 => fail
  | fuel + 1 => do
      match ← peek with
      | some (.number text) =>
          skip
          readNumberOf text
      | some (.text value) =>
          skip
          return .text value
      | some (.pattern source) =>
          skip
          match Matcher.parseLenient source with
          | .ok pattern => return .pattern pattern
          | .error _ => return wholeLine
      | some (.mark "$") =>
          skip
          readFieldIndex fuel
      | some (.mark "(") =>
          skip
          let items ← readItems fuel
          expect ")"
          match items with
          | [.field index] => return .field index
          | [item] => return .grouping (.ofList [item])
          | items =>
              if ← nextIs (.keyword "in") then return .grouping (.ofList items) else fail
      | some (.keyword "getline") =>
          skip
          let target ← readLineTarget fuel
          if ← take (.mark "<") then return .readFile (← readPower fuel true) target
          else return .readLine target
      | some (.function name) =>
          skip
          readFunction fuel name
      | some (.call name) =>
          skip
          expect "("
          let arguments ← if ← take (.mark ")") then pure [] else readGiven fuel
          noteCall ⟨name, (← get).line, arguments.map (·.1)⟩
          return .invoke name (.ofList (arguments.map (·.2)))
      | some (.name name) =>
          skip
          if name = "NF" then return .named name
          else if ← take (.mark "[") then
            useName name .array
            let keys ← readItems fuel
            expect "]"
            return .element name (.ofList keys)
          else
            useName name .value
            return .named name
      | _ => fail

/-- The index of a field binds tighter than any operator. -/
def readFieldIndex : (fuel : Nat) → Reading Expression
  | 0 => fail
  | fuel + 1 => do
      match ← peek with
      | some (.mark "-") =>
          skip
          return .field (.sign true (← readOperand fuel))
      | some (.mark "++") | some (.mark "--") => return .field (← readStepped fuel)
      | some (.number text) =>
          if ¬ (numberOf text).isWhole then
            complain s!"${String.ofList text} is invalid field index"
          return .field (← readOperand fuel)
      | _ => return .field (← readOperand fuel)

/-- A call behind its name. Some functions do not have values as arguments. -/
def readFunction : (fuel : Nat) → (name : String) → Reading Expression
  | 0, _ => fail
  | fuel + 1, name => do
      match name with
      | "length" =>
          match (← get).tokens with
          | .mark "(" :: .name array :: .mark ")" :: _ =>
              skip
              skip
              skip
              return .arrayLength array
          | .mark "(" :: .mark ")" :: _ =>
              skip
              skip
              return .call .length (.ofList [wholeLine])
          | .mark "(" :: _ =>
              skip
              let argument ← readExpression fuel false
              expect ")"
              return .call .length (.ofList [argument])
          | _ => return .call .length (.ofList [wholeLine])
      | "sub" | "gsub" =>
          expect "("
          let sought ← asPattern (← readExpression fuel false)
          expectOpen ","
          let replacement ← readExpression fuel false
          let target ← if ← take (.mark ",") then
              skipLineEnds
              readTarget fuel
            else pure wholeLine
          expect ")"
          return .replace (name = "gsub") sought replacement target
      | "match" =>
          expect "("
          let subject ← readExpression fuel false
          expectOpen ","
          let sought ← asPattern (← readExpression fuel false)
          expect ")"
          return .search subject sought
      | "split" =>
          expect "("
          let subject ← readExpression fuel false
          expectOpen ","
          let array ← expectName .array
          let separator : Expressions ← if ← take (.mark ",") then
              pure (.ofList [← asSeparator (← readExpression fuel false)])
            else pure .nil
          expect ")"
          return .split subject array separator
      | name => readCall name (← readArguments fuel)

def readArguments : (fuel : Nat) → Reading (List Expression)
  | 0 => fail
  | fuel + 1 => do
      expect "("
      if ← take (.mark ")") then return []
      else
        let arguments ← readItems fuel
        expect ")"
        return arguments

/-- What is given to a function, up to its parenthesis. -/
def readGiven : (fuel : Nat) → Reading (List (Given × Expression))
  | 0 => fail
  | fuel + 1 => do
      let (given, argument) : Given × Expression ← match (← get).tokens with
        | .name name :: .mark mark :: _ =>
            if name ≠ "NF" ∧ (mark = "," ∨ mark = ")") then
              skip
              pure (← givenName name, .named name)
            else pure (.value, ← readExpression fuel false)
        | _ => pure (.value, ← readExpression fuel false)
      if ← take (.mark ",") then
        skipLineEnds
        return (given, argument) :: (← readGiven fuel)
      else
        expect ")"
        return [(given, argument)]

/-- Expressions between commas, not in a statement that prints. -/
def readItems : (fuel : Nat) → Reading (List Expression)
  | 0 => fail
  | fuel + 1 => do
      let item ← readExpression fuel false
      if ← take (.mark ",") then
        skipLineEnds
        return item :: (← readItems fuel)
      else return [item]
end

/-- Expressions between commas in a statement that prints. -/
def readPrinted : (fuel : Nat) → Reading (List Expression)
  | 0 => fail
  | fuel + 1 => do
      let item ← readExpression fuel true
      if ← take (.mark ",") then
        skipLineEnds
        return item :: (← readPrinted fuel)
      else return [item]

end Dilemma.Awk
