import Dilemma.Command.Tools.Awk.Exchange
import Dilemma.Command.Tools.Pattern.Replacement

/-! # Evaluating expressions

Expressions are evaluated by recursion. An expression that names a place is
evaluated to that place if it is to be given a value. -/

namespace Dilemma.Awk

/-! ## Functions -/

/-- So many characters from a place on, counted from one. A beginning in front
of the text makes the part longer. -/
def portion (text : List Char) (start : Int) (count : Option Int) : List Char :=
  let count := count.getD text.length
  (text.drop (start - 1).toNat).take
    (if start < 1 then Number.wrapped (count - start) else count).toNat

example : portion "hello".toList 2 (some 3) = "ell".toList := by decide +kernel

/-- Where a text first occurs in another, counted from `place`; zero if it
does not. -/
def indexFrom (place : Nat) (sought : List Char) : List Char → Nat
  | [] => if sought.isEmpty then place else 0
  | char :: rest =>
      if sought.isPrefixOf (char :: rest) then place else indexFrom (place + 1) sought rest

/-- A format with values; `called` is what asks for it. -/
def formatted (called : String) (values : List Value) : Evaluation (List Char) := do
  let machine ← get
  let text := machine.textOf (values.headD .unset)
  match formatWith machine.textOf text (values.drop 1) with
  | .ok text => return text
  | .error error => fault (.badFormat called text error)

/-- Run a command and wait for it. -/
def runCommand (line : List Char) : Evaluation Value := do
  let machine ← get
  let execution := machine.host.start (String.ofList line) (String.ofList machine.console)
  set (machine.flush.takeIn execution)
  return .ofNat execution.status

/-- Let out what has been written, at most for one partner. -/
def flushFor : List Value → Evaluation Value
  | [] => do
      modify Machine.flush
      return .ofNat 0
  | value :: _ => do
      let name := String.ofList ((← get).textOf value)
      let isKnown := (← get).writers.any fun (partner, _) =>
        partner = .file name ∨ partner = .command name
      if name = "/dev/stdout" then modify Machine.flush
      return .ofInt (if isKnown ∨ name = "/dev/stdout" then 0 else -1)

def applyFunction (function : Function) (values : List Value) : Evaluation Value := do
  let first := values.headD .unset
  let second := (values.drop 1).headD .unset
  let text := (← get).textOf first
  let number := first.toNumber
  match function with
  | .length => return .ofNat text.length
  | .substring =>
      return .text (portion text second.toInt (((values.drop 2).head?).map Value.toInt))
  | .index => return .ofNat (indexFrom 1 ((← get).textOf second) text)
  | .lower => return .text (text.map Char.toLower)
  | .upper => return .text (text.map Char.toUpper)
  | .whole => return .number (number.map fun value => (value.truncated.map .ofInt).getD value)
  | .root => return .number (number.map .root)
  | .exponential => return .number (number.map .exponential)
  | .logarithm => return .number (number.map .logarithm)
  | .sine => return .number (number.map .sine)
  | .cosine => return .number (number.map .cosine)
  | .arcTangent =>
      return .number (second.toNumber.combine (fun width height => height.arcTangent width) number)
  | .random =>
      let (value, draws) := (← get).draws.draw
      modify ({ · with draws })
      return .number (.of value)
  | .seed =>
      let before := (← get).seed
      let seed := if values.isEmpty then .ofInt Moment.now else first
      modify ({ · with seed, draws := .ofSeed seed.toInt })
      return before
  | .format =>
      let text ← formatted "sprintf" (values.map Value.asInput)
      let limit := (← get).formatLimit
      if limit < text.length then fault (.formatTooLong limit)
      return .text text
  | .close =>
      let (machine, status) := (← get).close (String.ofList text)
      set machine
      return .ofInt status
  | .flush => flushFor values
  | .system => runCommand text
  | .clock => return .ofInt Moment.now
  | .moment => return .ofInt ((Moment.read? text).getD (-1))
  | .date =>
      let layout := if values.isEmpty then "%c".toList else text
      return .text (Moment.write second.toInt layout)

/-! ## Patterns -/

/-- A value that is no pattern is read as one. -/
def soughtBy (value : Value) : Expression → Evaluation Matcher
  | .pattern pattern => return pattern
  | _ => do readAs Matcher.parseLenient ((← get).textOf value)

/-- An ampersand stands for what has been found, unless a backslash protects
it. -/
def fillIn (found : List Char) : List Char → List Char
  | [] => []
  | '\\' :: '&' :: rest => '&' :: fillIn found rest
  | '\\' :: '\\' :: rest => '\\' :: fillIn found rest
  | '&' :: rest => found ++ fillIn found rest
  | char :: rest => char :: fillIn found rest

/-- Replace matches at a place, and count them. -/
def replaceAt (place : Place) (everywhere : Bool) (pattern : Matcher) (text : List Char) :
    Evaluation Value := do
  let machine ← get
  let replacement : Matcher.Replacement := ⟨1, everywhere, fun found => fillIn found.chars text⟩
  let (changed, count) := pattern.replaceIn replacement (machine.textOf (machine.fetch place))
  if 0 < count then
    let _ ← assignTo place (.text (← withinLength changed))
  return .ofNat count

/-- Remember where a match begins and how long it is. -/
def searchIn (text : List Char) (pattern : Matcher) : Evaluation Value := do
  let (start, length) : Value × Value :=
    match pattern.find? text.toArray 0 with
    | some found => (.ofNat (found.start + 1), .ofNat found.length)
    | none => (.ofNat 0, .ofInt (-1))
  modify fun machine => (machine.store "RSTART" start).store "RLENGTH" length
  return start

/-- The parts of a text become the elements of an array. -/
def splitInto (name : String) (parts : List (List Char)) : Evaluation Value := do
  let elements := parts.mapIdx fun index part => (Text.natural (index + 1), Value.input part)
  modify (·.setArray name (.ofElements elements))
  return .ofNat parts.length

/-! ## Keys and records -/

/-- Several keys are one, with a separator between them. -/
def keyOf (keys : List Value) : Evaluation (List Char) := do
  let machine ← get
  return Machine.joinedWith (machine.lookUp "SUBSEP").toText (keys.map machine.textOf)

/-- A record that has been read is for a place, or for all fields. -/
def receive (place : Option Place) (record : List Char) : Evaluation Unit := do
  match place with
  | none => setLine record
  | some place =>
      let _ ← assignTo place (.input record)

/-- The result of reading from a partner. -/
def receiveFrom (partner : Partner) (place : Option Place) : Evaluation Value := do
  match ← recordFrom partner with
  | .ok record =>
      receive place record
      return .ofNat 1
  | .error status => return .ofInt status

/-- The result of reading from the input. -/
def receiveNext (place : Option Place) : Evaluation Value := do
  match ← countedRecord with
  | some record =>
      receive place record
      return .ofNat 1
  | none => return .ofNat 0

/-- The number of elements, or else of characters. -/
def sizeOf (name : String) : Evaluation Value := do
  let machine ← get
  match machine.array? name with
  | some table => return .ofNat table.size
  | none => return .ofNat (machine.textOf (machine.fetch (.named name))).length

/-- The place of an element, which exists as soon as it is asked for. -/
def elementAt (name : String) (keys : List Value) : Evaluation Place := do
  let place := Place.element name (← keyOf keys)
  modify (·.touch place)
  return place

/-- The place of a field. -/
def fieldAt (value : Value) : Evaluation Place := do
  let number := value.toNumber
  if number.value.less .zero ∨ number.isNothing then fault (.negativeField number.text)
  return .field value.toInt.toNat

/-- What the functions of the program do. -/
abbrev Calls := String → List Argument → Evaluation Value

/-! ## Expressions -/

mutual
def Expression.eval (calls : Calls) : Expression → Evaluation Value
  | .number value => return .number (.of value)
  | .text value => return .text value
  | .pattern pattern => return .ofBool (pattern.occursIn (← get).line)
  | .named name => return (← get).fetch (.named name)
  | .element name keys => do
      let place ← elementAt name (← keys.eval calls)
      return (← get).fetch place
  | .field index => do
      let place ← fieldAt (← index.eval calls)
      return (← get).fetch place
  | .assign target operator value => do
      let place ← target.place calls
      let value ← value.eval calls
      match operator with
      | none => assignTo place value
      | some operator => assignTo place (.compute operator ((← get).fetch place) value)
  | .step target up before => do
      let place ← target.place calls
      let old := Value.number ((← get).fetch place).toNumber
      let new ← assignTo place (.compute (if up then .add else .subtract) old (.ofNat 1))
      return if before then new else old
  | .choice test yes no => do
      if (← test.eval calls).isTrue then yes.eval calls else no.eval calls
  | .both left right => do
      if (← left.eval calls).isTrue then return .ofBool (← right.eval calls).isTrue
      else return .ofBool false
  | .either left right => do
      if (← left.eval calls).isTrue then return .ofBool true
      else return .ofBool (← right.eval calls).isTrue
  | .negation inner => return .ofBool (!(← inner.eval calls).isTrue)
  | .sign negative inner => do
      let number := (← inner.eval calls).toNumber
      return .number (if negative then number.negate else number)
  | .comparison operator left right => do
      let left ← left.eval calls
      return .ofBool (Value.compare operator left (← right.eval calls))
  | .matching expected subject sought => do
      let subject ← subject.eval calls
      let pattern ← soughtBy (← sought.eval calls) sought
      return .ofBool (pattern.occursIn ((← get).textOf subject) == expected)
  | .membership keys name => do
      let key ← keyOf (← keys.eval calls)
      let isThere := ((← get).array name).contains key
      if isThere then modify (·.touch (.element name key))
      return .ofBool isThere
  | .joined left right => do
      let left ← left.eval calls
      let right ← right.eval calls
      let machine ← get
      return .text (← withinLength (machine.textOf left ++ machine.textOf right))
  | .arithmetic operator left right => do
      let left ← left.eval calls
      return .compute operator left (← right.eval calls)
  | .call function arguments => do applyFunction function (← arguments.eval calls)
  | .invoke name arguments => do calls name (← arguments.given calls)
  | .grouping (.cons item .nil) => item.eval calls
  | .grouping items => return .text (← keyOf (← items.eval calls))
  | .replace everywhere sought replacement target => do
      let pattern ← soughtBy (← sought.eval calls) sought
      let replacement ← replacement.eval calls
      let text := (← get).textOf replacement
      replaceAt (← target.place calls) everywhere pattern text
  | .split subject name sought => do
      let subject ← subject.eval calls
      let text := (← get).textOf subject
      match sought with
      | .nil => splitInto name ((← separator).split text)
      | .cons sought _ => do
          let value ← sought.eval calls
          let source := (← get).textOf value
          let separator ← match sought with
            | .pattern pattern => pure (Separator.found pattern)
            | _ => readAs Separator.ofText source
          splitInto name (separator.split text)
  | .search subject sought => do
      let subject ← subject.eval calls
      let pattern ← soughtBy (← sought.eval calls) sought
      searchIn ((← get).textOf subject) pattern
  | .arrayLength name => sizeOf name
  | .readLine target => do receiveNext (← target.firstPlace calls)
  | .readFile name target => do
      let place ← target.firstPlace calls
      let value ← name.eval calls
      receiveFrom (.file (String.ofList ((← get).textOf value))) place
  | .readOutput command target => do
      let value ← command.eval calls
      let line := String.ofList ((← get).textOf value)
      receiveFrom (.command line) (← target.firstPlace calls)

def Expressions.eval (calls : Calls) : Expressions → Evaluation (List Value)
  | .nil => return []
  | .cons head tail => do
      let head ← head.eval calls
      return head :: (← tail.eval calls)

/-- What expressions give to a function. A name can hand over an array. -/
def Expressions.given (calls : Calls) : Expressions → Evaluation (List Argument)
  | .nil => return []
  | .cons (.named name) tail => do
      let machine ← get
      let argument : Argument := ⟨machine.fetch (.named name), some (machine.arrayName name)⟩
      return argument :: (← tail.given calls)
  | .cons head tail => do
      let value ← head.eval calls
      return ⟨value, none⟩ :: (← tail.given calls)

/-- The place that an expression names. -/
def Expression.place (calls : Calls) : Expression → Evaluation Place
  | .named name => return .named name
  | .element name keys => do elementAt name (← keys.eval calls)
  | .field index => do fieldAt (← index.eval calls)
  | _ => return .nowhere

def Expressions.firstPlace (calls : Calls) : Expressions → Evaluation (Option Place)
  | .nil => return none
  | .cons head _ => return some (← head.place calls)
end

end Dilemma.Awk
