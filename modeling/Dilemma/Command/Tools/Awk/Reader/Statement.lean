import Dilemma.Command.Tools.Awk.Reader.Expression

/-! # Reading statements and items

A statement ends with a semicolon or with its line, and a block holds
statements up to its brace. -/

namespace Dilemma.Awk

/-! ## Statements -/

/-- A simple statement ends with a semicolon, with the line, or with the block. -/
def readEnd : Reading Unit := do
  match ← peek with
  | some (.mark ";") | some .lineEnd =>
      skip
      skipLineEnds
  | some (.mark "\x7d") => return ()
  | _ => fail

/-- Behind the mark that leads somewhere else, an angle bracket compares. -/
def readDestination (fuel : Nat) : Reading Destination := do
  match ← peek with
  | some (.mark ">") | some (.mark ">>") =>
      skip
      return .file (← readExpression fuel false)
  | some (.mark "|") =>
      skip
      return .command (← readExpression fuel false)
  | _ => return .output

/-- Items in parentheses, if nothing but a destination follows. -/
def readEnclosed (fuel : Nat) : Reading (Option (List Expression)) := do
  let before ← get
  try
    expect "("
    let items ← readItems fuel
    expect ")"
    if endsItems (← peek) then return some items
    else
      set before
      return none
  catch _ =>
    set before
    return none

def readPrint (fuel : Nat) : Reading (Expressions × Destination) := do
  if endsItems (← peek) then return (.nil, ← readDestination fuel)
  else match ← readEnclosed fuel with
    | some items => return (.ofList items, ← readDestination fuel)
    | none =>
        let items ← readPrinted fuel
        return (.ofList items, ← readDestination fuel)

/-- A format and its values, perhaps in parentheses. -/
def readFormatted (fuel : Nat) : Reading (Expressions × Destination) := do
  if (← get).tokens.take 2 = [.mark "(", .mark ")"] then
    skip
    skip
    complain "no arguments in call to printf"
    return (.nil, ← readDestination fuel)
  else
    if endsItems (← peek) then complain "no arguments in call to printf"
    readPrint fuel

/-- Statements that hold no others. -/
def readSimple (fuel : Nat) : Reading Statement := do
  match ← peek with
  | some (.keyword "print") =>
      skip
      let (items, destination) ← readPrint fuel
      return .print items destination
  | some (.keyword "printf") =>
      skip
      let (items, destination) ← readFormatted fuel
      return .printFormat items destination
  | some (.keyword "next") =>
      skip
      checkRecordJump "next"
      return .next
  | some (.keyword "nextfile") =>
      skip
      checkRecordJump "nextfile"
      return .nextFile
  | some (.keyword "return") =>
      skip
      if ¬ (← get).inFunction then complain "return outside function body"
      if endsItems (← peek) then return .giveBack .nil
      else return .giveBack (.ofList [← readExpression fuel false])
  | some (.keyword "break") =>
      skip
      checkLoopJump "break"
      return .leave
  | some (.keyword "continue") =>
      skip
      checkLoopJump "continue"
      return .continue
  | some (.keyword "exit") =>
      skip
      if endsItems (← peek) then return .exit .nil
      else return .exit (.ofList [← readExpression fuel false])
  | some (.keyword "delete") =>
      skip
      let name ← expectName .array
      if ← take (.mark "[") then
        let keys ← readItems fuel
        expect "]"
        return .delete name (.ofList keys)
      else return .delete name .nil
  | _ => return .evaluate (← readExpression fuel false)

/-- A part of a loop's head, up to a mark. Without an expression there is
nothing to do. -/
def readHead (fuel : Nat) (mark : String) : Reading (Option Statement) := do
  if ← take (.mark mark) then
    skipLineEnds
    return none
  else
    let statement ← readSimple fuel
    expectOpen mark
    return some statement

/-- The test of a loop. Without an expression it holds. -/
def readTest (fuel : Nat) (mark : String) : Reading Expression := do
  if ← take (.mark mark) then
    skipLineEnds
    return .number (.ofNat 1)
  else
    let test ← readExpression fuel false
    expectOpen mark
    return test

/-- The names of a loop through the keys of an array. -/
def readArrayLoop : Reading (Option (String × String)) := do
  match (← get).tokens with
  | .mark "(" :: .name name :: .keyword "in" :: .name array :: .mark ")" :: _ =>
      skip
      skip
      useName name .value
      skip
      skip
      useName array .array
      skip
      skipLineEnds
      return some (name, array)
  | _ => return none

/-- Here a statement that could not be read is taken to end. -/
def endsStatement : Token → Bool
  | .lineEnd => true
  | .mark value => value = ";" || value = "\x7d"
  | _ => false

/-- Parentheses count anew behind a statement that could not be read. -/
def readFaultyStatement : Reading Statement := do
  modify fun progress => { progress with parentheses := 0, muted := 0 }
  readEnd
  return .nothing

mutual
/-- A statement with what ends it. If it cannot be read, it is nothing. `fuel`
bounds the depth of the reading. -/
def readStatement : (fuel : Nat) → Reading Statement
  | 0 => fail
  | fuel + 1 => orElseFrom endsStatement (readSound fuel) readFaultyStatement

/-- A statement that can be read. In front of a closing brace it can be
missing. -/
def readSound : (fuel : Nat) → Reading Statement
  | 0 => fail
  | fuel + 1 => do
      match ← peek with
      | some (.mark ";") =>
          skip
          skipLineEnds
          return .nothing
      | some (.mark "\x7d") => return .nothing
      | some (.mark "\x7b") =>
          skip
          let block ← readBlock fuel
          skipLineEnds
          return block
      | some (.keyword "if") =>
          skip
          expect "("
          let test ← readExpression fuel false
          expectOpen ")"
          let yes ← readStatement fuel
          if ← take (.keyword "else") then
            skipLineEnds
            return .branch test yes (← readStatement fuel)
          else return .branch test yes .nothing
      | some (.keyword "while") =>
          skip
          expect "("
          let test ← readExpression fuel false
          expectOpen ")"
          return .loop test (← withinLoop (readStatement fuel)) .nothing
      | some (.keyword "do") =>
          skip
          skipLineEnds
          if ← nextIs (.mark "\x7d") then fail
          let body ← withinLoop (readStatement fuel)
          if ← take (.keyword "while") then
            expect "("
            let test ← readExpression fuel false
            expect ")"
            readEnd
            return .loopAfter body test
          else fail
      | some (.keyword "for") =>
          skip
          match ← readArrayLoop with
          | some (name, array) =>
              return .forEach name array (← withinLoop (readStatement fuel))
          | none =>
              expect "("
              let start ← readHead fuel ";"
              let test ← readTest fuel ";"
              let update ← readHead fuel ")"
              let body ← withinLoop (readStatement fuel)
              return .sequence (start.getD .nothing)
                (.loop test body (update.getD .nothing))
      | _ =>
          let statement ← readSimple fuel
          readEnd
          return statement

/-- Statements up to the closing brace. -/
def readBlock : (fuel : Nat) → Reading Statement
  | 0 => fail
  | fuel + 1 => do
      skipLineEnds
      if ← take (.mark "\x7d") then return .nothing
      else
        let statement ← readStatement fuel
        return .sequence statement (← readBlock fuel)
end

/-! ## Programs -/

/-- A block may have a semicolon behind it on its line. -/
def readWholeBlock (fuel : Nat) : Reading Statement := do
  expect "\x7b"
  let block ← readBlock fuel
  if (← get).braces = 0 then
    let _ ← take (.mark ";")
  return block

/-- Without a block the record is printed. -/
def readAction (fuel : Nat) : Reading Statement := do
  if ← nextIs (.mark "\x7b") then readWholeBlock fuel
  else if ← take (.mark ";") then return .print .nil .output
  else if ← take .lineEnd then return .print .nil .output
  else fail

def readItem (fuel : Nat) : Reading Item := do
  match ← peek with
  | some (.keyword "BEGIN") =>
      skip
      return ⟨.first, ← readWholeBlock fuel⟩
  | some (.keyword "END") =>
      skip
      return ⟨.last, ← readWholeBlock fuel⟩
  | some (.mark "\x7b") => return ⟨.every, ← readWholeBlock fuel⟩
  | _ =>
      let start ← readExpression fuel false
      if ← take (.mark ",") then
        skipLineEnds
        let finish ← readExpression fuel false
        return ⟨.between start finish, ← readAction fuel⟩
      else return ⟨.when start, ← readAction fuel⟩

/-! ## Functions -/

/-- The name of a function that is defined. -/
def readDefinedName : Reading String := do
  match ← peek with
  | some (.call name) =>
      skip
      if (← get).defined.any (·.1 = name) then complain s!"redefinition of {name}"
      return name
  | some (.name name) =>
      skip
      useName name .function
      return name
  | _ => fail

/-- Parameters up to a parenthesis. `fuel` bounds their number. -/
def readParameters : (fuel : Nat) → Reading Unit
  | 0 => fail
  | fuel + 1 => do
      match ← peek with
      | some (.name name) =>
          skip
          if (← get).parameters.any (·.1 = name) then
            complain s!"{name} is duplicated in argument list"
          else modify fun progress =>
            { progress with parameters := progress.parameters ++ [(name, none)] }
          if ← take (.mark ",") then
            skipLineEnds
            readParameters fuel
          else expect ")"
      | _ => fail

/-- A definition behind its keyword. -/
def readDefinition (fuel : Nat) : Reading Definition := do
  let name ← readDefinedName
  expect "("
  if ¬ (← take (.mark ")")) then readParameters fuel
  skipLineEnds
  modify ({ · with inFunction := true })
  let body ← readWholeBlock fuel
  let parameters := (← get).parameters
  modify fun progress =>
    { progress with defined := (name, parameters.map (·.2)) :: progress.defined }
  return ⟨name, parameters.map (·.1), body⟩

/-! ## Scripts -/

def readEntry (fuel : Nat) : Reading Script := do
  let next ← peek
  let onRecord := next ∉
    [some (.keyword "BEGIN"), some (.keyword "END"), some (.keyword "function")]
  modify fun progress => { progress with onRecord, loops := 0 }
  if ← take (.keyword "function") then
    let definition ← readDefinition fuel
    modify ({ · with parameters := [], inFunction := false })
    return ⟨[], [definition]⟩
  else return ⟨[← readItem fuel], []⟩

/-- An item can be found again by its brace. Until a little more has been
read, nothing else is said. -/
def readFaulty (fuel : Nat) : Reading Script := do
  modify ({ · with parentheses := 0, muted := 3, parameters := [], inFunction := false })
  return ⟨[⟨.every, ← readWholeBlock fuel⟩], []⟩

/-- Items and definitions up to the end. `fuel` bounds their number, and
`depth` the depth of each. -/
def readScript : (fuel depth : Nat) → Reading Script
  | 0, _ => fail
  | fuel + 1, depth => do
      skipLineEnds
      match ← peek with
      | none =>
          checkNotedCalls
          return ⟨[], []⟩
      | some _ =>
          let entry ← orElseFrom (· = .mark "\x7b") (readEntry depth) (readFaulty depth)
          let rest ← readScript fuel depth
          return ⟨entry.items ++ rest.items, entry.definitions ++ rest.definitions⟩

end Dilemma.Awk
