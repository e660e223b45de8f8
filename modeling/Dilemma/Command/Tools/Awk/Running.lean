import Dilemma.Command.Tools.Awk.Evaluation

/-! # Running line programs

Statements are carried out by recursion on the program. Only loops are not
bounded by it; when there have been too many rounds, they are taken to have no
end. -/

namespace Dilemma.Awk

/-! ## Statements -/

/-- What happens after a statement. -/
inductive Flow where
  | onward
  | leave
  | continue
  | next
  /-- Out of a function, with its value. -/
  | back (value : Value)
  deriving DecidableEq, Repr

/-- Rounds of a loop as long as the test holds. `fuel` bounds their number. -/
def rounds (test : Evaluation Bool) (body update : Evaluation Flow) : (fuel : Nat) → Evaluation Flow
  | 0 => fault .exhausted
  | fuel + 1 => do
      beginRound
      if ← test then
        match ← body with
        | .onward | .continue =>
            match ← update with
            | .onward => rounds test body update fuel
            | flow => return flow
        | .leave => return .onward
        | flow => return flow
      else return .onward

/-- A loop has all the rounds that are left. -/
def loop (test : Evaluation Bool) (body update : Evaluation Flow) : Evaluation Flow := do
  rounds test body update ((← get).rounds + 1)

/-- One round for every key that an array had at the beginning. -/
def throughKeys (name : String) (body : Evaluation Flow) : List (List Char) → Evaluation Flow
  | [] => return .onward
  | key :: rest => do
      modify (·.put (.named name) (.input key))
      match ← body with
      | .onward | .continue => throughKeys name body rest
      | .leave => return .onward
      | flow => return flow

/-- The values of items, or the whole record if there are none. -/
def printed (machine : Machine) (values : List Value) : List Char :=
  if values.isEmpty then machine.line
  else Machine.joinedWith (machine.lookUp "OFS").toText (values.map (machine.textIn "OFMT"))

def Destination.write (calls : Calls) (destination : Destination) (text : List Char) :
    Evaluation Unit := do
  match destination with
  | .output => Awk.write none text
  | .file name => do
      let value ← name.eval calls
      Awk.write (some (.file (String.ofList ((← get).textOf value)))) text
  | .command line => do
      let value ← line.eval calls
      Awk.write (some (.command (String.ofList ((← get).textOf value)))) text

/-- A status is the last byte of a word. -/
def statusOf (value : Value) : Nat := (value.toInt % 256).toNat

example : statusOf (.ofNat 259) = 3 := by decide +kernel

def Statement.run (calls : Calls) : Statement → Evaluation Flow
  | .nothing => return .onward
  | .sequence first second => do
      match ← first.run calls with
      | .onward => second.run calls
      | flow => return flow
  | .evaluate expression => do
      let _ ← expression.eval calls
      return .onward
  | .print items destination => do
      let values ← items.eval calls
      let machine ← get
      destination.write calls (printed machine values ++ (machine.lookUp "ORS").toText)
      return .onward
  | .printFormat items destination => do
      let values ← items.eval calls
      destination.write calls (← formatted "printf" values)
      return .onward
  | .branch test yes no => do
      if (← test.eval calls).isTrue then yes.run calls else no.run calls
  | .loop test body update =>
      Awk.loop (do return (← test.eval calls).isTrue) (body.run calls) (update.run calls)
  | .loopAfter body test => do
      match ← body.run calls with
      | .onward | .continue =>
          Awk.loop (do return (← test.eval calls).isTrue) (body.run calls) (return .onward)
      | .leave => return .onward
      | flow => return flow
  | .forEach name array body => do
      throughKeys name (body.run calls) ((← get).array array).keys
  | .leave => return .leave
  | .continue => return .continue
  | .next => return .next
  | .nextFile => do
      modify ({ · with source := none })
      return .next
  | .exit status => do
      let values ← status.eval calls
      if let value :: _ := values then
        modify fun machine => { machine with status := statusOf value }
      throw .exit
  | .giveBack value => do
      let values ← value.eval calls
      return .back (values.headD .unset)
  | .delete name .nil => do
      modify (·.setArray name .empty)
      return .onward
  | .delete name keys => do
      let values ← keys.eval calls
      let key ← keyOf values
      modify fun machine => machine.setArray name ((machine.array name).erase key)
      return .onward

/-! ## Functions -/

/-- More functions within functions than a program needs that ends at all. -/
def depthLimit : Nat := 1000

/-- A function has its arguments as values of its parameters. `fuel` bounds
the depth of functions within functions. -/
def callIn (definitions : List Definition) : (fuel : Nat) → Calls
  | 0, _, _ => fault .exhausted
  | fuel + 1, name, arguments => do
      match definitions.find? (·.name = name) with
      | none => return .unset
      | some definition =>
          modify (·.enter definition.parameters arguments)
          let flow ← definition.body.run (callIn definitions fuel)
          modify (·.depart)
          match flow with
          | .back value => return value
          | _ => return .unset

/-- What the functions of a program do. -/
def Script.calls (script : Script) : Calls := callIn script.definitions depthLimit

/-! ## Programs -/

/-- Whether an item, which is the one with this number, is for the line. -/
def Item.isMet (calls : Calls) (number : Nat) (item : Item) : Evaluation Bool := do
  match item.occasion with
  | .first | .last => return false
  | .every => return true
  | .when test => return (← test.eval calls).isTrue
  | .between start finish =>
      let begins ← if number ∈ (← get).ranges then pure true
        else do pure (← start.eval calls).isTrue
      if begins then
        let ends := (← finish.eval calls).isTrue
        modify fun machine =>
          let others := machine.ranges.filter (· ≠ number)
          { machine with ranges := if ends then others else number :: others }
      return begins

/-- Items in their order, up to one that ends the line. -/
def runItems (calls : Calls) (isMet : Nat → Item → Evaluation Bool) :
    (number : Nat) → List Item → Evaluation Unit
  | _, [] => return ()
  | number, item :: rest => do
      if ← isMet number item then
        match ← item.action.run calls with
        | .next => return ()
        | _ => runItems calls isMet (number + 1) rest
      else runItems calls isMet (number + 1) rest

def Item.isFirst (_ : Nat) (item : Item) : Evaluation Bool :=
  return item.occasion matches .first

def Item.isLast (_ : Nat) (item : Item) : Evaluation Bool :=
  return item.occasion matches .last

/-- Records as long as there are any. `fuel` bounds their number. -/
def runLines (calls : Calls) (items : List Item) : (fuel : Nat) → Evaluation Unit
  | 0 => fault .exhausted
  | fuel + 1 => do
      beginRound
      match ← countedRecord with
      | none => return ()
      | some record =>
          setLine record
          runItems calls (Item.isMet calls) 0 items
          runLines calls items fuel

/-- Without items for records none is read. -/
def readsLines (items : List Item) : Bool :=
  items.any fun item => !(item.occasion matches .first)

/-- Do something, perhaps up to an exit. Functions that have not ended then
are left. -/
def upToExit (steps : Evaluation Unit) : Evaluation Unit := do
  try steps
  catch
    | .exit => modify fun machine => { machine with frames := [] }
    | interruption => throw interruption

/-- An exit does not keep the last items from running, but ends them. -/
def runProgram (script : Script) : Evaluation Unit := do
  let calls := script.calls
  upToExit do
    runItems calls Item.isFirst 0 script.items
    if readsLines script.items then runLines calls script.items ((← get).rounds + 1)
  upToExit (runItems calls Item.isLast 0 script.items)

end Dilemma.Awk
