import Dilemma.Number.Binary64

/-! # JSON values

Members of an object stay in the order in which they were read, repeated keys
included. Numbers are kept apart by their syntax: whole numbers that fit in 64
bits are integers, everything else is a real number. -/

namespace Dilemma

inductive Json where
  | null
  | boolean (value : Bool)
  | integer (value : Int)
  | real (value : Binary64)
  | text (value : String)
  /-- A string with an escape that denotes no character, or an object with such
  a key. It can be skipped but not used. -/
  | unreadable
  | array (items : List Json)
  | object (members : List (String × Json))
  deriving Inhabited, Repr

namespace Json

/-! ## Views -/

def text? : Json → Option String
  | text value => some value
  | _ => none

def boolean? : Json → Option Bool
  | boolean value => some value
  | _ => none

def items? : Json → Option (List Json)
  | array items => some items
  | _ => none

def members? : Json → Option (List (String × Json))
  | object members => some members
  | _ => none

/-- A whole number from `low` to `high`. A real number is never one, however
round it is. -/
def integer? (low high : Int) : Json → Option Int
  | integer value => if low ≤ value ∧ value ≤ high then some value else none
  | _ => none

def natural? (bound : Nat) (json : Json) : Option Nat := do
  let value ← json.integer? 0 (bound - 1)
  some value.toNat

def int32? (json : Json) : Option Int32 :=
  (json.integer? Int32.minValue.toInt Int32.maxValue.toInt).map Int32.ofInt

def uint32? (json : Json) : Option UInt32 :=
  (json.natural? UInt32.size).map UInt32.ofNat

def int64? (json : Json) : Option Int :=
  json.integer? Int64.minValue.toInt Int64.maxValue.toInt

def uint64? (json : Json) : Option Nat := json.natural? UInt64.size

/-- Any number within the range of the format. -/
def real? : Json → Option Binary64
  | integer value => some (Binary64.ofInt value)
  | real value => if value.isFinite then some value else none
  | _ => none

/-- Every item has to be accepted. -/
def list? {α : Type} (read : Json → Option α) (json : Json) : Option (List α) := do
  (← json.items?).mapM read

/-- `null` stands for a missing value. -/
def nullable? {α : Type} (read : Json → Option α) : Json → Option (Option α)
  | null => some none
  | json => (read json).map some

/-- The name of one of a few alternatives without contents: a string, or an
object whose only member gives the name a null. -/
def name? : Json → Option String
  | text name => some name
  | object [(name, null)] => some name
  | _ => none

/-- An alternative with contents is an object with one member. -/
def alternative? : Json → Option (String × Json)
  | object [(name, contents)] => some (name, contents)
  | _ => none

/-! ## Records

A record is written as an object or as the array of its fields in their order.
In an object fields may come in any order and members that are not fields are
passed over, but no field may come twice. In an array fields can only be
missing from the end. -/

/-- The values under one key, in order. -/
def valuesOf (key : String) (members : List (String × Json)) : List Json :=
  (members.filter (·.1 = key)).map (·.2)

/-- The value of each field, if it is there. -/
def fields? (names : List String) : Json → Option (List (Option Json))
  | array items =>
      if items.length ≤ names.length then
        some (items.map some ++ List.replicate (names.length - items.length) none)
      else none
  | object members =>
      if names.all fun name => (valuesOf name members).length ≤ 1 then
        some (names.map fun name => (valuesOf name members).head?)
      else none
  | _ => none

/-- An object has no members but these. -/
def onlyFields (names : List String) : Json → Bool
  | object members => members.all fun member => member.1 ∈ names
  | _ => true

example : fields? ["a", "b"] (object [("b", null), ("x", null), ("b", null)]) = none := rfl
example : fields? ["a", "b"] (array [null]) = some [some null, none] := rfl

/-! ## Measures -/

mutual

/-- How deep brackets are nested. -/
def nesting : Json → Nat
  | array items => nestingOfItems items + 1
  | object members => nestingOfMembers members + 1
  | _ => 0

def nestingOfItems : List Json → Nat
  | [] => 0
  | item :: rest => max item.nesting (nestingOfItems rest)

def nestingOfMembers : List (String × Json) → Nat
  | [] => 0
  | (_, value) :: rest => max value.nesting (nestingOfMembers rest)

end

mutual

/-- All strings are readable and all numbers are in range. -/
def isReadable : Json → Bool
  | unreadable => false
  | real value => value.isFinite
  | array items => areReadable items
  | object members => membersReadable members
  | _ => true

def areReadable : List Json → Bool
  | [] => true
  | item :: rest => item.isReadable && areReadable rest

def membersReadable : List (String × Json) → Bool
  | [] => true
  | (_, value) :: rest => value.isReadable && membersReadable rest

end

/-- The most brackets that a reader opens around a value that it keeps. -/
def nestingLimit : Nat := 127

end Json

end Dilemma
