import Dilemma.Command.Tools.Awk.Value

/-! # Tables

The elements of an array have texts for keys. They lie in lists, of which a
number that is made of the key tells the right one. What has been used last
comes first in its list, and the keys of an array are gone through list by
list. -/

namespace Dilemma.Awk

/-- The number that is made of a key, a word without a sign. -/
def keyNumber (key : List Char) : Nat :=
  key.foldl (fun number char =>
    (number ^^^ char.toNat) * 16777619 % (Number.unsignedLimit + 1)) 2166136261

abbrev Elements := List (List Char × Value)

structure Table where
  /-- Their number is a power of two. -/
  lists : Array Elements
  size : Nat

namespace Table

def empty : Table := ⟨Array.replicate 64 [], 0⟩

/-- The number of the list in which a key belongs. -/
def placeOf (table : Table) (key : List Char) : Nat := keyNumber key % table.lists.size

def listOf (table : Table) (key : List Char) : Elements :=
  (table.lists[table.placeOf key]?).getD []

def get? (table : Table) (key : List Char) : Option Value :=
  ((table.listOf key).find? (·.1 = key)).map (·.2)

def contains (table : Table) (key : List Char) : Bool := (table.get? key).isSome

/-- With twice as many lists, each of which is part of an old one. -/
def doubled (table : Table) : Table :=
  let count := 2 * table.lists.size
  let part (place : Nat) (elements : Elements) : Elements :=
    elements.filter fun (key, _) => keyNumber key % count = place
  { table with
    lists := table.lists.mapIdx part ++
      table.lists.mapIdx fun place => part (place + table.lists.size) }

/-- There are at most twice as many elements as lists. -/
def grown (table : Table) : Table :=
  if 2 * table.lists.size < table.size then table.doubled else table

/-- The elements of the list in which a key belongs are changed. -/
def withList (table : Table) (key : List Char) (elements : Elements) (size : Nat) : Table :=
  ⟨table.lists.modify (table.placeOf key) fun _ => elements, size⟩

/-- An element with a value comes first in its list. -/
def bring (table : Table) (key : List Char) (value : Value) : Table :=
  let others := (table.listOf key).filter (·.1 ≠ key)
  let size := if table.contains key then table.size else table.size + 1
  (table.withList key ((key, value) :: others) size).grown

/-- Look at an element, which exists from then on. -/
def touch (table : Table) (key : List Char) : Table :=
  table.bring key ((table.get? key).getD .unset)

/-- Give an element a value. An element that exists stays where it is. -/
def insert (table : Table) (key : List Char) (value : Value) : Table :=
  if table.contains key then
    let changed := (table.listOf key).map fun element =>
      if element.1 = key then (key, value) else element
    table.withList key changed table.size
  else table.bring key value

def erase (table : Table) (key : List Char) : Table :=
  let others := (table.listOf key).filter (·.1 ≠ key)
  let size := if table.contains key then table.size - 1 else table.size
  table.withList key others size

def keys (table : Table) : List (List Char) :=
  (table.lists.toList.flatMap id).map (·.1)

def ofElements (elements : Elements) : Table :=
  elements.foldl (fun table (key, value) => table.insert key value) empty

example : (ofElements (["x", "y", "z", "name"].map fun key => (key.toList, .unset))).keys =
    ["x", "name", "z", "y"].map String.toList := by decide +kernel

end Table

end Dilemma.Awk
