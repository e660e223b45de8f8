import Dilemma.Number.Binary64

/-! # Draws

Numbers that look random: each is made of two earlier ones, and the first ones
of a seed. -/

namespace Dilemma.Awk

structure Draws where
  /-- The last numbers, oldest first. -/
  window : List Nat
  deriving DecidableEq, Repr

namespace Draws

/-- The numbers are words without a sign. -/
def modulus : Nat := 4294967296

/-- How many numbers are kept, and how far apart two are that make another. -/
def windowSize : Nat := 31
def distance : Nat := 28

/-- So many numbers of a new window are left out. -/
def leftOut : Nat := 310

/-- Add a number to the window. -/
def advance (draws : Draws) : Draws :=
  match draws.window with
  | [] => draws
  | oldest :: rest =>
      ⟨rest ++ [(oldest + (draws.window[distance]?).getD 0) % modulus]⟩

def advances : (count : Nat) → Draws → Draws
  | 0, draws => draws
  | count + 1, draws => advances count draws.advance

/-- Numbers of which each is the remainder of a multiple of the one before. -/
def remainders : (count : Nat) → Int → List Nat
  | 0, _ => []
  | count + 1, number =>
      let number := number * 16807 % 2147483647
      number.toNat :: remainders count number

/-- The draws of a seed. -/
def ofSeed (seed : Int) : Draws :=
  let first := if seed = 0 then 1 else seed
  let numbers := (first % modulus).toNat :: remainders (windowSize - 1) first
  advances leftOut ⟨numbers.drop 3 ++ numbers.take 3⟩

/-- A number from zero to one. -/
def draw (draws : Draws) : Binary64 × Draws :=
  let draws := draws.advance
  ((Binary64.ofNat (draws.window.getLastD 0 / 2)).divide (.ofNat 2147483647), draws)

example : (ofSeed 1).draw.1 =
    (Binary64.ofNat 1804289383).divide (.ofNat 2147483647) := by decide +kernel

end Draws

end Dilemma.Awk
