/-! # Pairings

In a round robin every pair of distinct participants meets once. Pairs `(a, b)`
with `a < b` are numbered by `b`, then by `a`: the pair with rank `r` has
`b * (b - 1) / 2 + a = r`. A rank alone therefore gives its pair. -/

namespace Dilemma.Pairing

/-- How many matches so many participants play. -/
def count (participants : Nat) : Nat := participants * (participants - 1) / 2

/-- Newton's iteration for the square root from above. It stops when the guess
no longer falls. -/
def descend (value guess : Nat) : Nat :=
  let next := (guess + value / guess) / 2
  if next < guess then descend value next else guess
termination_by guess

/-- The greatest number whose square is at most the value. -/
def squareRoot (value : Nat) : Nat := descend value value

example : [1, 8, 9, 24, 25, 1000000].map squareRoot = [1, 2, 3, 4, 5, 1000] := by
  decide +kernel

/-- Go down to a `b` whose first pair is not beyond the rank. -/
def lower (rank : Nat) : Nat → Nat
  | 0 => 0
  | b + 1 => if rank < (b + 1) * b / 2 then lower rank b else b + 1

theorem le_triangle (b : Nat) : b ≤ (b + 1) * b / 2 := by
  rcases b with _ | b
  · simp
  · have bound : (b + 1) * 2 ≤ (b + 1 + 1) * (b + 1) := by
      rw [Nat.mul_comm (b + 1) 2]
      exact Nat.mul_le_mul_right _ (by omega)
    omega

/-- Go up while the first pair of the next `b` is not beyond the rank. -/
def raise (rank b : Nat) : Nat :=
  if within : (b + 1) * b / 2 ≤ rank then raise rank (b + 1) else b
termination_by rank + 1 - b
decreasing_by
  have := le_triangle b
  omega

/-- The first estimate of `b` for a rank. -/
def estimate (rank : Nat) : Nat := (1 + squareRoot (1 + 8 * rank)) / 2

/-- The pair with this rank. -/
def unrank (rank : Nat) : Nat × Nat :=
  let b := raise rank (lower rank (estimate rank))
  (rank - b * (b - 1) / 2, b)

/-- All pairs in the order of their ranks. -/
def schedule (participants : Nat) : List (Nat × Nat) :=
  (List.range (count participants)).map unrank

example : schedule 4 = [(0, 1), (0, 2), (1, 2), (0, 3), (1, 3), (2, 3)] := by
  decide +kernel

/-! ## Within 64 bits

Whoever counts with words of 64 bits can number only so many matches. -/

/-- What can go wrong in a step that is carried out in words. -/
inductive Fault where
  /-- A sum is too big for a word. -/
  | sum
  /-- More is taken away than there is. -/
  | difference
  /-- A product is too big for a word. -/
  | product
  /-- Something is divided by zero. -/
  | quotient
  deriving DecidableEq, Repr

def Fault.message : Fault → String
  | sum => "attempt to add with overflow"
  | difference => "attempt to subtract with overflow"
  | product => "attempt to multiply with overflow"
  | quotient => "attempt to divide by zero"

/-- A sum that fits into a word. -/
def sum (first second : Nat) : Except Fault Nat :=
  if first + second < UInt64.size then .ok (first + second) else .error .sum

/-- A difference that is not negative. -/
def difference (first second : Nat) : Except Fault Nat :=
  if second ≤ first then .ok (first - second) else .error .difference

/-- A product that fits into a word. -/
def product (first second : Nat) : Except Fault Nat :=
  if first * second < UInt64.size then .ok (first * second) else .error .product

def quotient (first second : Nat) : Except Fault Nat :=
  if 0 < second then .ok (first / second) else .error .quotient

def countWithin (participants : Nat) : Except Fault Nat := do
  return (← product participants (participants - 1)) / 2

/-- A rank is known to be small enough only where there is a match. -/
def ofMatchWithin? (participants index : Nat) : Except Fault (Option (Nat × Nat)) := do
  if index < (← countWithin participants) then
    let _ ← product 8 index
    return some (unrank index)
  else return none

theorem countWithin_eq {participants : Nat}
    (fits : participants * (participants - 1) < UInt64.size) :
    countWithin participants = .ok (count participants) := by
  simp [countWithin, product, fits, count, bind, Except.bind, pure, Except.pure]

example : (ofMatchWithin? 23 30).toOption = some (some (2, 8)) := by decide +kernel
example : (countWithin 5000000000).toOption = none := by decide +kernel

/-! ## Each step within 64 bits

The same way from a rank to its pair, with a check at every operation. -/

/-- Half of a word, rounded up. -/
def upperHalf (value : Nat) : Except Fault Nat :=
  if value % 2 = 0 then .ok (value / 2) else sum (value / 2) 1

/-- Newton's iteration with the next guess at hand. -/
def descendWithin (value guess next : Nat) : Except Fault Nat := do
  if next < guess then
    descendWithin value next ((← sum next (← quotient value next)) / 2)
  else return guess
termination_by guess

/-- The rank of the first pair of a `b`. -/
def firstRank (b : Nat) : Except Fault Nat := do
  return (← product b (← difference b 1)) / 2

/-- The rank of the first pair of the `b` after it. -/
def nextRank (b : Nat) : Except Fault Nat := do
  return (← product (← sum b 1) b) / 2

def lowerWithin (rank : Nat) : Nat → Except Fault Nat
  | 0 => return 0
  | b + 1 => do
      if rank < (← firstRank (b + 1)) then lowerWithin rank b else return b + 1

theorem eq_of_sum_eq_ok {first second result : Nat} (added : sum first second = .ok result) :
    result = first + second := by
  unfold sum at added
  split at added <;> cases added
  rfl

theorem eq_of_product_eq_ok {first second result : Nat}
    (multiplied : product first second = .ok result) : result = first * second := by
  unfold product at multiplied
  split at multiplied <;> cases multiplied
  rfl

theorem eq_of_nextRank_eq_ok {b first : Nat} (found : nextRank b = .ok first) :
    first = (b + 1) * b / 2 := by
  rw [nextRank] at found
  cases added : sum b 1 with
  | error fault =>
      rw [added] at found
      cases found
  | ok next =>
      rw [added, eq_of_sum_eq_ok added] at found
      cases multiplied : product (b + 1) b with
      | error fault =>
          change product (b + 1) b >>= _ = _ at found
          rw [multiplied] at found
          cases found
      | ok area =>
          change product (b + 1) b >>= _ = _ at found
          rw [multiplied, eq_of_product_eq_ok multiplied] at found
          cases found
          rfl

def raiseWithin (rank b : Nat) : Except Fault Nat :=
  match found : nextRank b with
  | .error fault => .error fault
  | .ok first => if first ≤ rank then raiseWithin rank (b + 1) else .ok b
termination_by rank + 1 - b
decreasing_by
  have := eq_of_nextRank_eq_ok found
  have := le_triangle b
  omega

def unrankWithin (rank : Nat) : Except Fault (Nat × Nat) := do
  let value ← sum 1 (← product 8 rank)
  let root ← descendWithin value value (← upperHalf value)
  let b ← raiseWithin rank (← lowerWithin rank ((← sum 1 root) / 2))
  return (← difference rank (← firstRank b), b)

def scheduleWithin (participants : Nat) : Except Fault (List (Nat × Nat)) := do
  (List.range (← countWithin participants)).mapM unrankWithin

example : (unrankWithin 30).toOption = some (2, 8) := by decide +kernel

end Dilemma.Pairing
