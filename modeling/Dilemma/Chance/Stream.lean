/-! # Reproducible chance

A stream of 64-bit draws from a seed and a stream number. The state is shifted
and mixed into itself, which never leads from a non-zero state to zero, and a
draw is the state times an odd constant. -/

namespace Dilemma

structure RandomStream where
  state : UInt64
  deriving DecidableEq

namespace RandomStream

/-- One turn of the state. -/
def advance (stream : RandomStream) : RandomStream :=
  let first := stream.state ^^^ (stream.state >>> 12)
  let second := first ^^^ (first <<< 25)
  ⟨second ^^^ (second >>> 27)⟩

/-- The value that the current state shows. -/
def value (stream : RandomStream) : UInt64 := stream.state * 0x2545f4914f6cdd1d

/-- Advance several times. -/
def skip : (count : Nat) → RandomStream → RandomStream
  | 0, stream => stream
  | count + 1, stream => skip count stream.advance

/-- The state before anything is skipped. Zero would never be left again and
is replaced. -/
def origin (seed : UInt64) (stream : UInt32) : RandomStream :=
  let mixed := seed ^^^ 0x6a09e667f3bcc908 ^^^ (stream.toUInt64 * 0x517cc1b727220a95)
  ⟨if mixed = 0 then 0x9e3779b97f4a7c15 else mixed⟩

/-- The stream of a seed with that number. -/
def start (seed : UInt64) (stream : UInt32) : RandomStream := skip 8 (origin seed stream)

def next (stream : RandomStream) : UInt64 × RandomStream :=
  (stream.advance.value, stream.advance)

/-- The upper half of a draw. -/
def upper (draw : UInt64) : UInt32 := (draw >>> 32).toUInt32

/-- A number below one hundred. -/
def percent (draw : UInt64) : UInt32 := upper draw % 100

/-- A fair coin for one round: the first draw of the round's own stream. -/
def coin (seed : UInt64) (round : UInt32) : Bool :=
  percent (start seed round).next.1 < 50

end RandomStream

end Dilemma
