import Dilemma.Number.Binary64

/-! # Elementary functions

Roots, powers, logarithms and the functions of angles. They are those of the
machine, so that their last digit is its own. -/

namespace Dilemma.Binary64

/-- The bit of the sign. -/
def signBit : Nat := 0x8000000000000000

def ofBits (bits : Nat) : Binary64 :=
  if rankCount < bits % signBit then notANumber
  else ofRank (decide (signBit ≤ bits)) (bits % signBit)

example : ofBits (ofInt (-3)).toBits = ofInt (-3) := by decide +kernel
example : ofBits (infinite true).toBits = infinite true := by decide +kernel
example : ofBits notANumber.toBits = notANumber := by decide +kernel

def toMachine (value : Binary64) : Float := Float.ofBits (UInt64.ofNat value.toBits)

def ofMachine (value : Float) : Binary64 := ofBits value.toBits.toNat

def root (value : Binary64) : Binary64 := ofMachine value.toMachine.sqrt
def exponential (value : Binary64) : Binary64 := ofMachine value.toMachine.exp
def logarithm (value : Binary64) : Binary64 := ofMachine value.toMachine.log
def sine (value : Binary64) : Binary64 := ofMachine value.toMachine.sin
def cosine (value : Binary64) : Binary64 := ofMachine value.toMachine.cos

/-- The angle of a point. -/
def arcTangent (height width : Binary64) : Binary64 :=
  ofMachine (Float.atan2 height.toMachine width.toMachine)

def power (base exponent : Binary64) : Binary64 :=
  ofMachine (Float.pow base.toMachine exponent.toMachine)

end Dilemma.Binary64
