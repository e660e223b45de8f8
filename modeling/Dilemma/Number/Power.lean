/-! # Powers of two and ten

The steps of binary formats and the places of decimals. -/

namespace Dilemma

def twoTo (exponent : Nat) : Nat := Nat.pow 2 exponent

def tenTo (places : Nat) : Nat := Nat.pow 10 places

theorem twoTo_succ (exponent : Nat) : twoTo (exponent + 1) = twoTo exponent * 2 := rfl

theorem tenTo_succ (places : Nat) : tenTo (places + 1) = tenTo places * 10 := rfl

theorem twoTo_pos (exponent : Nat) : 0 < twoTo exponent := by
  induction exponent with
  | zero => exact Nat.one_pos
  | succ exponent positive =>
      rw [twoTo_succ]
      omega

theorem tenTo_pos (places : Nat) : 0 < tenTo places := by
  induction places with
  | zero => exact Nat.one_pos
  | succ places positive =>
      rw [tenTo_succ]
      omega

end Dilemma
