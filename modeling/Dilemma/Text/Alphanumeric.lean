import Dilemma.Text.AlphanumericTable

/-! # Letters and digits -/

namespace Dilemma.Text

/-- The character is alphabetic or a number, in any script. -/
def isAlphanumeric (char : Char) : Bool :=
  if char.toNat < 0x80 then char.isAlphanum
  else inTable alphanumericTable char

example : ['a', 'Z', '7', 'é', '日', '٣', '²', '_', '«', '😀'].map isAlphanumeric =
    [true, true, true, true, true, true, true, false, false, false] := by decide +kernel

end Dilemma.Text
