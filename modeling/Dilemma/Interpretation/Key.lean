import Dilemma.Chance.Fingerprint
import Dilemma.Text.Blank
import Dilemma.Text.Lowercase

/-! # Keys

Strategy texts are recognised by their words in lowercase, with a single space
between neighbours. -/

namespace Dilemma

structure StrategyKey where
  text : String
  deriving DecidableEq, Repr

namespace StrategyKey

def normalize (text : List Char) : List Char :=
  Text.spaced (Text.words (Text.lowercase text))

def ofText (text : String) : StrategyKey := ⟨String.ofList (normalize text.toList)⟩

/-- The length in bytes. -/
def size (key : StrategyKey) : Nat := key.text.utf8ByteSize

/-- The seed for random moves of the strategy. -/
def fingerprint (key : StrategyKey) : UInt64 := Dilemma.fingerprint key.text.toUTF8.toList

example : ofText "  Tit   for\tTAT \n" = ⟨"tit for tat"⟩ := by decide +kernel

end StrategyKey

end Dilemma
