/-! # Texts by octets

What a program writes is octets, and they need not be the form of any text, so
that reading them can fail. Some programs take a text for a row of octets. Such
a row is a text too, with one character for each octet. -/

namespace Dilemma.Text

/-- The row of octets that is the form of a text. -/
def octets (text : String) : String :=
  String.ofList (text.toUTF8.toList.map fun octet => Char.ofNat octet.toNat)

example : octets "aé" = "aÃ©" := by decide +kernel

/-- The octets in a row. -/
def octetsIn (row : String) : List UInt8 := row.toList.map Char.toUInt8

/-- The beginning of a character: its value so far, the octets that it lacks,
and the range in which the next one has to be. -/
structure OpenChar where
  value : Nat
  missing : Nat
  least : Nat
  most : Nat

namespace OpenChar

/-- What an octet begins that is no character by itself. Some first octets
leave less room for the second. -/
def ofLead? (octet : Nat) : Option OpenChar :=
  if octet < 0xC2 then none
  else if octet < 0xE0 then some ⟨octet - 0xC0, 1, 0x80, 0xBF⟩
  else if octet < 0xF0 then
    some ⟨octet - 0xE0, 2, if octet = 0xE0 then 0xA0 else 0x80,
      if octet = 0xED then 0x9F else 0xBF⟩
  else if octet < 0xF5 then
    some ⟨octet - 0xF0, 3, if octet = 0xF0 then 0x90 else 0x80,
      if octet = 0xF4 then 0x8F else 0xBF⟩
  else none

def accepts (char : OpenChar) (octet : Nat) : Bool := char.least ≤ octet && octet ≤ char.most

def extended (char : OpenChar) (octet : Nat) : OpenChar :=
  ⟨char.value * 0x40 + octet % 0x40, char.missing - 1, 0x80, 0xBF⟩

end OpenChar

/-- An octet where a character begins: whether it stands for itself, for
nothing, or for the beginning of more. -/
def beginChar (octet : Nat) : List (Option Char) × Option OpenChar :=
  if octet < 0x80 then ([some (Char.ofNat octet)], none)
  else match OpenChar.ofLead? octet with
    | some char => ([], some char)
    | none => ([none], none)

/-- The characters of octets, with `none` for what is not one. An octet that
does not fit can be the first of the next character. -/
def charsOfOctets : Option OpenChar → List Nat → List (Option Char)
  | none, [] => []
  | some _, [] => [none]
  | none, octet :: rest =>
      let (chars, opened) := beginChar octet
      chars ++ charsOfOctets opened rest
  | some char, octet :: rest =>
      if char.accepts octet then
        let char := char.extended octet
        if char.missing = 0 then some (Char.ofNat char.value) :: charsOfOctets none rest
        else charsOfOctets (some char) rest
      else
        let (chars, opened) := beginChar octet
        none :: chars ++ charsOfOctets opened rest

def decoded (octets : List UInt8) : List (Option Char) :=
  charsOfOctets none (octets.map UInt8.toNat)

/-- The text of octets, if they are the form of one. -/
def ofOctets? (octets : List UInt8) : Option String :=
  ((decoded octets).mapM id).map String.ofList

/-- The text of octets. What is not a character becomes a mark. -/
def ofOctets (octets : List UInt8) : String :=
  String.ofList ((decoded octets).map (·.getD '\uFFFD'))

example : ofOctets? (octetsIn (octets "aé€😀b")) = some "aé€😀b" := by decide +kernel
example : ofOctets? [0xE9] = none := by decide +kernel
example : ofOctets [0xE2, 0x82, 0x61, 0xFF] = "\uFFFDa\uFFFD" := by decide +kernel

end Dilemma.Text
