import Dilemma.Text.CaseTable

/-! # Lowercase

Each character is replaced by its lowercase mapping, with two exceptions to
"one character for one": a dotted capital I keeps its dot as a combining
character, and a capital sigma depends on its place in the word. -/

namespace Dilemma.Text

/-- The lowercase mapping of a character regardless of its place. -/
def lowercaseChar (char : Char) : List Char :=
  if char.toNat < 0x80 then [char.toLower]
  else if char = '\u0130' then ['i', '\u0307']
  else match lowercaseTable.findSome? (·.counterpart? char.toNat) with
    | some code => [Char.ofNat code]
    | none => [char]

example : lowercaseChar 'Q' = ['q'] := by decide +kernel
example : lowercaseChar 'É' = ['é'] := by decide +kernel
example : lowercaseChar 'ß' = ['ß'] := by decide +kernel

/-- The first character that case does not ignore is a cased one. -/
def meetsCased (text : List Char) : Bool :=
  match text.dropWhile (inTable caseIgnorableTable) with
  | [] => false
  | char :: _ => inTable casedTable char

/-- A capital sigma ends a word if a cased character stands before it and none
after it, not counting characters that case ignores. `before` is read away
from the sigma. -/
def lowercaseSigma (before after : List Char) : Char :=
  if meetsCased before && !meetsCased after then 'ς' else 'σ'

/-- `before` holds the characters already passed, nearest first. -/
def lowercaseAfter (before : List Char) : List Char → List Char
  | [] => []
  | char :: rest =>
      (if char = 'Σ' then [lowercaseSigma before rest] else lowercaseChar char) ++
        lowercaseAfter (char :: before) rest

def lowercase (text : List Char) : List Char := lowercaseAfter [] text

example : lowercase "ΣΑΣ ΑΣ'Β Σ".toList = "σας ασ'β σ".toList := by decide +kernel
example : lowercase "İ".toList = ['i', '\u0307'] := by decide +kernel

end Dilemma.Text
