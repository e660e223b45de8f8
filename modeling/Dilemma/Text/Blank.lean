import Dilemma.Text.CodeRange

/-! # White space

Blank characters are those with the property White_Space. Texts are split into
words at blanks, and the blanks around a text can be cut away. -/

namespace Dilemma.Text

def blankTable : List CodeRange :=
  [(0x9, 0xD), (0x20, 0x20), (0x85, 0x85), (0xA0, 0xA0), (0x1680, 0x1680), (0x2000, 0x200A),
   (0x2028, 0x2029), (0x202F, 0x202F), (0x205F, 0x205F), (0x3000, 0x3000)]

def isBlank (char : Char) : Bool := inTable blankTable char

/-- Neither a zero-width space nor an information separator is blank. -/
example : [' ', '\n', '\u00a0', '\u3000', '\u200b', '\u001f', 'x'].map isBlank =
    [true, true, true, true, false, false, false] := rfl

/-- The maximal stretches without a blank. -/
def words : List Char → List (List Char)
  | [] => []
  | [char] => if isBlank char then [] else [[char]]
  | char :: next :: rest =>
      if isBlank char then words (next :: rest)
      else if isBlank next then [char] :: words (next :: rest)
      else match words (next :: rest) with
        | [] => [[char]]
        | word :: others => (char :: word) :: others

example : words "  tit  for\ttat ".toList = ["tit".toList, "for".toList, "tat".toList] := rfl
example : words " \n".toList = [] := rfl

/-- Words with a single space between neighbours. -/
def spaced : List (List Char) → List Char
  | [] => []
  | [word] => word
  | word :: next :: rest => word ++ ' ' :: spaced (next :: rest)

/-- Cut away what satisfies `unwanted` at both ends. -/
def strip (unwanted : Char → Bool) (text : List Char) : List Char :=
  ((text.dropWhile unwanted).reverse.dropWhile unwanted).reverse

def trim (text : String) : String :=
  String.ofList (strip isBlank text.toList)

example : strip isBlank " a b\n".toList = "a b".toList := rfl

end Dilemma.Text
