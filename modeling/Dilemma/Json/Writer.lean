import Dilemma.Json.Value
import Dilemma.Number.Decimal
import Dilemma.Text.Integer

/-! # Writing JSON

Two notations of the same value: compact, without any blank, and indented by
two spaces a level with one item a line. -/

namespace Dilemma.Json

/-! ## Strings -/

def hexChar (digit : Nat) : Char :=
  if digit < 10 then Char.ofNat (digit + '0'.toNat) else Char.ofNat (digit - 10 + 'a'.toNat)

/-- Quotes, backslashes and control characters are escaped, nothing else. -/
def escapeChar (char : Char) : List Char :=
  if char = '"' then ['\\', '"']
  else if char = '\\' then ['\\', '\\']
  else if char = '\x08' then ['\\', 'b']
  else if char = '\t' then ['\\', 't']
  else if char = '\n' then ['\\', 'n']
  else if char = '\x0c' then ['\\', 'f']
  else if char = '\r' then ['\\', 'r']
  else if char.toNat < 0x20 then
    ['\\', 'u', '0', '0', hexChar (char.toNat / 16), hexChar (char.toNat % 16)]
  else [char]

def quoted (contents : String) : List Char :=
  '"' :: (contents.toList.flatMap escapeChar ++ ['"'])

example : quoted "a\"\n\x1fé" = "\"a\\\"\\n\\u001fé\"".toList := by decide +kernel

/-- Values without parts. -/
def scalar : Json → List Char
  | null => "null".toList
  | boolean true => "true".toList
  | boolean false => "false".toList
  | integer value => Text.integer value
  | real value => value.jsonText
  | text value => quoted value
  | unreadable => "\"\\ud800\"".toList
  | array _ | object _ => []

/-! ## Compact notation -/

mutual

def compactChars : Json → List Char
  | array items => '[' :: (compactItems items ++ [']'])
  | object members => '\x7b' :: (compactMembers members ++ ['\x7d'])
  | json => json.scalar

def compactItems : List Json → List Char
  | [] => []
  | [item] => item.compactChars
  | item :: next :: rest => item.compactChars ++ ',' :: compactItems (next :: rest)

def compactMembers : List (String × Json) → List Char
  | [] => []
  | [(key, value)] => quoted key ++ ':' :: value.compactChars
  | (key, value) :: next :: rest =>
      quoted key ++ ':' :: (value.compactChars ++ ',' :: compactMembers (next :: rest))

end

def compact (json : Json) : String := String.ofList json.compactChars

/-! ## Indented notation -/

def newline (level : Nat) : List Char := '\n' :: List.replicate (2 * level) ' '

mutual

def indentedChars (level : Nat) : Json → List Char
  | array [] => ['[', ']']
  | array (item :: rest) =>
      '[' :: (newline (level + 1) ++ (indentedItems (level + 1) (item :: rest) ++
        newline level ++ [']']))
  | object [] => ['\x7b', '\x7d']
  | object (member :: rest) =>
      '\x7b' :: (newline (level + 1) ++ (indentedMembers (level + 1) (member :: rest) ++
        newline level ++ ['\x7d']))
  | json => json.scalar

def indentedItems (level : Nat) : List Json → List Char
  | [] => []
  | [item] => item.indentedChars level
  | item :: next :: rest =>
      item.indentedChars level ++ ',' :: (newline level ++ indentedItems level (next :: rest))

def indentedMembers (level : Nat) : List (String × Json) → List Char
  | [] => []
  | [(key, value)] => quoted key ++ ':' :: ' ' :: value.indentedChars level
  | (key, value) :: next :: rest =>
      quoted key ++ ':' :: ' ' :: (value.indentedChars level ++
        ',' :: (newline level ++ indentedMembers level (next :: rest)))

end

def indented (json : Json) : String := String.ofList (json.indentedChars 0)

example : compact (object [("a", array [integer 1, null]), ("b", object [])]) =
    "\x7b\"a\":[1,null],\"b\":\x7b\x7d\x7d" := by decide +kernel
example : indented (object [("a", array [integer 1]), ("b", array [])]) =
    "\x7b\n  \"a\": [\n    1\n  ],\n  \"b\": []\n\x7d" := by decide +kernel

end Dilemma.Json
