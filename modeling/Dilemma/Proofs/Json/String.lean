import Dilemma.Json.Reader
import Dilemma.Json.Writer

/-! # Strings between quotes

Every character is escaped on its own, so a string is read back character by character.
The code units that stand for control characters are never taken for halves of a pair. -/

namespace Dilemma.Json

/-- Characters that are escaped by a letter or a sign. -/
def lettered : List Char := ['"', '\\', '\x08', '\t', '\n', '\x0c', '\r']

/-- What a character is read as after it has been escaped. -/
def pieceOf (char : Char) : Piece :=
  if char ∉ lettered ∧ char.toNat < 0x20 then .unit char.toNat else .char char

/-- The piece comes first, and the rest stays the rest. -/
def ahead (piece : Piece) (read : List Piece × List Char) : List Piece × List Char :=
  (piece :: read.1, read.2)

/-! ## Pieces -/

theorem readPieces_escaped {char decoded : Char} (simple : char ≠ 'u')
    (meant : escaped? char = some decoded) (rest : List Char) :
    readPieces ('\\' :: char :: rest) = (readPieces rest).map (ahead (.char decoded)) := by
  rw [readPieces, meant]
  · cases readPieces rest <;> rfl
  · rintro a b c d later rfl
    exact absurd rfl simple

theorem readPieces_unit {a b c d : Char} {unit : Nat} (meant : codeUnit? a b c d = some unit)
    (rest : List Char) :
    readPieces ('\\' :: 'u' :: a :: b :: c :: d :: rest) =
      (readPieces rest).map (ahead (.unit unit)) := by
  rw [readPieces, meant]
  cases readPieces rest <;> rfl

theorem readPieces_plain {char : Char} (quote : char ≠ '"') (backslash : char ≠ '\\')
    (printed : ¬ char.toNat < 0x20) (rest : List Char) :
    readPieces (char :: rest) = (readPieces rest).map (ahead (.char char)) := by
  rw [readPieces, if_neg printed]
  · cases readPieces rest <;> rfl
  · exact quote
  · intro a b c d later equal
    exact absurd equal backslash
  · intro next later equal
    exact absurd equal backslash

theorem codeUnit?_hexChar : ∀ unit < 0x20,
    codeUnit? '0' '0' (hexChar (unit / 16)) (hexChar (unit % 16)) = some unit := by
  decide +kernel

theorem escapeChar_of_lettered {char : Char} (member : char ∈ lettered) :
    ∃ letter, letter ≠ 'u' ∧ escapeChar char = ['\\', letter] ∧ escaped? letter = some char := by
  simp only [lettered, List.mem_cons, List.not_mem_nil, or_false] at member
  rcases member with rfl | rfl | rfl | rfl | rfl | rfl | rfl <;>
    exact ⟨_, by decide, rfl, rfl⟩

theorem escapeChar_of_not_lettered {char : Char} (unlettered : char ∉ lettered) :
    escapeChar char = if char.toNat < 0x20 then
      ['\\', 'u', '0', '0', hexChar (char.toNat / 16), hexChar (char.toNat % 16)]
      else [char] := by
  simp only [lettered, List.mem_cons, List.not_mem_nil, or_false, not_or] at unlettered
  simp only [escapeChar, unlettered, if_false]

theorem readPieces_escapeChar (char : Char) (rest : List Char) :
    readPieces (escapeChar char ++ rest) = (readPieces rest).map (ahead (pieceOf char)) := by
  by_cases member : char ∈ lettered
  · rcases escapeChar_of_lettered member with ⟨letter, simple, written, meant⟩
    rw [written, pieceOf, if_neg (fun both => both.1 member)]
    exact readPieces_escaped simple meant rest
  · rw [escapeChar_of_not_lettered member, pieceOf]
    split
    · rename_i control
      rw [if_pos ⟨member, control⟩]
      exact readPieces_unit (codeUnit?_hexChar _ control) rest
    · rename_i printed
      rw [if_neg (fun both => printed both.2)]
      refine readPieces_plain ?_ ?_ printed rest
      · rintro rfl
        exact member (by decide)
      · rintro rfl
        exact member (by decide)

theorem readPieces_escaped_text (chars rest : List Char) :
    readPieces (chars.flatMap escapeChar ++ '"' :: rest) = some (chars.map pieceOf, rest) := by
  induction chars with
  | nil => rfl
  | cons char chars induction =>
      rw [List.flatMap_cons, List.append_assoc, readPieces_escapeChar, induction]
      rfl

/-! ## Spelling -/

/-- No half of a pair is among the control characters. -/
theorem spell?_unit {unit : Nat} (control : unit < 0x20) (pieces : List Piece) :
    spell? (.unit unit :: pieces) = (spell? pieces).map (Char.ofNat unit :: ·) := by
  have high : isHighSurrogate unit = false := by
    rw [isHighSurrogate, Bool.and_eq_false_iff]
    exact .inl (decide_eq_false (by omega))
  have low : isLowSurrogate unit = false := by
    rw [isLowSurrogate, Bool.and_eq_false_iff]
    exact .inl (decide_eq_false (by omega))
  cases pieces with
  | nil => simp [spell?, high, low]
  | cons piece pieces =>
      cases piece with
      | char char => simp [spell?, high, low, Function.comp_def]
      | unit next => simp [spell?, high, low]

theorem spell?_pieceOf (char : Char) (pieces : List Piece) :
    spell? (pieceOf char :: pieces) = (spell? pieces).map (char :: ·) := by
  rw [pieceOf]
  split
  · rename_i control
    rw [spell?_unit control.2, Char.ofNat_toNat]
  · rw [spell?]

theorem spell?_map_pieceOf (chars : List Char) : spell? (chars.map pieceOf) = some chars := by
  induction chars with
  | nil => rfl
  | cons char chars induction =>
      rw [List.map_cons, spell?_pieceOf, induction]
      rfl

/-- A string is read back from behind its opening quote. -/
theorem readString_quoted (contents : String) (rest : List Char) :
    readString (contents.toList.flatMap escapeChar ++ '"' :: rest) =
      some (some contents.toList, rest) := by
  rw [readString, readPieces_escaped_text, ← spell?_map_pieceOf contents.toList]
  rfl

end Dilemma.Json
