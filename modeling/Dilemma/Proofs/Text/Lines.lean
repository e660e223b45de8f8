import Dilemma.Text.Lines
import Dilemma.Text.Padding

/-! # Single lines

A text without a line feed is one line, whatever else it contains. Lines that are put together
from single lines stay single, numbers are single lines, and lines that were written one after the
other are told apart again. -/

namespace Dilemma.Text

/-- There is no line feed in the text. -/
def IsLine (text : String) : Prop := '\n' ∉ text.toList

instance (text : String) : Decidable (IsLine text) :=
  inferInstanceAs (Decidable ('\n' ∉ text.toList))

@[simp] theorem isLine_append {left right : String} :
    IsLine (left ++ right) ↔ IsLine left ∧ IsLine right := by
  rw [IsLine, String.toList_append, List.mem_append, not_or, IsLine, IsLine]

/-! ## Columns and numbers -/

theorem isLine_spaces (count : Nat) : IsLine (String.ofList (List.replicate count ' ')) := by
  rw [IsLine, String.toList_ofList]
  intro member
  cases List.eq_of_mem_replicate member

@[simp] theorem isLine_padLeft {width : Nat} {text : String} :
    IsLine (padLeft width text) ↔ IsLine text := by
  rw [padLeft, isLine_append]
  exact and_iff_right (isLine_spaces _)

@[simp] theorem isLine_padRight {width : Nat} {text : String} :
    IsLine (padRight width text) ↔ IsLine text := by
  rw [padRight, isLine_append]
  exact and_iff_left (isLine_spaces _)

theorem not_mem_toDigits (value : Nat) : '\n' ∉ Nat.toDigits 10 value := by
  intro member
  have digit := Nat.isDigit_of_mem_toDigits (by decide) (by decide) member
  revert digit
  decide

@[simp] theorem isLine_natural (value : Nat) : IsLine (toString value) := by
  rw [IsLine, Nat.toString_eq_repr, Nat.toList_repr]
  exact not_mem_toDigits value

@[simp] theorem isLine_integer (value : Int) : IsLine (toString value) := by
  rw [Int.toString_eq_repr, Int.repr_eq_if]
  split
  · exact isLine_natural value.toNat
  · exact isLine_append.mpr ⟨by decide, isLine_natural (-value).toNat⟩

@[simp] theorem isLine_uint32 (value : UInt32) : IsLine (toString value) :=
  isLine_natural value.toNat

@[simp] theorem isLine_int32 (value : Int32) : IsLine (toString value) :=
  isLine_integer value.toInt

/-! ## Lines one after the other -/

theorem linesBy_append {mark : Char} {line : List Char} (single : mark ∉ line)
    (rest : List Char) : linesBy mark (line ++ mark :: rest) = line :: linesBy mark rest := by
  induction line with
  | nil => exact if_pos rfl
  | cons char line induction =>
      rw [List.mem_cons, not_or] at single
      rw [List.cons_append, linesBy, if_neg (Ne.symm single.1), induction single.2]

/-- Lines are what was written line by line. -/
theorem lines_join {texts : List String} (single : ∀ text ∈ texts, IsLine text) :
    lines (String.join (texts.map (· ++ "\n"))).toList = texts.map String.toList := by
  induction texts with
  | nil => rfl
  | cons text rest induction =>
      rw [List.forall_mem_cons] at single
      rw [List.map_cons, String.join_cons, String.toList_append, String.toList_append,
        List.append_assoc]
      exact (linesBy_append single.1 _).trans (congrArg (text.toList :: ·) (induction single.2))

end Dilemma.Text
