import Dilemma.Json.Writer
import Dilemma.Proofs.Json.Notation

/-! # What the writer writes

Both notations that the writer has are notations of the value, so both are read back. -/

namespace Dilemma.Json

variable {numbers : NumberReader}

/-! ## Compact notation -/

theorem Gap.nil : Gap [] := fun _ member => by cases member

theorem Gap.space : Gap [' '] := by simp [Gap, isBlank]

theorem Gap.newline (level : Nat) : Gap (newline level) := by
  intro char member
  rcases List.mem_cons.mp member with rfl | space
  · rfl
  · rw [List.eq_of_mem_replicate space]
    rfl

theorem Names.compact (key : String) : Names key (quoted key ++ [':']) :=
  .colon .nil .nil

mutual

theorem shows_compact : ∀ {json : Json} (_ : json.IsWritable numbers),
    Shows numbers json json.compactChars
  | .array items, writable => by
      by_cases empty : items = []
      · subst empty
        exact .emptyArray .nil
      · exact .array (itemsShow_compact empty writable)
  | .object members, writable => by
      by_cases empty : members = []
      · subst empty
        exact .emptyObject .nil
      · exact .object (membersShow_compact empty writable)
  | .null, writable => .scalar rfl writable
  | .boolean _, writable => .scalar rfl writable
  | .integer _, writable => .scalar rfl writable
  | .real _, writable => .scalar rfl writable
  | .text _, writable => .scalar rfl writable

theorem itemsShow_compact : ∀ {items : List Json} (_ : items ≠ []) (_ : AreWritable numbers items),
    ItemsShow numbers items (compactItems items ++ [']'])
  | [], nonempty, _ => absurd rfl nonempty
  | [_], _, writable => .last (shows_compact writable.1) .nil
  | item :: next :: rest, _, writable => by
      rw [compactItems, List.append_assoc]
      exact .next (shows_compact writable.1) .nil
        (itemsShow_compact (List.cons_ne_nil next rest) writable.2)

theorem membersShow_compact : ∀ {members : List (String × Json)} (_ : members ≠ [])
    (_ : MembersWritable numbers members),
    MembersShow numbers members (compactMembers members ++ ['\x7d'])
  | [], nonempty, _ => absurd rfl nonempty
  | [(key, _)], _, writable => by
      have shown := MembersShow.last (.compact key) (shows_compact writable.1) .nil
      rw [compactMembers, List.append_assoc]
      rwa [List.append_assoc] at shown
  | (key, _) :: next :: rest, _, writable => by
      have others := membersShow_compact (List.cons_ne_nil next rest) writable.2
      have shown := MembersShow.next (.compact key) (shows_compact writable.1) .nil others
      rw [compactMembers, List.append_assoc, List.cons_append, List.append_assoc]
      rwa [List.append_assoc] at shown

end

/-! ## Indented notation

A line break stands in front of every item and behind the last one. -/

theorem ItemsShow.after {items : List Json} {gap chars : List Char} (blank : Gap gap)
    (shown : ItemsShow numbers items chars) : ItemsShow numbers items (gap ++ chars) := by
  cases shown with
  | last shown trailing =>
      rw [← List.append_assoc]
      exact .last (.after blank shown) trailing
  | next shown trailing others =>
      rw [← List.append_assoc]
      exact .next (.after blank shown) trailing others

theorem Names.after {key : String} {gap name : List Char} (blank : Gap gap)
    (named : Names key name) : Names key (gap ++ name) := by
  cases named with
  | colon blankBefore blankAfter =>
      rw [← List.append_assoc]
      exact .colon (List.forall_mem_append.mpr ⟨blank, blankBefore⟩) blankAfter

theorem MembersShow.after {members : List (String × Json)} {gap chars : List Char}
    (blank : Gap gap) (shown : MembersShow numbers members chars) :
    MembersShow numbers members (gap ++ chars) := by
  cases shown with
  | last named shown trailing =>
      rw [← List.append_assoc]
      exact .last (named.after blank) shown trailing
  | next named shown trailing others =>
      rw [← List.append_assoc]
      exact .next (named.after blank) shown trailing others

mutual

theorem shows_indented : ∀ {json : Json} (_ : json.IsWritable numbers) (level : Nat),
    Shows numbers json (json.indentedChars level)
  | .array [], _, _ => .emptyArray .nil
  | .array (item :: rest), writable, level => by
      rw [indentedChars, List.append_assoc]
      exact .array (.after (.newline _)
        (itemsShow_indented (List.cons_ne_nil item rest) writable (level + 1) (.newline level)))
  | .object [], _, _ => .emptyObject .nil
  | .object (member :: rest), writable, level => by
      rw [indentedChars, List.append_assoc]
      exact .object (.after (.newline _)
        (membersShow_indented (List.cons_ne_nil member rest) writable (level + 1)
          (.newline level)))
  | .null, writable, _ => .scalar rfl writable
  | .boolean _, writable, _ => .scalar rfl writable
  | .integer _, writable, _ => .scalar rfl writable
  | .real _, writable, _ => .scalar rfl writable
  | .text _, writable, _ => .scalar rfl writable

theorem itemsShow_indented : ∀ {items : List Json} (_ : items ≠ []) (_ : AreWritable numbers items)
    (level : Nat) {gap : List Char} (_ : Gap gap),
    ItemsShow numbers items (indentedItems level items ++ (gap ++ [']']))
  | [], nonempty, _, _, _, _ => absurd rfl nonempty
  | [_], _, writable, level, _, blank => .last (shows_indented writable.1 level) blank
  | item :: next :: rest, _, writable, level, gap, blank => by
      have others := itemsShow_indented (List.cons_ne_nil next rest) writable.2 level blank
      rw [indentedItems, List.append_assoc, List.cons_append, List.append_assoc]
      exact .next (shows_indented writable.1 level) .nil (others.after (.newline level))

theorem membersShow_indented : ∀ {members : List (String × Json)} (_ : members ≠ [])
    (_ : MembersWritable numbers members) (level : Nat) {gap : List Char} (_ : Gap gap),
    MembersShow numbers members (indentedMembers level members ++ (gap ++ ['\x7d']))
  | [], nonempty, _, _, _, _ => absurd rfl nonempty
  | [(key, _)], _, writable, level, _, blank => by
      have value := (shows_indented writable.1 level).after .space
      have shown := MembersShow.last (.compact key) value blank
      rw [indentedMembers, List.append_assoc]
      rwa [List.append_assoc] at shown
  | (key, _) :: next :: rest, _, writable, level, gap, blank => by
      have value := (shows_indented writable.1 level).after .space
      have others := membersShow_indented (List.cons_ne_nil next rest) writable.2 level blank
      have shown := MembersShow.next (.compact key) value .nil (others.after (.newline level))
      rw [indentedMembers, List.append_assoc, List.cons_append, List.cons_append,
        List.append_assoc, List.cons_append, List.append_assoc]
      rwa [List.append_assoc] at shown

end

/-! ## Reading back -/

theorem parse?_compact {json : Json} (writable : json.IsWritable numbers) :
    parse? numbers json.compact = some json := by
  have parsed := (shows_compact writable).parse?_eq .nil
  rwa [List.append_nil] at parsed

theorem parse?_indented {json : Json} (writable : json.IsWritable numbers) {gap : List Char}
    (blank : Gap gap) : parse? numbers (String.ofList (json.indentedChars 0 ++ gap)) = some json :=
  (shows_indented writable 0).parse?_eq blank

end Dilemma.Json
