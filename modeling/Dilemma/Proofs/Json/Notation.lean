import Dilemma.Proofs.Json.Number
import Dilemma.Proofs.Json.String

/-! # Notations of a value

A value may be written with blanks wherever the syntax lets them stand. The compact and
the indented notation are two choices among these, and the reader accepts them all. -/

namespace Dilemma.Json

/-! ## Values that can be written -/

section Definitions

variable (numbers : NumberReader)

mutual

/-- Strings can be spelled, integers have 64 bits, and the reader takes the notation of a real
number for the number. -/
def IsWritable : Json → Prop
  | unreadable => False
  | integer value => InRange value
  | real value => numbers.Denotes value
  | array items => AreWritable items
  | object members => MembersWritable members
  | _ => True

def AreWritable : List Json → Prop
  | [] => True
  | item :: rest => item.IsWritable ∧ AreWritable rest

def MembersWritable : List (String × Json) → Prop
  | [] => True
  | (_, value) :: rest => value.IsWritable ∧ MembersWritable rest

end

/-! ## The relation -/

/-- Nothing but blanks. -/
def Gap (chars : List Char) : Prop := ∀ char ∈ chars, isBlank char = true

def isScalar : Json → Bool
  | array _ | object _ => false
  | _ => true

/-- A key up to its colon. -/
inductive Names (key : String) : List Char → Prop
  | colon {before after : List Char} (blankBefore : Gap before) (blankAfter : Gap after) :
      Names key (before ++ (quoted key ++ (after ++ [':'])))

mutual

/-- The characters are a notation of the value, perhaps after some blanks. -/
inductive Shows : Json → List Char → Prop
  | after {json : Json} {gap chars : List Char} (blank : Gap gap) (shown : Shows json chars) :
      Shows json (gap ++ chars)
  | scalar {json : Json} (leaf : json.isScalar = true) (writable : json.IsWritable numbers) :
      Shows json json.scalar
  | emptyArray {gap : List Char} (blank : Gap gap) : Shows (array []) ('[' :: (gap ++ [']']))
  | array {items : List Json} {chars : List Char} (shown : ItemsShow items chars) :
      Shows (array items) ('[' :: chars)
  | emptyObject {gap : List Char} (blank : Gap gap) :
      Shows (object []) ('\x7b' :: (gap ++ ['\x7d']))
  | object {members : List (String × Json)} {chars : List Char}
      (shown : MembersShow members chars) : Shows (object members) ('\x7b' :: chars)

/-- A notation of items, with the bracket behind the last one. -/
inductive ItemsShow : List Json → List Char → Prop
  | last {item : Json} {chars gap : List Char} (shown : Shows item chars) (blank : Gap gap) :
      ItemsShow [item] (chars ++ (gap ++ [']']))
  | next {item : Json} {items : List Json} {chars gap later : List Char}
      (shown : Shows item chars) (blank : Gap gap) (others : ItemsShow items later) :
      ItemsShow (item :: items) (chars ++ (gap ++ ',' :: later))

/-- A notation of members, with the brace behind the last one. -/
inductive MembersShow : List (String × Json) → List Char → Prop
  | last {key : String} {value : Json} {name chars gap : List Char} (named : Names key name)
      (shown : Shows value chars) (blank : Gap gap) :
      MembersShow [(key, value)] (name ++ (chars ++ (gap ++ ['\x7d'])))
  | next {key : String} {value : Json} {members : List (String × Json)}
      {name chars gap later : List Char} (named : Names key name) (shown : Shows value chars)
      (blank : Gap gap) (others : MembersShow members later) :
      MembersShow ((key, value) :: members) (name ++ (chars ++ (gap ++ ',' :: later)))

end

end Definitions

/-! ## Blanks do not count -/

theorem skipBlanks_gap {gap : List Char} (blank : Gap gap) (chars : List Char) :
    skipBlanks (gap ++ chars) = skipBlanks chars :=
  List.dropWhile_append_of_pos blank

theorem skipBlanks_cons {char : Char} (dark : isBlank char = false) (chars : List Char) :
    skipBlanks (char :: chars) = char :: chars := by
  rw [skipBlanks, List.dropWhile_cons, dark]
  rfl

theorem skipBlanks_skipBlanks (chars : List Char) :
    skipBlanks (skipBlanks chars) = skipBlanks chars := by
  induction chars with
  | nil => rfl
  | cons char chars induction =>
      cases blank : isBlank char with
      | true =>
          have skipped : skipBlanks (char :: chars) = skipBlanks chars :=
            List.dropWhile_cons_of_pos blank
          rw [skipped, induction]
      | false => rw [skipBlanks_cons blank, skipBlanks_cons blank]

section Blanks

variable {numbers : NumberReader} {left right : List Char}

theorem readValue_congr (same : skipBlanks left = skipBlanks right) (fuel : Nat) :
    readValue numbers fuel left = readValue numbers fuel right := by
  cases fuel with
  | zero => rfl
  | succ fuel => rw [readValue, readValue, same]

theorem readItems_congr (same : skipBlanks left = skipBlanks right) (fuel : Nat) :
    readItems numbers fuel left = readItems numbers fuel right := by
  cases fuel with
  | zero => rfl
  | succ fuel => rw [readItems, readItems, readValue_congr same]

theorem readMembers_congr (same : skipBlanks left = skipBlanks right) (fuel : Nat) :
    readMembers numbers fuel left = readMembers numbers fuel right := by
  cases fuel with
  | zero => rfl
  | succ fuel => rw [readMembers, readMembers, same]

end Blanks

/-! ## Reading one step -/

variable {numbers : NumberReader} {fuel : Nat} {chars rest : List Char}

theorem readValue_digit {first : Char} (digit : first.isDigit = true) :
    readValue numbers (fuel + 1) (first :: chars) = readNumber numbers (first :: chars) := by
  have unlike : ∀ other : Char, other.isDigit = false → first ≠ other := by
    rintro other noDigit rfl
    rw [digit] at noDigit
    cases noDigit
  have dark : isBlank first = false := by
    simp [isBlank, unlike ' ' rfl, unlike '\t' rfl, unlike '\n' rfl, unlike '\r' rfl]
  rw [readValue, skipBlanks_cons dark]
  split
  case h_7 => rfl
  all_goals
    rename_i shape
    exact absurd (List.cons.inj shape).1 (unlike _ rfl)

theorem readDigits_other {first : Char} (other : isDigit first = false) :
    readDigits (first :: chars) = none := by
  simp [readDigits, List.span_eq_takeWhile_dropWhile, other]

/-- What is read as a number begins like one, so it is taken for nothing else. -/
theorem readValue_of_readNumber {read : Json × List Char}
    (number : readNumber numbers chars = some read) :
    readValue numbers (fuel + 1) chars = some read := by
  cases chars with
  | nil => cases number
  | cons first later =>
      by_cases minus : first = '-'
      · subst minus
        exact number
      · cases digit : isDigit first with
        | true => exact (readValue_digit digit).trans number
        | false =>
            rw [readNumber, readNumeral] at number
            · rw [readWhole, readDigits_other digit] at number
              cases number
            · intro rest signed
              exact minus (List.cons.inj signed).1

theorem readValue_quoted (value : String) :
    readValue numbers (fuel + 1) (quoted value ++ rest) = some (text value, rest) := by
  rw [quoted, List.cons_append, List.append_assoc, readValue, skipBlanks_cons rfl]
  simp only [List.singleton_append, readString_quoted]
  simp

theorem readValue_scalar {json : Json} (leaf : json.isScalar = true)
    (writable : json.IsWritable numbers) (ended : Ended rest) :
    readValue numbers (fuel + 1) (json.scalar ++ rest) = some (json, rest) := by
  cases json with
  | null => rfl
  | boolean value => cases value <;> rfl
  | integer value => exact readValue_of_readNumber (readNumber_integer numbers writable ended)
  | real value => exact readValue_of_readNumber (NumberReader.Denotes.readNumber writable ended)
  | text value => exact readValue_quoted value
  | unreadable => cases writable
  | array items => cases leaf
  | object members => cases leaf

/-! ## Reading brackets -/

/-- No item begins with the closing bracket. -/
theorem skipBlanks_ne_of_readItems {items : List Json}
    (read : readItems numbers fuel chars = some (items, rest)) (later : List Char) :
    skipBlanks chars ≠ ']' :: later := by
  intro closed
  have same : skipBlanks chars = skipBlanks (']' :: later) := closed
  rw [readItems_congr same] at read
  cases fuel with
  | zero => cases read
  | succ fuel =>
      cases fuel with
      | zero => cases read
      | succ fuel =>
          have nothing : readValue numbers (fuel + 1) (']' :: later) = none := rfl
          rw [readItems, nothing] at read
          cases read

theorem skipBlanks_ne_of_readMembers {members : Option (List (String × Json))}
    (read : readMembers numbers fuel chars = some (members, rest)) (later : List Char) :
    skipBlanks chars ≠ '\x7d' :: later := by
  intro closed
  cases fuel with
  | zero => cases read
  | succ fuel =>
      rw [readMembers, closed] at read
      cases read

theorem readValue_array {items : List Json}
    (read : readItems numbers fuel chars = some (items, rest)) :
    readValue numbers (fuel + 1) ('[' :: chars) = some (array items, rest) := by
  have opened := skipBlanks_ne_of_readItems read
  rw [← readItems_congr (skipBlanks_skipBlanks chars)] at read
  rw [readValue, skipBlanks_cons rfl]
  simp only [read, bind, Option.bind]

theorem readValue_emptyArray {gap : List Char} (blank : Gap gap) :
    readValue numbers (fuel + 1) ('[' :: (gap ++ ']' :: rest)) = some (array [], rest) := by
  have dark : isBlank ']' = false := rfl
  rw [readValue, skipBlanks_cons rfl]
  simp only [skipBlanks_gap blank, skipBlanks_cons dark]

theorem readValue_object {members : List (String × Json)}
    (read : readMembers numbers fuel chars = some (some members, rest)) :
    readValue numbers (fuel + 1) ('\x7b' :: chars) = some (object members, rest) := by
  have opened := skipBlanks_ne_of_readMembers read
  rw [← readMembers_congr (skipBlanks_skipBlanks chars)] at read
  rw [readValue, skipBlanks_cons rfl]
  simp only [read, bind, Option.bind, Option.map_some, Option.getD_some]

theorem readValue_emptyObject {gap : List Char} (blank : Gap gap) :
    readValue numbers (fuel + 1) ('\x7b' :: (gap ++ '\x7d' :: rest)) = some (object [], rest) := by
  have dark : isBlank '\x7d' = false := rfl
  rw [readValue, skipBlanks_cons rfl]
  simp only [skipBlanks_gap blank, skipBlanks_cons dark]

variable {item value : Json} {items : List Json} {key : String}
  {members : List (String × Json)} {gap name later : List Char}

theorem readItems_last (blank : Gap gap)
    (read : readValue numbers fuel chars = some (item, gap ++ ']' :: rest)) :
    readItems numbers (fuel + 1) chars = some ([item], rest) := by
  have dark : isBlank ']' = false := rfl
  rw [readItems, read]
  simp only [bind, Option.bind, skipBlanks_gap blank, skipBlanks_cons dark]

theorem readItems_next (blank : Gap gap)
    (read : readValue numbers fuel chars = some (item, gap ++ ',' :: later))
    (others : readItems numbers fuel later = some (items, rest)) :
    readItems numbers (fuel + 1) chars = some (item :: items, rest) := by
  have dark : isBlank ',' = false := rfl
  rw [readItems, read]
  simp only [bind, Option.bind, skipBlanks_gap blank, skipBlanks_cons dark, others]

theorem readMembers_last (named : Names key name) (blank : Gap gap)
    (read : readValue numbers fuel chars = some (value, gap ++ '\x7d' :: rest)) :
    readMembers numbers (fuel + 1) (name ++ chars) = some (some [(key, value)], rest) := by
  have quote : isBlank '"' = false := rfl
  have colon : isBlank ':' = false := rfl
  have brace : isBlank '\x7d' = false := rfl
  rcases named with ⟨blankBefore, blankAfter⟩
  rw [readMembers, List.append_assoc, skipBlanks_gap blankBefore, quoted]
  simp only [List.cons_append, List.append_assoc, List.nil_append, skipBlanks_cons quote,
    readString_quoted, bind, Option.bind, skipBlanks_gap blankAfter, skipBlanks_cons colon, read,
    skipBlanks_gap blank, skipBlanks_cons brace]
  simp [prepend]

theorem readMembers_next (named : Names key name) (blank : Gap gap)
    (read : readValue numbers fuel chars = some (value, gap ++ ',' :: later))
    (others : readMembers numbers fuel later = some (some members, rest)) :
    readMembers numbers (fuel + 1) (name ++ chars) =
      some (some ((key, value) :: members), rest) := by
  have quote : isBlank '"' = false := rfl
  have colon : isBlank ':' = false := rfl
  have comma : isBlank ',' = false := rfl
  rcases named with ⟨blankBefore, blankAfter⟩
  rw [readMembers, List.append_assoc, skipBlanks_gap blankBefore, quoted]
  simp only [List.cons_append, List.append_assoc, List.nil_append, skipBlanks_cons quote,
    readString_quoted, bind, Option.bind, skipBlanks_gap blankAfter, skipBlanks_cons colon, read,
    skipBlanks_gap blank, skipBlanks_cons comma, others]
  simp [prepend]

/-! ## Reading a notation -/

/-- A value is followed by blanks and a sign, so no number goes on. -/
theorem Ended.of_gap (blank : Gap gap) (ended : Ended rest) : Ended (gap ++ rest) := by
  cases gap with
  | nil => exact ended
  | cons char gap =>
      intro first member
      cases member
      have white := blank char (List.mem_cons_self ..)
      simp only [isBlank, Bool.or_eq_true, decide_eq_true_eq] at white
      rcases white with ((rfl | rfl) | rfl) | rfl <;> decide

theorem Ended.nil : Ended [] := fun _ member => by cases member

theorem Ended.cons {sign : Char} (stops : isDigit sign = false ∧ sign ∉ ['.', 'e', 'E'])
    (rest : List Char) : Ended (sign :: rest) := by
  intro first member
  cases member
  exact stops

/-- Nothing is read from no characters. -/
theorem scalar_ne_nil {json : Json} (leaf : json.isScalar = true)
    (writable : json.IsWritable numbers) : json.scalar ≠ [] := by
  intro missing
  have read : readValue numbers 1 (json.scalar ++ []) = some (json, []) :=
    readValue_scalar leaf writable .nil
  rw [missing] at read
  cases read

mutual

theorem Shows.read : ∀ {json : Json} {chars : List Char} (_ : Shows numbers json chars)
    {fuel : Nat} {rest : List Char} (_ : 2 * chars.length ≤ fuel) (_ : Ended rest),
    readValue numbers fuel (chars ++ rest) = some (json, rest)
  | _, _, .after blank shown, fuel, rest, enough, ended => by
      rw [List.append_assoc, readValue_congr (skipBlanks_gap blank _)]
      rw [List.length_append] at enough
      exact shown.read (by omega) ended
  | _, _, .scalar leaf writable, fuel, rest, enough, ended => by
      have some := List.length_pos_iff.mpr (scalar_ne_nil leaf writable)
      obtain ⟨fuel, rfl⟩ := Nat.exists_eq_add_of_le' (show 1 ≤ fuel by omega)
      exact readValue_scalar leaf writable ended
  | _, _, .emptyArray blank, fuel, rest, enough, ended => by
      rw [List.length_cons] at enough
      obtain ⟨fuel, rfl⟩ := Nat.exists_eq_add_of_le' (show 1 ≤ fuel by omega)
      rw [List.cons_append, List.append_assoc]
      exact readValue_emptyArray blank
  | _, _, .array shown, fuel, rest, enough, ended => by
      rw [List.length_cons] at enough
      obtain ⟨fuel, rfl⟩ := Nat.exists_eq_add_of_le' (show 1 ≤ fuel by omega)
      exact readValue_array (shown.read (by omega))
  | _, _, .emptyObject blank, fuel, rest, enough, ended => by
      rw [List.length_cons] at enough
      obtain ⟨fuel, rfl⟩ := Nat.exists_eq_add_of_le' (show 1 ≤ fuel by omega)
      rw [List.cons_append, List.append_assoc]
      exact readValue_emptyObject blank
  | _, _, .object shown, fuel, rest, enough, ended => by
      rw [List.length_cons] at enough
      obtain ⟨fuel, rfl⟩ := Nat.exists_eq_add_of_le' (show 1 ≤ fuel by omega)
      exact readValue_object (shown.read (by omega))

theorem ItemsShow.read : ∀ {items : List Json} {chars : List Char}
    (_ : ItemsShow numbers items chars) {fuel : Nat} {rest : List Char}
    (_ : 2 * chars.length ≤ fuel + 1),
    readItems numbers fuel (chars ++ rest) = some (items, rest)
  | _, _, .last shown blank, fuel, rest, enough => by
      simp only [List.length_append, List.length_singleton] at enough
      obtain ⟨fuel, rfl⟩ := Nat.exists_eq_add_of_le' (show 1 ≤ fuel by omega)
      rw [List.append_assoc, List.append_assoc]
      exact readItems_last blank (shown.read (by omega) (.of_gap blank (.cons (by decide) _)))
  | _, _, .next shown blank others, fuel, rest, enough => by
      simp only [List.length_append, List.length_cons] at enough
      obtain ⟨fuel, rfl⟩ := Nat.exists_eq_add_of_le' (show 1 ≤ fuel by omega)
      rw [List.append_assoc, List.append_assoc]
      exact readItems_next blank (shown.read (by omega) (.of_gap blank (.cons (by decide) _)))
        (others.read (by omega))

theorem MembersShow.read : ∀ {members : List (String × Json)} {chars : List Char}
    (_ : MembersShow numbers members chars) {fuel : Nat} {rest : List Char}
    (_ : 2 * chars.length ≤ fuel + 1),
    readMembers numbers fuel (chars ++ rest) = some (some members, rest)
  | _, _, .last named shown blank, fuel, rest, enough => by
      simp only [List.length_append, List.length_singleton] at enough
      obtain ⟨fuel, rfl⟩ := Nat.exists_eq_add_of_le' (show 1 ≤ fuel by omega)
      rw [List.append_assoc, List.append_assoc, List.append_assoc]
      exact readMembers_last named blank
        (shown.read (by omega) (.of_gap blank (.cons (by decide) _)))
  | _, _, .next named shown blank others, fuel, rest, enough => by
      simp only [List.length_append, List.length_cons] at enough
      obtain ⟨fuel, rfl⟩ := Nat.exists_eq_add_of_le' (show 1 ≤ fuel by omega)
      rw [List.append_assoc, List.append_assoc, List.append_assoc]
      exact readMembers_next named blank
        (shown.read (by omega) (.of_gap blank (.cons (by decide) _))) (others.read (by omega))

end

/-- Every notation of a value is read as that value, whatever blanks follow. -/
theorem Shows.parse?_eq {json : Json} {chars : List Char} (shown : Shows numbers json chars)
    (blank : Gap gap) : parse? numbers (String.ofList (chars ++ gap)) = some json := by
  have ended : Ended gap := by
    have padded := Ended.nil.of_gap blank
    rw [List.append_nil] at padded
    exact padded
  have skipped : skipBlanks gap = [] := by
    have padded := skipBlanks_gap blank []
    rw [List.append_nil] at padded
    exact padded
  have enough : 2 * chars.length ≤ 2 * (chars ++ gap).length + 2 := by
    rw [List.length_append]
    omega
  have read := shown.read enough ended
  rw [parse?, String.toList_ofList]
  simp only [read, bind, Option.bind, skipped, if_true]

end Dilemma.Json
