import Dilemma.Proofs.Json.Number

/-! # Bounds of what is read

A number that 64 bits cannot hold is not read as an integer. So every integer in a value
that was read is one of 64 bits, however deep it lies. -/

namespace Dilemma.Json

mutual

/-- Every integer in the value has 64 bits. -/
def IsBounded : Json → Prop
  | integer value => InRange value
  | array items => AreBounded items
  | object members => MembersBounded members
  | _ => True

def AreBounded : List Json → Prop
  | [] => True
  | item :: rest => item.IsBounded ∧ AreBounded rest

def MembersBounded : List (String × Json) → Prop
  | [] => True
  | (_, value) :: rest => value.IsBounded ∧ MembersBounded rest

end

variable {numbers : NumberReader} {chars rest : List Char} {json : Json}

/-- A numeral is taken for an integer only if 64 bits hold it. -/
theorem inRange_of_integer? {numeral : Numeral} {value : Int}
    (whole : numeral.integer? = some value) : InRange value := by
  have low : Int64.minValue.toInt = -(UInt64.size / 2 : Nat) := rfl
  have high : UInt64.size = 18446744073709551616 := rfl
  rw [InRange, low]
  unfold Numeral.integer? at whole
  split at whole
  · dsimp only at whole
    split at whole <;> split at whole <;> cases whole <;> omega
  · cases whole

theorem isBounded_ofNumeral (numeral : Numeral) : (ofNumeral numbers numeral).IsBounded := by
  cases whole : numeral.integer? with
  | some value =>
      rw [ofNumeral_of_integer? numbers whole]
      exact inRange_of_integer? whole
  | none =>
      rw [ofNumeral_of_none numbers whole]
      trivial

theorem isBounded_of_readNumber (read : readNumber numbers chars = some (json, rest)) :
    json.IsBounded := by
  rw [readNumber, Option.map_eq_some_iff] at read
  rcases read with ⟨numeral, -, equal⟩
  cases equal
  exact isBounded_ofNumeral numeral.1

/-! ## One step

What is read is bounded if the parts are, which are read with one unit of fuel less. -/

def ValuesBounded (numbers : NumberReader) (fuel : Nat) : Prop :=
  ∀ {chars rest : List Char} {json : Json},
    readValue numbers fuel chars = some (json, rest) → json.IsBounded

def ListsBounded (numbers : NumberReader) (fuel : Nat) : Prop :=
  ∀ {chars rest : List Char} {items : List Json},
    readItems numbers fuel chars = some (items, rest) → AreBounded items

def RecordsBounded (numbers : NumberReader) (fuel : Nat) : Prop :=
  ∀ {chars rest : List Char} {members : List (String × Json)},
    readMembers numbers fuel chars = some (some members, rest) → MembersBounded members

variable {fuel : Nat}

theorem ValuesBounded.succ (lists : ListsBounded numbers fuel)
    (records : RecordsBounded numbers fuel) : ValuesBounded numbers (fuel + 1) := by
  intro chars rest json read
  rw [readValue] at read
  split at read
  case h_1 | h_2 | h_3 => cases read; trivial
  case h_4 =>
    simp only [Option.bind_eq_bind, Option.bind_eq_some_iff, Prod.exists] at read
    rcases read with ⟨contents, after, -, read⟩
    cases contents <;> cases read <;> trivial
  case h_5 =>
    split at read
    · cases read
      trivial
    · simp only [Option.bind_eq_bind, Option.bind_eq_some_iff, Prod.exists] at read
      rcases read with ⟨items, after, itemsRead, read⟩
      cases read
      exact lists itemsRead
  case h_6 =>
    split at read
    · cases read
      trivial
    · simp only [Option.bind_eq_bind, Option.bind_eq_some_iff, Prod.exists] at read
      rcases read with ⟨members, after, membersRead, read⟩
      cases members <;> cases read
      · trivial
      · exact records membersRead
  case h_7 => exact isBounded_of_readNumber read

theorem ListsBounded.succ (values : ValuesBounded numbers fuel)
    (lists : ListsBounded numbers fuel) : ListsBounded numbers (fuel + 1) := by
  intro chars rest items read
  simp only [readItems, Option.bind_eq_bind, Option.bind_eq_some_iff, Prod.exists] at read
  rcases read with ⟨item, after, itemRead, read⟩
  split at read
  · simp only [Option.bind_eq_some_iff, Prod.exists] at read
    rcases read with ⟨others, later, othersRead, read⟩
    cases read
    exact ⟨values itemRead, lists othersRead⟩
  · cases read
    exact ⟨values itemRead, trivial⟩
  · cases read

theorem RecordsBounded.succ (values : ValuesBounded numbers fuel)
    (records : RecordsBounded numbers fuel) : RecordsBounded numbers (fuel + 1) := by
  intro chars rest members read
  rw [readMembers] at read
  split at read
  · simp only [Option.bind_eq_bind, Option.bind_eq_some_iff, Prod.exists] at read
    rcases read with ⟨key, afterKey, -, read⟩
    split at read
    · simp only [Option.bind_eq_some_iff, Prod.exists] at read
      rcases read with ⟨value, after, valueRead, read⟩
      split at read
      · simp only [Option.bind_eq_some_iff, Prod.exists] at read
        rcases read with ⟨others, later, othersRead, read⟩
        cases key <;> cases others <;> cases read
        exact ⟨values valueRead, records othersRead⟩
      · cases key <;> cases read
        exact ⟨values valueRead, trivial⟩
      · cases read
    · cases read
  · cases read

theorem bounded_of_read (fuel : Nat) :
    ValuesBounded numbers fuel ∧ ListsBounded numbers fuel ∧ RecordsBounded numbers fuel := by
  induction fuel with
  | zero =>
      refine ⟨?_, ?_, ?_⟩ <;>
        · intro chars rest read equal
          cases equal
  | succ fuel induction =>
      rcases induction with ⟨values, lists, records⟩
      exact ⟨ValuesBounded.succ lists records, ListsBounded.succ values lists,
        RecordsBounded.succ values records⟩

theorem isBounded_of_parse? {source : String} (parsed : parse? numbers source = some json) :
    json.IsBounded := by
  simp only [parse?, Option.bind_eq_bind, Option.bind_eq_some_iff, Prod.exists] at parsed
  rcases parsed with ⟨value, rest, read, parsed⟩
  split at parsed <;> cases parsed
  exact (bounded_of_read _).1 read

end Dilemma.Json
