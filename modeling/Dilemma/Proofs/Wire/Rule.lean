import Dilemma.Proofs.Json.Records
import Dilemma.Proofs.Json.Written
import Dilemma.Proofs.Number.Whole
import Dilemma.Wire.Answer

/-! # Drafts and answers come back

A draft is written in one way and read from many. What is written is read as the draft it
was written for, if its numbers are finite and its brackets are not nested too deeply; and
both hold of every draft that was read. -/

namespace Dilemma

/-! ## Literals -/

def OperandDraft.literals : OperandDraft → List Binary64
  | .predicate _ | .move _ => []
  | .number value => [value]
  | .arithmetic _ left right => left.literals ++ right.literals

mutual

def ConditionDraft.literals : ConditionDraft → List Binary64
  | .all parts | .any parts => ConditionDraft.literalsOfParts parts
  | .negation inner => inner.literals
  | .comparison left _ right => left.literals ++ right.literals

def ConditionDraft.literalsOfParts : List ConditionDraft → List Binary64
  | [] => []
  | part :: rest => part.literals ++ ConditionDraft.literalsOfParts rest

end

def RuleDraft.literals (draft : RuleDraft) : List Binary64 :=
  draft.clauses.flatMap fun clause => clause.condition.literals

/-- Only rules have numbers in them. -/
def Answer.literals : Answer → List Binary64
  | .rule draft => draft.literals
  | .template _ | .failed _ => []

def AllFinite (literals : List Binary64) : Prop :=
  ∀ value ∈ literals, value.isFinite = true

theorem allFinite_append {left right : List Binary64} :
    AllFinite (left ++ right) ↔ AllFinite left ∧ AllFinite right :=
  List.forall_mem_append

namespace Json.NumberReader

/-- The reader takes the notation of each literal for the literal. -/
def DenotesAll (numbers : NumberReader) (literals : List Binary64) : Prop :=
  ∀ value ∈ literals, numbers.Denotes value

/-- Of a finite literal the notation denotes the literal. Not every reader is so precise for
all numbers, and only the literals that occur have to be read precisely. -/
def IsFaithfulTo (numbers : NumberReader) (literals : List Binary64) : Prop :=
  ∀ value ∈ literals, value.isFinite = true → numbers.Denotes value

variable {numbers : NumberReader} {left right literals : List Binary64}

theorem denotesAll_append :
    numbers.DenotesAll (left ++ right) ↔ numbers.DenotesAll left ∧ numbers.DenotesAll right :=
  List.forall_mem_append

theorem IsFaithfulTo.denotesAll (faithful : numbers.IsFaithfulTo literals)
    (finite : AllFinite literals) : numbers.DenotesAll literals :=
  fun value member => faithful value member (finite value member)

/-- To round to the nearest number is precise enough for all of them. -/
theorem nearest_isFaithfulTo (literals : List Binary64) : nearest.IsFaithfulTo literals :=
  fun _ _ => nearest_denotes

end Json.NumberReader

variable {numbers : Json.NumberReader}

/-! ## What is written -/

theorem OperandDraft.isWritable_toJson :
    ∀ {draft : OperandDraft} (_ : numbers.DenotesAll draft.literals), draft.toJson.IsWritable numbers
  | .predicate _, _ | .move _, _ => ⟨trivial, trivial⟩
  | .number value, denoted => ⟨denoted value (List.mem_singleton_self value), trivial⟩
  | .arithmetic _ _ _, denoted => by
      rcases Json.NumberReader.denotesAll_append.mp denoted with ⟨left, right⟩
      exact ⟨⟨trivial, isWritable_toJson left, isWritable_toJson right, trivial⟩, trivial⟩

mutual

theorem ConditionDraft.isWritable_toJson : ∀ {draft : ConditionDraft}
    (_ : numbers.DenotesAll draft.literals), draft.toJson.IsWritable numbers
  | .all _, denoted | .any _, denoted => ⟨areWritable_partsToJson denoted, trivial⟩
  | .negation _, denoted => ⟨isWritable_toJson denoted, trivial⟩
  | .comparison _ _ _, denoted => by
      rcases Json.NumberReader.denotesAll_append.mp denoted with ⟨left, right⟩
      exact ⟨⟨OperandDraft.isWritable_toJson left, trivial,
        OperandDraft.isWritable_toJson right, trivial⟩, trivial⟩

theorem ConditionDraft.areWritable_partsToJson : ∀ {parts : List ConditionDraft}
    (_ : numbers.DenotesAll (ConditionDraft.literalsOfParts parts)),
    Json.AreWritable numbers (ConditionDraft.partsToJson parts)
  | [], _ => trivial
  | _ :: _, denoted => by
      rcases Json.NumberReader.denotesAll_append.mp denoted with ⟨part, rest⟩
      exact ⟨isWritable_toJson part, areWritable_partsToJson rest⟩

end

theorem RuleDraft.isWritable_toJson {draft : RuleDraft}
    (denoted : numbers.DenotesAll draft.literals) : draft.toJson.IsWritable numbers := by
  refine ⟨Json.areWritable_iff.mpr fun item member => ?_, trivial, trivial⟩
  rcases List.mem_map.mp member with ⟨clause, among, rfl⟩
  have part : numbers.DenotesAll clause.condition.literals := fun value literal =>
    denoted value (List.mem_flatMap.mpr ⟨clause, among, literal⟩)
  exact ⟨ConditionDraft.isWritable_toJson part, trivial, trivial⟩

theorem Answer.isWritable_toJson {answer : Answer} (denoted : numbers.DenotesAll answer.literals) :
    answer.toJson.IsWritable numbers := by
  cases answer with
  | rule draft => exact ⟨trivial, RuleDraft.isWritable_toJson denoted, trivial⟩
  | template name => exact ⟨trivial, trivial, trivial⟩
  | failed reason => exact ⟨trivial, trivial, trivial⟩

/-! ## Reading what is written -/

theorem OperandDraft.nesting_arithmetic (operator : String) (left right : OperandDraft) :
    (arithmetic operator left right).toJson.nesting =
      max left.toJson.nesting right.toJson.nesting + 2 := by
  simp [toJson, Json.nesting, Json.nestingOfMembers]

theorem OperandDraft.ofJson?_arithmetic (room : Nat) (operator : String)
    (left right : OperandDraft) :
    ofJson? (room + 2) (arithmetic operator left right).toJson =
      (ofJson? room left.toJson).bind fun left =>
        (ofJson? room right.toJson).bind fun right => some (.arithmetic operator left right) :=
  rfl

theorem OperandDraft.ofJson?_number {value : Binary64} (finite : value.isFinite = true)
    (room : Nat) : ofJson? (room + 1) (number value).toJson = some (number value) := by
  have view : (Json.real value).real? = some value := if_pos finite
  cases room <;>
    · rw [toJson, ofJson?]
      simp only [Json.alternative?, Option.bind_eq_bind, Option.bind_some, view]
      rfl

theorem OperandDraft.ofJson?_toJson : ∀ {draft : OperandDraft} (_ : AllFinite draft.literals)
    {room : Nat} (_ : draft.toJson.nesting ≤ room), ofJson? room draft.toJson = some draft
  | .predicate _, _, room, shallow => by
      obtain ⟨room, rfl⟩ := Nat.exists_eq_add_of_le' (show 1 ≤ room from shallow)
      cases room <;> rfl
  | .number value, finite, room, shallow => by
      obtain ⟨room, rfl⟩ := Nat.exists_eq_add_of_le' (show 1 ≤ room from shallow)
      exact ofJson?_number (finite value (List.mem_singleton_self value)) room
  | .move _, _, room, shallow => by
      obtain ⟨room, rfl⟩ := Nat.exists_eq_add_of_le' (show 1 ≤ room from shallow)
      cases room <;> rfl
  | .arithmetic operator left right, finite, room, shallow => by
      rcases allFinite_append.mp finite with ⟨leftFinite, rightFinite⟩
      rw [nesting_arithmetic] at shallow
      obtain ⟨room, rfl⟩ := Nat.exists_eq_add_of_le' (show 2 ≤ room by omega)
      rw [ofJson?_arithmetic, ofJson?_toJson leftFinite (by omega),
        ofJson?_toJson rightFinite (by omega)]
      rfl

theorem ConditionDraft.nesting_all (parts : List ConditionDraft) :
    (all parts).toJson.nesting = Json.nestingOfItems (partsToJson parts) + 2 := by
  simp [toJson, Json.nesting, Json.nestingOfMembers]

theorem ConditionDraft.nesting_any (parts : List ConditionDraft) :
    (any parts).toJson.nesting = Json.nestingOfItems (partsToJson parts) + 2 := by
  simp [toJson, Json.nesting, Json.nestingOfMembers]

theorem ConditionDraft.nesting_negation (inner : ConditionDraft) :
    (negation inner).toJson.nesting = inner.toJson.nesting + 1 := by
  simp [toJson, Json.nesting, Json.nestingOfMembers]

theorem ConditionDraft.nesting_comparison (left : OperandDraft) (operator : String)
    (right : OperandDraft) :
    (comparison left operator right).toJson.nesting =
      max left.toJson.nesting right.toJson.nesting + 2 := by
  simp [toJson, Json.nesting, Json.nestingOfMembers]

/-- A condition opens at least two brackets, so there is always room to go on. -/
theorem ConditionDraft.two_le_nesting : ∀ condition : ConditionDraft,
    2 ≤ condition.toJson.nesting
  | .all parts => by rw [nesting_all]; omega
  | .any parts => by rw [nesting_any]; omega
  | .negation inner => by
      have opened := two_le_nesting inner
      rw [nesting_negation]
      omega
  | .comparison left operator right => by rw [nesting_comparison]; omega

theorem ConditionDraft.ofJson?_comparison (room : Nat) (left : OperandDraft) (operator : String)
    (right : OperandDraft) :
    ofJson? (room + 2) (comparison left operator right).toJson =
      (OperandDraft.ofJson? room left.toJson).bind fun left =>
        (OperandDraft.ofJson? room right.toJson).bind fun right =>
          some (.comparison left operator right) :=
  rfl

theorem ConditionDraft.ofJson?_negation (room : Nat) (inner : ConditionDraft) :
    ofJson? (room + 2) (negation inner).toJson =
      (ofJson? (room + 1) inner.toJson).bind fun inner => some (.negation inner) := by
  rw [toJson, ofJson?]
  rfl

theorem ConditionDraft.ofJson?_all (room : Nat) (parts : List ConditionDraft) :
    ofJson? (room + 2) (all parts).toJson =
      ((partsToJson parts).mapM (ofJson? room)).bind fun parts => some (.all parts) := by
  rw [toJson, ofJson?]
  rfl

theorem ConditionDraft.ofJson?_any (room : Nat) (parts : List ConditionDraft) :
    ofJson? (room + 2) (any parts).toJson =
      ((partsToJson parts).mapM (ofJson? room)).bind fun parts => some (.any parts) := by
  rw [toJson, ofJson?]
  rfl

mutual

theorem ConditionDraft.ofJson?_toJson : ∀ {draft : ConditionDraft}
    (_ : AllFinite draft.literals) {room : Nat} (_ : draft.toJson.nesting ≤ room),
    ofJson? room draft.toJson = some draft
  | .all parts, finite, room, shallow => by
      rw [nesting_all] at shallow
      obtain ⟨room, rfl⟩ := Nat.exists_eq_add_of_le' (show 2 ≤ room by omega)
      rw [ofJson?_all, mapM_partsToJson finite (by omega)]
      rfl
  | .any parts, finite, room, shallow => by
      rw [nesting_any] at shallow
      obtain ⟨room, rfl⟩ := Nat.exists_eq_add_of_le' (show 2 ≤ room by omega)
      rw [ofJson?_any, mapM_partsToJson finite (by omega)]
      rfl
  | .negation inner, finite, room, shallow => by
      have opened := two_le_nesting inner
      rw [nesting_negation] at shallow
      obtain ⟨room, rfl⟩ := Nat.exists_eq_add_of_le' (show 2 ≤ room by omega)
      have innerFinite : AllFinite inner.literals := finite
      rw [ofJson?_negation, ofJson?_toJson innerFinite (by omega)]
      rfl
  | .comparison left operator right, finite, room, shallow => by
      rcases allFinite_append.mp finite with ⟨leftFinite, rightFinite⟩
      rw [nesting_comparison] at shallow
      obtain ⟨room, rfl⟩ := Nat.exists_eq_add_of_le' (show 2 ≤ room by omega)
      rw [ofJson?_comparison, OperandDraft.ofJson?_toJson leftFinite (by omega),
        OperandDraft.ofJson?_toJson rightFinite (by omega)]
      rfl

theorem ConditionDraft.mapM_partsToJson : ∀ {parts : List ConditionDraft}
    (_ : AllFinite (literalsOfParts parts)) {room : Nat}
    (_ : Json.nestingOfItems (partsToJson parts) ≤ room),
    (partsToJson parts).mapM (ofJson? room) = some parts
  | [], _, _, _ => rfl
  | part :: rest, finite, room, shallow => by
      rcases allFinite_append.mp finite with ⟨partFinite, restFinite⟩
      rw [partsToJson, Json.nestingOfItems, max_le_iff] at shallow
      rw [partsToJson, List.mapM_cons, ofJson?_toJson partFinite shallow.1,
        mapM_partsToJson restFinite shallow.2]
      rfl

end

theorem ClauseDraft.nesting_toJson (clause : ClauseDraft) :
    clause.toJson.nesting = clause.condition.toJson.nesting + 1 := by
  simp [toJson, Json.nesting, Json.nestingOfMembers]

theorem ClauseDraft.ofJson?_toJson {clause : ClauseDraft}
    (finite : AllFinite clause.condition.literals) {room : Nat}
    (shallow : clause.toJson.nesting ≤ room) : ofJson? room clause.toJson = some clause := by
  have step : ofJson? room clause.toJson =
      (ConditionDraft.ofJson? (room - 1) clause.condition.toJson).bind fun condition =>
        some ⟨condition, clause.action⟩ := rfl
  rw [nesting_toJson] at shallow
  rw [step, ConditionDraft.ofJson?_toJson finite (by omega)]
  rfl

theorem RuleDraft.nesting_toJson (draft : RuleDraft) :
    draft.toJson.nesting = Json.nestingOfItems (draft.clauses.map ClauseDraft.toJson) + 2 := by
  simp [toJson, Json.nesting, Json.nestingOfMembers]

theorem RuleDraft.ofJson?_toJson {draft : RuleDraft} (finite : AllFinite draft.literals)
    {room : Nat} (shallow : draft.toJson.nesting ≤ room) :
    ofJson? room draft.toJson = some draft := by
  have step : ofJson? room draft.toJson =
      ((Json.array (draft.clauses.map ClauseDraft.toJson)).list?
        (ClauseDraft.ofJson? (room - 2))).bind fun clauses =>
          some ⟨clauses, draft.otherwise⟩ := rfl
  have clauses : (Json.array (draft.clauses.map ClauseDraft.toJson)).list?
      (ClauseDraft.ofJson? (room - 2)) = some draft.clauses := by
    refine Json.list?_map fun clause member => ?_
    have part : AllFinite clause.condition.literals := fun value literal =>
      finite value (List.mem_flatMap.mpr ⟨clause, member, literal⟩)
    rw [nesting_toJson] at shallow
    have inner : Json.nestingOfItems (draft.clauses.map ClauseDraft.toJson) ≤ room - 2 := by
      omega
    exact ClauseDraft.ofJson?_toJson part
      (Json.nestingOfItems_le_iff.mp inner _ (List.mem_map_of_mem member))
  rw [step, clauses]
  rfl

theorem RuleDraft.parse?_toJson {draft : RuleDraft} (finite : AllFinite draft.literals)
    (faithful : numbers.IsFaithfulTo draft.literals)
    (shallow : draft.toJson.nesting ≤ Json.nestingLimit) :
    parse? numbers draft.toJson.compact = some draft := by
  rw [parse?, Json.parse?_compact (isWritable_toJson (faithful.denotesAll finite))]
  exact ofJson?_toJson finite shallow

theorem Answer.nesting_rule (draft : RuleDraft) :
    (rule draft).toJson.nesting = draft.toJson.nesting + 1 := by
  simp [toJson, Json.nesting, Json.nestingOfMembers]

/-- The kind is taken out of the object, and the field it asks for is left. -/
theorem Answer.ofJson?_tagged {kind key : String} {contents json : Json}
    (written : json = .object [("status", .text kind), (key, contents)]) (other : key ≠ "status")
    (readable : json.isReadable = true) (shallow : json.nesting ≤ Json.nestingLimit) :
    ofJson? json = ofContents? kind (.object [(key, contents)]) := by
  have admitted : (!json.isReadable || decide (Json.nestingLimit < json.nesting)) = false := by
    rw [readable, decide_eq_false (Nat.not_lt.mpr shallow)]
    rfl
  unfold ofJson?
  rw [admitted, if_neg Bool.false_ne_true]
  subst written
  have tags : Json.valuesOf "status" [("status", .text kind), (key, contents)] = [.text kind] := by
    simp [Json.valuesOf, other]
  simp [tags, Json.text?, other]

theorem Answer.ofJson?_toJson {answer : Answer} (finite : AllFinite answer.literals)
    (shallow : answer.toJson.nesting ≤ Json.nestingLimit) :
    ofJson? answer.toJson = some answer := by
  have denoted := (Json.NumberReader.nearest_isFaithfulTo answer.literals).denotesAll finite
  have readable := Json.isReadable_of_isWritable (isWritable_toJson denoted)
  cases answer with
  | rule draft =>
      refine (ofJson?_tagged rfl (by decide) readable shallow).trans ?_
      rw [nesting_rule] at shallow
      have back : RuleDraft.ofJson? (Json.nestingLimit - 1) draft.toJson = some draft :=
        RuleDraft.ofJson?_toJson finite (Nat.le_sub_one_of_lt shallow)
      have step : ofContents? "rule" (.object [("rule", draft.toJson)]) =
          (RuleDraft.ofJson? (Json.nestingLimit - 1) draft.toJson).bind fun draft =>
            some (.rule draft) := rfl
      rw [step, back]
      rfl
  | template name => exact ofJson?_tagged rfl (by decide) readable shallow
  | failed reason => exact ofJson?_tagged rfl (by decide) readable shallow

theorem Answer.parse?_toJson {answer : Answer} (finite : AllFinite answer.literals)
    (faithful : numbers.IsFaithfulTo answer.literals)
    (shallow : answer.toJson.nesting ≤ Json.nestingLimit) :
    parse? numbers answer.toJson.compact = some answer := by
  rw [parse?, Json.parse?_compact (isWritable_toJson (faithful.denotesAll finite))]
  exact ofJson?_toJson finite shallow

end Dilemma
