import Dilemma.Proofs.Wire.Rule

/-! # Drafts that were read

Whatever form a text had, a draft that was read from it has finite numbers, and it is nested
no deeper than what was read. So it can be written and read once more. -/

namespace Dilemma

theorem Json.isFinite_of_real? {json : Json} {value : Binary64} (bounded : json.IsBounded)
    (read : json.real? = some value) : value.isFinite = true := by
  unfold real? at read
  split at read
  · rename_i whole
    cases read
    have low : -(UInt64.size / 2 : Nat) ≤ whole := bounded.1
    have high := bounded.2
    have size : UInt64.size < 2 ^ 65 := by decide
    exact Binary64.isFinite_ofInt (by omega)
  · split at read <;> cases read
    assumption
  · cases read

/-! ## Operands -/

namespace OperandDraft

/-- The draft comes back from what is written for it, with so much room. -/
def Fits (draft : OperandDraft) (room : Nat) : Prop :=
  AllFinite draft.literals ∧ draft.toJson.nesting ≤ room

variable {room : Nat} {json contents : Json} {draft : OperandDraft}

theorem fits_of_predicate (read : (contents.text?.bind fun name => some (predicate name)) =
    some draft) : draft.Fits (room + 1) := by
  rcases Option.bind_eq_some_iff.mp read with ⟨name, -, equal⟩
  cases equal
  exact ⟨List.forall_mem_nil _, Nat.le_add_left 1 room⟩

theorem fits_of_move (read : (contents.text?.bind fun name => some (move name)) = some draft) :
    draft.Fits (room + 1) := by
  rcases Option.bind_eq_some_iff.mp read with ⟨name, -, equal⟩
  cases equal
  exact ⟨List.forall_mem_nil _, Nat.le_add_left 1 room⟩

theorem fits_of_number (bounded : contents.IsBounded)
    (read : (contents.real?.bind fun value => some (number value)) = some draft) :
    draft.Fits (room + 1) := by
  rcases Option.bind_eq_some_iff.mp read with ⟨value, real, equal⟩
  cases equal
  have finite := Json.isFinite_of_real? bounded real
  exact ⟨List.forall_mem_singleton.mpr finite, Nat.le_add_left 1 room⟩

theorem fits_arithmetic (operator : String) {left right : OperandDraft}
    (leftFits : left.Fits room) (rightFits : right.Fits room) :
    (arithmetic operator left right).Fits (room + 2) := by
  refine ⟨allFinite_append.mpr ⟨leftFits.1, rightFits.1⟩, ?_⟩
  rw [nesting_arithmetic]
  exact Nat.add_le_add_right (max_le leftFits.2 rightFits.2) 2

theorem fits_of_ofJson? (bounded : json.IsBounded) (read : ofJson? room json = some draft) :
    draft.Fits room := by
  induction room using Nat.strongRecOn generalizing json draft with
  | ind room induction =>
      rcases room with _ | _ | room
      · cases read
      · simp only [ofJson?, Option.bind_eq_bind, Option.bind_eq_some_iff, Prod.exists] at read
        rcases read with ⟨key, contents, found, read⟩
        have inner := Json.isBounded_of_alternative? bounded found
        split at read
        · exact fits_of_predicate read
        · rename_i equal
          cases equal
          exact fits_of_number inner read
        · exact fits_of_move read
        · cases read
      · simp only [ofJson?, Option.bind_eq_bind, Option.bind_eq_some_iff, Prod.exists] at read
        rcases read with ⟨key, contents, found, read⟩
        have inner := Json.isBounded_of_alternative? bounded found
        split at read
        · exact fits_of_predicate read
        · rename_i equal
          cases equal
          exact fits_of_number inner read
        · exact fits_of_move read
        · rename_i equal
          cases equal
          rcases Option.bind_eq_some_iff.mp read with ⟨fields, listed, read⟩
          have part (value : Json) (member : some value ∈ fields) : value.IsBounded :=
            Json.isBounded_of_fields? inner listed member
          split at read
          · simp only [Option.bind_eq_some_iff] at read
            rcases read with ⟨operator, -, left, leftRead, right, rightRead, equal⟩
            cases equal
            exact fits_arithmetic operator
              (induction room (by omega) (part _ (by simp)) leftRead)
              (induction room (by omega) (part _ (by simp)) rightRead)
          · cases read
        · cases read

end OperandDraft

/-! ## Conditions -/

namespace ConditionDraft

def Fits (draft : ConditionDraft) (room : Nat) : Prop :=
  AllFinite draft.literals ∧ draft.toJson.nesting ≤ room

variable {room : Nat} {json : Json} {draft : ConditionDraft}

/-- The parts of a list fit if every one of them does. -/
theorem parts_fit : ∀ {parts : List ConditionDraft} (_ : ∀ part ∈ parts, part.Fits room),
    AllFinite (literalsOfParts parts) ∧ Json.nestingOfItems (partsToJson parts) ≤ room
  | [], _ => ⟨List.forall_mem_nil _, Nat.zero_le room⟩
  | part :: rest, fit => by
      rcases List.forall_mem_cons.mp fit with ⟨partFits, restFit⟩
      rcases parts_fit restFit with ⟨finite, shallow⟩
      exact ⟨allFinite_append.mpr ⟨partFits.1, finite⟩, max_le partFits.2 shallow⟩

theorem fits_all {parts : List ConditionDraft} (fit : ∀ part ∈ parts, part.Fits room) :
    (all parts).Fits (room + 2) := by
  rcases parts_fit fit with ⟨finite, shallow⟩
  refine ⟨finite, ?_⟩
  rw [nesting_all]
  exact Nat.add_le_add_right shallow 2

theorem fits_any {parts : List ConditionDraft} (fit : ∀ part ∈ parts, part.Fits room) :
    (any parts).Fits (room + 2) := by
  rcases parts_fit fit with ⟨finite, shallow⟩
  refine ⟨finite, ?_⟩
  rw [nesting_any]
  exact Nat.add_le_add_right shallow 2

theorem fits_negation {inner : ConditionDraft} (fits : inner.Fits room) :
    (negation inner).Fits (room + 1) := by
  refine ⟨fits.1, ?_⟩
  rw [nesting_negation]
  exact Nat.add_le_add_right fits.2 1

theorem fits_comparison {left right : OperandDraft} (leftFits : left.Fits room)
    (operator : String) (rightFits : right.Fits room) :
    (comparison left operator right).Fits (room + 2) := by
  refine ⟨allFinite_append.mpr ⟨leftFits.1, rightFits.1⟩, ?_⟩
  rw [nesting_comparison]
  exact Nat.add_le_add_right (max_le leftFits.2 rightFits.2) 2

theorem parts_of_list? {contents : Json} {parts : List ConditionDraft}
    (bounded : contents.IsBounded) (all : contents.list? (ofJson? room) = some parts)
    (induction : ∀ {json draft}, json.IsBounded → ofJson? room json = some draft →
      draft.Fits room) : ∀ part ∈ parts, part.Fits room := by
  intro part member
  rcases Json.items_of_list? all with ⟨items, rfl, back⟩
  rcases back part member with ⟨item, among, read⟩
  exact induction (Json.areBounded_iff.mp bounded item among) read

theorem fits_of_ofJson? (bounded : json.IsBounded) (read : ofJson? room json = some draft) :
    draft.Fits room := by
  induction room using Nat.strongRecOn generalizing json draft with
  | ind room induction =>
      rcases room with _ | _ | room
      · simp [ofJson?] at read
      · simp [ofJson?] at read
      · simp only [ofJson?, Option.bind_eq_bind, Option.bind_eq_some_iff, Prod.exists] at read
        rcases read with ⟨key, contents, found, read⟩
        have inner := Json.isBounded_of_alternative? bounded found
        split at read
        · rename_i equal
          cases equal
          rcases Option.bind_eq_some_iff.mp read with ⟨parts, listed, equal⟩
          cases equal
          exact fits_all (parts_of_list? inner listed (induction room (by omega)))
        · rename_i equal
          cases equal
          rcases Option.bind_eq_some_iff.mp read with ⟨parts, listed, equal⟩
          cases equal
          exact fits_any (parts_of_list? inner listed (induction room (by omega)))
        · rename_i equal
          cases equal
          rcases Option.bind_eq_some_iff.mp read with ⟨negated, innerRead, equal⟩
          cases equal
          exact fits_negation (induction (room + 1) (by omega) inner innerRead)
        · rename_i equal
          cases equal
          rcases Option.bind_eq_some_iff.mp read with ⟨fields, listed, read⟩
          have part (value : Json) (member : some value ∈ fields) : value.IsBounded :=
            Json.isBounded_of_fields? inner listed member
          split at read
          · simp only [Option.bind_eq_some_iff] at read
            rcases read with ⟨left, leftRead, operator, -, right, rightRead, equal⟩
            cases equal
            exact fits_comparison
              (OperandDraft.fits_of_ofJson? (part _ (by simp)) leftRead) operator
              (OperandDraft.fits_of_ofJson? (part _ (by simp)) rightRead)
          · cases read
        · cases read

end ConditionDraft

/-! ## Rules -/

theorem ClauseDraft.fits_of_ofJson? {room : Nat} {json : Json} {clause : ClauseDraft}
    (bounded : json.IsBounded) (read : ofJson? room json = some clause) :
    AllFinite clause.condition.literals ∧ clause.toJson.nesting ≤ room := by
  simp only [ofJson?, Option.bind_eq_bind, Option.bind_eq_some_iff] at read
  rcases read with ⟨fields, listed, read⟩
  split at read
  · rename_i conditionJson actionJson
    simp only [Option.bind_eq_some_iff] at read
    rcases read with ⟨condition, conditionRead, action, -, equal⟩
    cases equal
    have fits := ConditionDraft.fits_of_ofJson?
      (Json.isBounded_of_fields? bounded listed (List.mem_cons_self ..)) conditionRead
    have opened := condition.two_le_nesting
    have shallow := fits.2
    refine ⟨fits.1, ?_⟩
    rw [nesting_toJson]
    dsimp only
    omega
  · cases read

namespace RuleDraft

def Fits (draft : RuleDraft) (room : Nat) : Prop :=
  AllFinite draft.literals ∧ draft.toJson.nesting ≤ room

theorem fits_of_clauses {draft : RuleDraft} {room : Nat}
    (fit : ∀ clause ∈ draft.clauses,
      AllFinite clause.condition.literals ∧ clause.toJson.nesting ≤ room) :
    draft.Fits (room + 2) := by
  constructor
  · intro value literal
    rcases List.mem_flatMap.mp literal with ⟨clause, member, literal⟩
    exact (fit clause member).1 value literal
  · rw [nesting_toJson]
    refine Nat.add_le_add_right (Json.nestingOfItems_le_iff.mpr fun item member => ?_) 2
    rcases List.mem_map.mp member with ⟨clause, among, rfl⟩
    exact (fit clause among).2

theorem fits_of_ofJson? {room : Nat} {json : Json} {draft : RuleDraft}
    (bounded : json.IsBounded) (read : ofJson? (room + 2) json = some draft) :
    draft.Fits (room + 2) := by
  simp only [ofJson?, Option.bind_eq_bind, Option.bind_eq_some_iff] at read
  rcases read with ⟨fields, listed, read⟩
  split at read
  · simp only [Option.bind_eq_some_iff] at read
    rcases read with ⟨clauses, clausesRead, otherwise, -, equal⟩
    cases equal
    have inner := Json.isBounded_of_fields? bounded listed (List.mem_cons_self ..)
    rcases Json.items_of_list? clausesRead with ⟨items, rfl, back⟩
    refine fits_of_clauses fun clause member => ?_
    rcases back clause member with ⟨item, among, read⟩
    exact ClauseDraft.fits_of_ofJson? (Json.areBounded_iff.mp inner item among) read
  · simp only [Option.bind_eq_some_iff] at read
    rcases read with ⟨otherwise, -, equal⟩
    cases equal
    exact fits_of_clauses fun clause member => absurd member List.not_mem_nil
  · cases read

end RuleDraft

/-! ## Answers -/

namespace Answer

theorem nesting_template (name : String) : (template name).toJson.nesting = 1 := by
  simp [toJson, Json.nesting, Json.nestingOfMembers]

theorem nesting_failed (reason : String) : (failed reason).toJson.nesting = 1 := by
  simp [toJson, Json.nesting, Json.nestingOfMembers]

def Fits (answer : Answer) : Prop :=
  AllFinite answer.literals ∧ answer.toJson.nesting ≤ Json.nestingLimit

theorem fits_of_ofContents? {kind : String} {contents : Json} {answer : Answer}
    (bounded : contents.IsBounded) (read : ofContents? kind contents = some answer) :
    answer.Fits := by
  unfold ofContents? at read
  split at read
  · simp only [Option.bind_eq_bind, Option.bind_eq_some_iff] at read
    rcases read with ⟨fields, listed, read⟩
    split at read
    · rcases Option.bind_eq_some_iff.mp read with ⟨draft, draftRead, equal⟩
      cases equal
      have inner := Json.isBounded_of_fields? bounded listed (List.mem_cons_self ..)
      have fits := RuleDraft.fits_of_ofJson? inner draftRead
      refine ⟨fits.1, ?_⟩
      rw [nesting_rule]
      exact Nat.add_le_add_right fits.2 1
    · cases read
  · simp only [Option.bind_eq_bind, Option.bind_eq_some_iff] at read
    rcases read with ⟨fields, -, read⟩
    split at read
    · rcases Option.bind_eq_some_iff.mp read with ⟨name, -, equal⟩
      cases equal
      refine ⟨List.forall_mem_nil _, ?_⟩
      rw [nesting_template]
      decide
    · cases read
  · simp only [Option.bind_eq_bind, Option.bind_eq_some_iff] at read
    rcases read with ⟨fields, -, read⟩
    split at read
    · rcases Option.bind_eq_some_iff.mp read with ⟨reason, -, equal⟩
      cases equal
      refine ⟨List.forall_mem_nil _, ?_⟩
      rw [nesting_failed]
      decide
    · cases read
  · cases read

theorem fits_of_ofJson? {json : Json} {answer : Answer} (bounded : json.IsBounded)
    (read : ofJson? json = some answer) : answer.Fits := by
  unfold ofJson? at read
  split at read
  · cases read
  · split at read
    · rename_i kind rest _
      have fields : (Json.array rest).IsBounded := bounded.2
      rcases Option.bind_eq_some_iff.mp read with ⟨kind, -, read⟩
      exact fits_of_ofContents? fields read
    · rename_i members _
      have fields : (Json.object (members.filter (·.1 ≠ "status"))).IsBounded :=
        Json.membersBounded_iff.mpr fun member among =>
          Json.membersBounded_iff.mp bounded member (List.mem_of_mem_filter among)
      split at read
      · rcases Option.bind_eq_some_iff.mp read with ⟨kind, -, read⟩
        exact fits_of_ofContents? fields read
      · cases read
    · cases read

end Answer

/-! ## Round trips -/

/-- Drafts and answers come back from what is written for them, and whatever else is read as
one comes back from what is written for it then. How the reader takes numbers matters only for
the literals that are written: their notations have to denote them. -/
theorem drafts_and_answers_come_back (numbers : Json.NumberReader) :
    (∀ draft : RuleDraft, AllFinite draft.literals → numbers.IsFaithfulTo draft.literals →
      draft.toJson.nesting ≤ Json.nestingLimit →
      RuleDraft.parse? numbers draft.toJson.compact = some draft) ∧
    (∀ answer : Answer, AllFinite answer.literals → numbers.IsFaithfulTo answer.literals →
      answer.toJson.nesting ≤ Json.nestingLimit →
      Answer.parse? numbers answer.toJson.compact = some answer) ∧
    (∀ (text : String) (draft : RuleDraft), RuleDraft.parse? numbers text = some draft →
      numbers.IsFaithfulTo draft.literals →
      RuleDraft.parse? numbers draft.toJson.compact = some draft) ∧
    (∀ (text : String) (answer : Answer), Answer.parse? numbers text = some answer →
      numbers.IsFaithfulTo answer.literals →
      Answer.parse? numbers answer.toJson.compact = some answer) := by
  refine ⟨fun draft => RuleDraft.parse?_toJson, fun answer => Answer.parse?_toJson, ?_, ?_⟩
  · intro text draft parsed faithful
    rcases Option.bind_eq_some_iff.mp parsed with ⟨json, source, read⟩
    have fits : draft.Fits Json.nestingLimit :=
      RuleDraft.fits_of_ofJson? (Json.isBounded_of_parse? source) read
    exact RuleDraft.parse?_toJson fits.1 faithful fits.2
  · intro text answer parsed faithful
    rcases Option.bind_eq_some_iff.mp parsed with ⟨json, source, read⟩
    have fits := Answer.fits_of_ofJson? (Json.isBounded_of_parse? source) read
    exact Answer.parse?_toJson fits.1 faithful fits.2

/-- The texts leave a field out, add one, change the order of fields or do not name them. -/
theorem drafts_and_answers_come_back_from_other_forms :
    let numbers := Json.NumberReader.nearest
    RuleDraft.parse? numbers (RuleDraft.toJson
      ⟨[⟨.comparison (.number (.ofInt 1)) "eq" (.move "x"), "y"⟩], "z"⟩).compact =
      some ⟨[⟨.comparison (.number (.ofInt 1)) "eq" (.move "x"), "y"⟩], "z"⟩ ∧
    Answer.parse? numbers (Answer.toJson (.rule
      ⟨[⟨.negation (.comparison (.number (.ofInt 1)) "eq" (.move "x")), "y"⟩], "z"⟩)).compact =
      some (.rule ⟨[⟨.negation (.comparison (.number (.ofInt 1)) "eq" (.move "x")), "y"⟩], "z"⟩) ∧
    (∃ draft,
      RuleDraft.parse? numbers "\x7b\"otherwise\":\"z\",\"unknown\":[\"\\ud800\",1e999]\x7d" =
        some draft ∧ RuleDraft.parse? numbers draft.toJson.compact = some draft) ∧
    ∃ answer,
      Answer.parse? numbers "[\"rule\",[[[\x7b\"not\":\x7b\"all\":[]\x7d\x7d,\"y\"]],\"z\"]]" =
        some answer ∧ Answer.parse? numbers answer.toJson.compact = some answer := by
  intro numbers
  have faithful : ∀ literals, numbers.IsFaithfulTo literals :=
    Json.NumberReader.nearest_isFaithfulTo
  have one : (Binary64.ofInt 1).isFinite = true := by decide +kernel
  have draftRead : ∃ draft, RuleDraft.parse? numbers
      "\x7b\"otherwise\":\"z\",\"unknown\":[\"\\ud800\",1e999]\x7d" = some draft :=
    Option.isSome_iff_exists.mp (by decide +kernel)
  have answerRead : ∃ answer, Answer.parse? numbers
      "[\"rule\",[[[\x7b\"not\":\x7b\"all\":[]\x7d\x7d,\"y\"]],\"z\"]]" = some answer :=
    Option.isSome_iff_exists.mp (by decide +kernel)
  rcases drafts_and_answers_come_back numbers with ⟨drafts, answers, draftTexts, answerTexts⟩
  refine ⟨drafts _ ?_ (faithful _) (by decide), answers _ ?_ (faithful _) (by decide), ?_, ?_⟩
  · exact List.forall_mem_singleton.mpr one
  · exact List.forall_mem_singleton.mpr one
  · rcases draftRead with ⟨draft, parsed⟩
    exact ⟨draft, parsed, draftTexts _ draft parsed (faithful _)⟩
  · rcases answerRead with ⟨answer, parsed⟩
    exact ⟨answer, parsed, answerTexts _ answer parsed (faithful _)⟩

end Dilemma
