import Dilemma.Interpretation.Recognizer
import Dilemma.Proofs.Interpretation.Lookup
import Dilemma.Proofs.Play.Mirror
import Dilemma.Proofs.Rule.Reliability

/-! # Answers of the recogniser

What the recogniser answers is always accepted. Its templates exist, and its rules pass
every check and never fail, because the numbers in them have 32 bits and no period is zero.
So an interpreter that asks it falls back only where a text is too long or not recognised. -/

namespace Dilemma.Recognizer

/-! ## Numbers -/

theorem number?_lt {token : String} {value : Nat} (found : number? token = some value) :
    value < UInt32.size := by
  cases digits : Text.natural? UInt32.size token.toList with
  | some read =>
      rw [number?, digits] at found
      cases found
      rcases Option.bind_eq_some_iff.mp digits with ⟨read, -, bounded⟩
      split at bounded <;> cases bounded
      assumption
  | none =>
      rw [number?, digits] at found
      have place := (List.findIdx?_eq_some_iff_getElem.mp found).1
      exact place.trans (by decide)

theorem phrase?_lt {tokens rest : List String} {move : Move} {count : Nat}
    (found : phrase? tokens = some (move, count, rest)) : count < UInt32.size := by
  cases tokens with
  | nil => cases found
  | cons token tokens =>
      simp only [phrase?, Option.bind_eq_bind, Option.bind_eq_some_iff] at found
      rcases found with ⟨named, -, found⟩
      split at found
      · cases found
      · rcases Option.bind_eq_some_iff.mp found with ⟨value, number, equal⟩
        cases equal
        exact number?_lt number

theorem firstPhrase?_lt {tokens rest : List String} {move : Move} {count : Nat}
    (found : firstPhrase? tokens = some (move, count, rest)) : count < UInt32.size := by
  induction tokens with
  | nil => cases found
  | cons token tokens induction =>
      rw [firstPhrase?] at found
      split at found
      · rename_i phrase
        cases found
        exact phrase?_lt phrase
      · exact induction found

theorem isFinite_ofNat {value : Nat} (small : value < UInt32.size) :
    (Binary64.ofNat value).isFinite = true := by
  have size : UInt32.size < 2 ^ 65 := by decide
  exact Binary64.isFinite_ofInt (by omega)

theorem isZero_ofNat {value : Nat} (positive : value ≠ 0) :
    (Binary64.ofNat value).isZero = false :=
  Binary64.isZero_ofInt (Int.natCast_ne_zero.mpr positive)

/-! ## Rules -/

theorem name_mem_actions (move : Move) : move.name ∈ Action.names := by
  cases move <;> decide

/-- What compares the number of the round with a literal. -/
theorem reliable_openingClause (move : Move) {rounds : Nat} (small : rounds < UInt32.size) :
    (openingClause move rounds).Reliable := by
  have finite := isFinite_ofNat small
  have nodes : (openingClause move rounds).condition.nodes 1 =
      [(1, .condition (.comparison (.predicate "round_index") "lt"
          (.number (Binary64.ofNat rounds)))),
        (2, .operand (.predicate "round_index")),
        (2, .operand (.number (Binary64.ofNat rounds)))] := rfl
  refine ⟨name_mem_actions move, ?_⟩
  rw [nodes]
  simp only [List.forall_mem_cons]
  refine ⟨⟨by decide, ⟨by decide, rfl, by decide⟩, trivial⟩, ⟨by decide, ?_, trivial⟩,
    ⟨by decide, finite, trivial⟩, List.forall_mem_nil _⟩
  exact .inr (by decide)

theorem reliable_retaliation : retaliation.Reliable := by
  have nodes : retaliation.condition.nodes 1 =
      [(1, .condition (.comparison (.predicate "opponent_last_move") "eq" (.move "defect"))),
        (2, .operand (.predicate "opponent_last_move")), (2, .operand (.move "defect"))] := rfl
  refine ⟨name_mem_actions .defect, ?_⟩
  rw [nodes]
  simp only [List.forall_mem_cons]
  refine ⟨⟨by decide, ⟨by decide, rfl, by decide⟩, trivial⟩, ⟨by decide, ?_, trivial⟩,
    ⟨by decide, ?_, trivial⟩, List.forall_mem_nil _⟩
  · exact .inl (by decide)
  · exact show "defect" ∈ Move.names by decide

theorem reliable_alternation (first second : Move) {count period : Nat}
    (countSmall : count < UInt32.size) (periodSmall : period < UInt32.size)
    (positive : period ≠ 0) : (alternation first second count period).Reliable := by
  have countFinite := isFinite_ofNat countSmall
  have periodFinite := isFinite_ofNat periodSmall
  have nonzero := isZero_ofNat positive
  have noZero : ¬ (OperandDraft.number (Binary64.ofNat period)).IsZero := by
    rintro ⟨negative, equal⟩
    rw [Binary64.isZero_iff.mpr ⟨negative, OperandDraft.number.inj equal⟩] at nonzero
    cases nonzero
  refine RuleDraft.reliable_of_clauses (Nat.le_of_ble_eq_true rfl) (Nat.le_of_ble_eq_true rfl) ?_
    (name_mem_actions second)
  refine List.forall_mem_singleton.mpr ⟨name_mem_actions first, ?_⟩
  simp only [ConditionDraft.nodes, OperandDraft.nodes, List.cons_append, List.nil_append,
    List.forall_mem_cons]
  refine ⟨⟨by decide, ⟨by decide, rfl, fun moves => ?_⟩, trivial⟩,
    ⟨by decide, ⟨by decide, rfl, rfl, fun _ => noZero⟩, nonzero⟩,
    ⟨by decide, .inr (by decide), trivial⟩, ⟨by decide, periodFinite, trivial⟩,
    ⟨by decide, countFinite, trivial⟩, List.forall_mem_nil _⟩
  cases moves

/-! ## What is recognised -/

theorem reliable_of_sequence? {tokens : List String} {draft : RuleDraft}
    (recognised : sequence? tokens = some draft) : draft.Reliable := by
  simp only [sequence?, Option.bind_eq_bind, Option.bind_eq_some_iff, Prod.exists] at recognised
  rcases recognised with ⟨first, count, rest, firstFound, second, more, later, secondFound, whole⟩
  split at whole
  · cases whole
  · rename_i admitted
    cases whole
    simp only [not_or] at admitted
    have small := firstPhrase?_lt firstFound
    exact reliable_alternation first second small (by omega) admitted.2.1

theorem openingClause_of_opening? {tokens : List String} {clause : ClauseDraft}
    (asked : opening? tokens = some clause) :
    ∃ move rounds, rounds < UInt32.size ∧ clause = openingClause move rounds := by
  rw [opening?] at asked
  split at asked
  · cases asked
  · simp only [Option.bind_eq_bind, Option.bind_eq_some_iff] at asked
    rcases asked with ⟨rounds, found, equal⟩
    cases equal
    rcases List.exists_of_findSome?_eq_some found with ⟨token, -, number⟩
    exact ⟨_, rounds, number?_lt number, rfl⟩

theorem reliable_of_conditional? {tokens : List String} {draft : RuleDraft}
    (recognised : conditional? tokens = some draft) : draft.Reliable := by
  rw [conditional?] at recognised
  split at recognised <;> cases recognised
  have actions : "cooperate" ∈ Action.names := name_mem_actions .cooperate
  cases opening : opening? tokens with
  | none =>
      exact RuleDraft.reliable_of_clauses (Nat.le_of_ble_eq_true rfl) (Nat.le_of_ble_eq_true rfl)
        (List.forall_mem_singleton.mpr reliable_retaliation) actions
  | some clause =>
      rcases openingClause_of_opening? opening with ⟨move, rounds, small, rfl⟩
      exact RuleDraft.reliable_of_clauses (Nat.le_of_ble_eq_true rfl) (Nat.le_of_ble_eq_true rfl)
        (List.forall_mem_cons.mpr ⟨reliable_openingClause move small,
          List.forall_mem_singleton.mpr reliable_retaliation⟩) actions

theorem reliable_chance : RuleDraft.Reliable ⟨[], "random"⟩ :=
  RuleDraft.reliable_of_clauses (Nat.zero_le _) (Nat.zero_le _) (List.forall_mem_nil _) (by decide)

/-- The answer names a template, gives a reliable rule, or gives up. -/
def Sensible : Answer → Prop
  | .rule draft => draft.Reliable
  | .template name => ∃ template, Template.ofName? name = some template
  | .failed _ => True

theorem sensible_of_simple? {tokens : List String} {answer : Answer}
    (recognised : simple? tokens = some answer) : Sensible answer := by
  rw [simple?] at recognised
  split at recognised
  · cases recognised
    exact reliable_chance
  · split at recognised
    · cases recognised
    · rename_i first _ _
      split at recognised <;> cases recognised
      cases first
      · exact ⟨_, Template.ofName?_name .alwaysCooperate⟩
      · exact ⟨_, Template.ofName?_name .alwaysDefect⟩

theorem sensible_recognize (text : String) : Sensible (recognize text) := by
  rw [recognize]
  split
  · rename_i draft recognised
    exact reliable_of_conditional? recognised
  · split
    · rename_i draft recognised
      exact reliable_of_sequence? recognised
    · split
      · rename_i template _
        exact ⟨template, Template.ofName?_name template⟩
      · cases simple : simple? (tokens text) with
        | some answer => exact sensible_of_simple? simple
        | none => trivial

/-! ## Slices

An opening is asked for by the word "first", and its move and its number stand in the slices
in front of the word and behind it. Both slices lie within the tokens. -/

/-- The tokens from one position up to another, if there are such tokens. -/
def slice? (tokens : List String) (start stop : Nat) : Option (List String) :=
  if start ≤ stop ∧ stop ≤ tokens.length then some ((tokens.take stop).drop start) else none

theorem split_at_first {tokens : List String} {position : Nat}
    (found : tokens.findIdx? (· = "first") = some position) :
    position < tokens.length ∧ tokens.takeWhile (· ≠ "first") = tokens.take position ∧
      tokens.dropWhile (· ≠ "first") = "first" :: tokens.drop (position + 1) := by
  induction tokens generalizing position with
  | nil => cases found
  | cons token tokens induction =>
      rw [List.findIdx?_cons] at found
      by_cases first : token = "first"
      · subst first
        cases found
        exact ⟨Nat.zero_lt_succ _, rfl, rfl⟩
      · rw [if_neg (by simpa using first)] at found
        rcases Option.map_eq_some_iff.mp found with ⟨place, later, rfl⟩
        rcases induction later with ⟨within, before, after⟩
        refine ⟨Nat.succ_lt_succ within, ?_, ?_⟩
        · rw [List.takeWhile_cons_of_pos (by simpa using first), before, List.take_succ_cons]
        · rw [List.dropWhile_cons_of_pos (by simpa using first), after, List.drop_succ_cons]

theorem opening?_eq_slices {tokens : List String} {position : Nat}
    (found : tokens.findIdx? (· = "first") = some position) :
    ∃ before after, slice? tokens 0 position = some before ∧
      slice? tokens (position + 1) tokens.length = some after ∧
      opening? tokens = (after.findSome? number?).map
        (openingClause ((before.findSome? move?).getD .cooperate)) := by
  rcases split_at_first found with ⟨within, before, after⟩
  refine ⟨tokens.take position, tokens.drop (position + 1), ?_, ?_, ?_⟩
  · rw [slice?, if_pos ⟨Nat.zero_le _, Nat.le_of_lt within⟩, List.drop_zero]
  · rw [slice?, if_pos ⟨within, Nat.le_refl _⟩, List.take_length]
  · rw [opening?, after, before]
    dsimp only
    cases (tokens.drop (position + 1)).findSome? number? <;> rfl

end Dilemma.Recognizer
