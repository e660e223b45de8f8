import Dilemma.Interpretation.Interpreter
import Dilemma.Proofs.Interpretation.Lookup
import Dilemma.Proofs.Interpretation.SharedCache
import Dilemma.Proofs.Rule.Signs

/-! # Equal logics

A logic that a program can build has an essence: what is left of it without the signs of zeros in
a rule and without all of a function but its identity. Logics are the same exactly if they have one
essence, and then nobody can tell them apart by the moves that they play. -/

namespace Dilemma

/-! ## Decisions that are alike -/

namespace Decision

/-- One move, failures of one kind, or the same crash. -/
inductive Alike : Decision → Decision → Prop
  | plays (move : Move) : Alike (.plays move) (.plays move)
  | fails {error other : DecisionError} (kind : error.kind = other.kind) :
      Alike (.fails error) (.fails other)
  | crashes (message : Option String) : Alike (.crashes message) (.crashes message)

theorem Alike.refl (decision : Decision) : decision.Alike decision := by
  cases decision with
  | plays move => exact .plays move
  | fails error => exact .fails rfl
  | crashes message => exact .crashes message

theorem alike_of_outcome {left right : Except DecisionError Move}
    (same : outcome id left = outcome id right) : (ofExcept left).Alike (ofExcept right) := by
  cases left with
  | ok move =>
      cases right with
      | ok other =>
          obtain rfl : move = other := Except.ok.inj same
          exact .plays move
      | error error => cases same
  | error error =>
      cases right with
      | ok other => cases same
      | error other => exact .fails (Except.error.inj same)

end Decision

/-! ## Logics that can be built -/

namespace Logic

/-- The logics of a program in which each identity belongs to one function. Rules have passed the
check. -/
inductive Built (functions : Nat → DecisionFunction) : Logic → Prop
  | template (template : Template) (seed : UInt64) : Built functions (.template template seed)
  | rule {draft : RuleDraft} {seed : UInt64} {rule : Rule}
      (accepted : draft.check seed = .ok rule) : Built functions (.rule rule)
  | fallback {function : DecisionFunction} (known : functions function.identity = function) :
      Built functions (.fallback function)

/-- What counts where logics are compared. -/
inductive Essence where
  | template (template : Template) (seed : UInt64)
  | rule (rule : Rule)
  | fallback (identity : Nat)

def essence : Logic → Essence
  | template chosen seed => .template chosen seed
  | rule checked => .rule checked.unsigned
  | fallback function => .fallback function.identity

variable {functions : Nat → DecisionFunction} {left right : Logic}

theorem Built.same_iff (built : left.Built functions) :
    left.same right = true ↔ left.essence = right.essence := by
  cases built with
  | template chosen seed => cases right <;> simp [same, essence]
  | rule accepted =>
      have sound := RuleDraft.same_self_of_check accepted
      cases right <;> simp [same, essence, Rule.same_iff sound]
  | fallback known => cases right <;> simp [same, essence]

theorem Built.decide_alike (leftBuilt : left.Built functions) (rightBuilt : right.Built functions)
    (same : left.same right = true) (situation : Situation) :
    (left.decide situation).Alike (right.decide situation) := by
  have essences := leftBuilt.same_iff.mp same
  cases leftBuilt with
  | template chosen seed =>
      cases rightBuilt <;> cases essences
      exact .refl _
  | rule accepted =>
      cases rightBuilt with
      | rule other =>
          refine Decision.alike_of_outcome (Rule.outcome_of_same situation ?_ same)
          exact RuleDraft.same_self_of_check accepted
      | _ => cases essences
  | @fallback function known =>
      cases rightBuilt with
      | @fallback other otherKnown =>
          have identities : function.identity = other.identity := Essence.fallback.inj essences
          rw [← known, identities, otherKnown]
          exact .refl _
      | _ => cases essences

/-- What an interpreter makes of an answer can be built. -/
theorem built_logicOf {key : StrategyKey} {answer : Answer} {logic : Logic}
    (meant : Interpreter.logicOf key answer = .ok logic) : logic.Built functions := by
  rcases Interpreter.logicOf_cases meant with
    ⟨draft, rule, -, accepted, rfl⟩ | ⟨name, template, -, -, rfl⟩
  · exact .rule accepted
  · exact .template template key.fingerprint

end Logic

/-! ## Objects -/

/-- The object has the logic that lies at its address. -/
structure Shared.Placed (functions : Nat → DecisionFunction) (heap : List Logic)
    (shared : Shared) : Prop where
  located : heap[shared.address]? = some shared.logic
  built : shared.logic.Built functions

/-- Comparing addresses first never changes the result. -/
theorem Shared.Placed.sameResult_iff {functions : Nat → DecisionFunction} {heap : List Logic}
    {left right : Shared} (leftPlaced : left.Placed functions heap)
    (rightPlaced : right.Placed functions heap) :
    left.sameResult right = true ↔ left.logic.essence = right.logic.essence := by
  rw [sameResult, Bool.or_eq_true, decide_eq_true_eq, Competitor.sameLogic]
  rw [← leftPlaced.built.same_iff]
  refine ⟨fun same => same.elim (fun address => ?_) id, .inr⟩
  have logics := leftPlaced.located
  rw [address, rightPlaced.located] at logics
  rw [leftPlaced.built.same_iff, Option.some.inj logics]

/-- What is compared by a view of it is compared as an equivalence. -/
theorem equivalence_of_view {α β : Type} {related : α → α → Prop} (view : α → β)
    (agrees : ∀ left right, related left right ↔ view left = view right) :
    Equivalence related where
  refl value := (agrees value value).mpr rfl
  symm same := (agrees _ _).mpr ((agrees _ _).mp same).symm
  trans first second := (agrees _ _).mpr (((agrees _ _).mp first).trans ((agrees _ _).mp second))

/-! ## Caching again -/

/-- Once a logic was accepted under a key, it is accepted again. -/
theorem Cache.insert_again {cache after : Cache} {key : StrategyKey} {value other : Competitor}
    {insertion : Insertion} (sound : value.logic.same value.logic = true)
    (equal : other.logic = value.logic)
    (inserted : cache.insert key value = .ok (insertion, after)) :
    after.insert key other = .ok (.unchanged, after) := by
  rw [insert] at inserted
  cases found : cache.get? key with
  | none =>
      rw [found] at inserted
      cases inserted
      rw [insert, get?_add_self value found]
      dsimp only
      rw [Competitor.sameLogic, equal, sound, if_pos rfl]
  | some existing =>
      rw [found] at inserted
      dsimp only at inserted
      split at inserted
      · rename_i accepted
        cases inserted
        rw [insert, found]
        dsimp only
        rw [Competitor.sameLogic, equal, ← Competitor.sameLogic, accepted, if_pos rfl]
      · cases inserted

/-- On logics that can be built, and on objects that hold them, sameness is an equivalence. What is
made of a draft twice is the same and can be cached twice. And the same logics make the same of
every situation: one move, or failures of one kind. -/
theorem Logic.equal_logics_decide_alike (functions : Nat → DecisionFunction) :
    (∀ key answer logic, Interpreter.logicOf key answer = .ok logic → logic.Built functions) ∧
    (Equivalence fun left right : {logic : Logic // logic.Built functions} =>
      left.val.same right.val = true) ∧
    (∀ heap : List Logic,
      Equivalence fun left right : {shared : Shared // shared.Placed functions heap} =>
        left.val.sameResult right.val = true) ∧
    (∀ (draft : RuleDraft) (seed : UInt64) (rule again : Rule),
      draft.check seed = .ok rule → draft.check seed = .ok again →
        (Logic.rule rule).same (.rule again) = true ∧
        ∀ (cache after : Cache) (key : StrategyKey) (value other : Competitor)
          (insertion : Insertion), value.logic = .rule rule → other.logic = .rule again →
          cache.insert key value = .ok (insertion, after) →
          after.insert key other = .ok (.unchanged, after)) ∧
    ∀ left right : Logic, left.Built functions → right.Built functions →
      left.same right = true →
      ∀ situation, (left.decide situation).Alike (right.decide situation) := by
  refine ⟨fun _ _ _ meant => built_logicOf meant,
    equivalence_of_view (fun logic => logic.val.essence) fun left _ => left.property.same_iff,
    fun heap => equivalence_of_view (fun shared => shared.val.logic.essence) fun left right =>
      left.property.sameResult_iff right.property, ?_, ?_⟩
  · intro draft seed rule again accepted repeated
    obtain rfl : rule = again := Except.ok.inj (accepted.symm.trans repeated)
    have sound : (Logic.rule rule).same (.rule rule) = true :=
      RuleDraft.same_self_of_check accepted
    refine ⟨sound, fun cache after key value other insertion logic otherLogic inserted => ?_⟩
    rw [← logic] at sound otherLogic
    exact Cache.insert_again sound otherLogic inserted
  · exact fun left right leftBuilt rightBuilt => leftBuilt.decide_alike rightBuilt

/-- Rules that differ in the sign of a zero are the same, although they complain in other words
about the division by it. -/
theorem Logic.equal_logics_decide_alike_zeros :
    let draft (number : Binary64) : RuleDraft :=
      ⟨[⟨.comparison (.arithmetic "mod" (.predicate "round_index")
          (.arithmetic "*" (.predicate "own_total_score") (.number number))) "eq"
            (.number number), "defect"⟩], "cooperate"⟩
    let logic (number : Binary64) : Logic :=
      .rule ⟨[⟨.numbers (.arithmetic .modulo (.measure .roundIndex)
          (.arithmetic .multiply (.measure (.totalScore .own)) (.literal number))) .equal
            (.literal number), .play .defect⟩], .play .cooperate, 5⟩
    let value (name : String) : Competitor := ⟨⟨name, "x"⟩, logic .zero, .cached, none⟩
    let situation : Situation := ⟨[], [], 0, .classic⟩
    (∀ number, number = .zero ∨ number = .ofRank true 0 →
      ((draft number).check 5).map Logic.rule = .ok (logic number)) ∧
    (logic .zero).same (logic (.ofRank true 0)) = true ∧
    (logic .zero).description ≠ (logic (.ofRank true 0)).description ∧
    ((logic .zero).decide situation).Alike ((logic (.ofRank true 0)).decide situation) ∧
    (Cache.empty.add ⟨"x"⟩ (value "first")).insert ⟨"x"⟩ (value "second") =
      .ok (.unchanged, Cache.empty.add ⟨"x"⟩ (value "first")) := by
  intro draft logic value situation
  have accepted : (draft .zero).check 5 = .ok _ := rfl
  have negative : (draft (.ofRank true 0)).check 5 = .ok _ := rfl
  have same : (logic .zero).same (logic (.ofRank true 0)) = true := by decide +kernel
  rcases equal_logics_decide_alike fun _ => Template.titForTat.asFunction 0 with
    ⟨_, _, _, caching, deciding⟩
  refine ⟨?_, same, by decide +kernel, ?_, ?_⟩
  · rintro number (rfl | rfl)
    · rfl
    · rfl
  · exact deciding _ _ (.rule accepted) (.rule negative) same situation
  · exact (caching (draft .zero) 5 _ _ accepted accepted).2 .empty _ ⟨"x"⟩ (value "first")
      (value "second") .new rfl rfl rfl

end Dilemma
