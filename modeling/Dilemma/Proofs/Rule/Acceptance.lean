import Dilemma.Proofs.Rule.Safety

/-! # Acceptance

The check walks through a draft with one counter for all nodes. Whatever part it
walks through, it succeeds exactly if each node there is sound and not too deep,
if the counter stays within its limit, and if the part can be lowered. -/

namespace Dilemma

/-! ## The counter -/

/-- The check gets past these nodes, and its counter moves from `visited` to
`after`. -/
structure Admits (nodes : List (Nat × DraftNode)) (visited after : Nat) : Prop where
  fits : ∀ node ∈ nodes, node.1 ≤ Rule.maxDepth ∧ node.2.IsSound
  counted : after = visited + nodes.length
  within : nodes ≠ [] → after ≤ Rule.maxNodes

theorem Admits.nil_iff {visited after : Nat} : Admits [] visited after ↔ after = visited := by
  constructor
  · intro admits
    exact admits.counted
  · intro equal
    exact ⟨by simp, equal, by simp⟩

theorem Admits.append_iff {first second : List (Nat × DraftNode)} {visited after : Nat} :
    Admits (first ++ second) visited after ↔
      ∃ middle, Admits first visited middle ∧ Admits second middle after := by
  constructor
  · intro admits
    have counted := admits.counted
    have within := admits.within
    rw [List.length_append] at counted
    refine ⟨visited + first.length, ⟨?_, rfl, ?_⟩, ⟨?_, by omega, ?_⟩⟩
    · intro node member
      exact admits.fits node (List.mem_append_left _ member)
    · intro nonempty
      have := within (by simp [nonempty])
      omega
    · intro node member
      exact admits.fits node (List.mem_append_right _ member)
    · intro nonempty
      exact within (by simp [nonempty])
  · rintro ⟨middle, firstAdmits, secondAdmits⟩
    have firstCounted := firstAdmits.counted
    have secondCounted := secondAdmits.counted
    refine ⟨?_, by rw [List.length_append]; omega, ?_⟩
    · intro node member
      rcases List.mem_append.mp member with member | member
      · exact firstAdmits.fits node member
      · exact secondAdmits.fits node member
    · intro nonempty
      by_cases empty : second = []
      · subst empty
        have := firstAdmits.within (by simpa using nonempty)
        simp only [List.length_nil] at secondCounted
        omega
      · exact secondAdmits.within empty

theorem Admits.singleton_iff {depth visited after : Nat} {node : DraftNode} :
    Admits [(depth, node)] visited after ↔ visit depth visited = .ok after ∧ node.IsSound := by
  rw [visit_eq_ok]
  constructor
  · intro admits
    have fits := admits.fits (depth, node) (.head _)
    exact ⟨⟨admits.counted, admits.within (by simp), fits.1⟩, fits.2⟩
  · rintro ⟨⟨counted, within, shallow⟩, sound⟩
    exact ⟨by simpa using ⟨shallow, sound⟩, counted, fun _ => within⟩

theorem Admits.cons_iff {depth visited after : Nat} {node : DraftNode}
    {rest : List (Nat × DraftNode)} :
    Admits ((depth, node) :: rest) visited after ↔
      ∃ middle, (visit depth visited = .ok middle ∧ node.IsSound) ∧
        Admits rest middle after := by
  rw [← List.singleton_append, append_iff]
  simp only [singleton_iff]

/-! ## Operands -/

theorem OperandDraft.check_eq_ok {draft : OperandDraft} {depth visited after : Nat}
    {term : Term} :
    draft.check depth visited = .ok (term, after) ↔
      draft.Lowers term ∧ Admits (draft.nodes depth) visited after := by
  induction draft generalizing depth visited after term with
  | predicate name =>
      simp only [check, bind_eq_ok, orError_eq_ok, pure_eq_ok, Prod.mk.injEq, nodes,
        Admits.singleton_iff]
      constructor
      · rintro ⟨_, visited, asked, known, kind, rfl⟩
        exact ⟨.predicate known kind.symm, visited,
          Predicate.exists_ofName?.mp ⟨asked, known⟩⟩
      · rintro ⟨lowers, visited, _⟩
        cases lowers with
        | predicate known kind => exact ⟨_, visited, _, known, kind.symm, rfl⟩
  | number value =>
      simp only [check, bind_eq_ok, nodes, Admits.singleton_iff]
      constructor
      · rintro ⟨_, visited, accepted⟩
        split at accepted
        · rename_i finite
          simp only [pure_eq_ok, Prod.mk.injEq] at accepted
          rcases accepted with ⟨rfl, rfl⟩
          exact ⟨.number, visited, finite⟩
        · cases accepted
      · rintro ⟨lowers, visited, finite⟩
        cases lowers with
        | number =>
            have finite : value.isFinite = true := finite
            exact ⟨_, visited, by rw [if_pos finite]; rfl⟩
  | move name =>
      simp only [check, bind_eq_ok, orError_eq_ok, pure_eq_ok, Prod.mk.injEq, nodes,
        Admits.singleton_iff]
      constructor
      · rintro ⟨_, visited, meant, known, rfl, rfl⟩
        exact ⟨.move known, visited, Move.exists_ofName?.mp ⟨meant, known⟩⟩
      · rintro ⟨lowers, visited, _⟩
        cases lowers with
        | move known => exact ⟨_, visited, _, known, rfl, rfl⟩
  | arithmetic name left right leftInduction rightInduction =>
      simp only [check, bind_eq_ok, orError_eq_ok, combine_eq_ok, pure_eq_ok, Prod.mk.injEq,
        Prod.exists, nodes, leftInduction, rightInduction, Admits.cons_iff, Admits.append_iff]
      constructor
      · rintro ⟨_, visited, operator, known, _, _, ⟨leftLowers, leftAdmits⟩, _, _,
          ⟨rightLowers, rightAdmits⟩, _, ⟨leftTerm, rightTerm, rfl, rfl, divisor, rfl⟩, rfl, rfl⟩
        refine ⟨.arithmetic known leftLowers rightLowers, _, ⟨visited, ?_⟩, _, leftAdmits,
          rightAdmits⟩
        refine ⟨Arithmetic.exists_ofName?.mp ⟨operator, known⟩, leftLowers.type?_eq,
          rightLowers.type?_eq, ?_⟩
        intro modulo zero
        rw [← Arithmetic.ofName?_modulo, known, Option.some.injEq] at modulo
        exact divisor ⟨modulo, rightLowers.isZeroLiteral_iff.mpr zero⟩
      · rintro ⟨lowers, _, ⟨visited, sound⟩, _, leftAdmits, rightAdmits⟩
        cases lowers with
        | arithmetic known leftLowers rightLowers =>
            refine ⟨_, visited, _, known, _, _, ⟨leftLowers, leftAdmits⟩, _, _,
              ⟨rightLowers, rightAdmits⟩, _, ⟨_, _, rfl, rfl, ?_, rfl⟩, rfl, rfl⟩
            rintro ⟨rfl, zero⟩
            exact sound.2.2.2 (Arithmetic.ofName?_modulo.mp known)
              (rightLowers.isZeroLiteral_iff.mp zero)

/-! ## Conditions -/

theorem ConditionDraft.Lowers.isSound_comparison {left right : OperandDraft} {name : String}
    {condition : Condition} (lowers : (comparison left name right).Lowers condition) :
    (comparison left name right).IsSound := by
  cases lowers with
  | numbers known leftLowers rightLowers =>
      have leftType : left.type? = some .number := leftLowers.type?_eq
      have rightType : right.type? = some .number := rightLowers.type?_eq
      refine ⟨Comparison.exists_ofName?.mp ⟨_, known⟩, leftType.trans rightType.symm, ?_⟩
      intro onMoves
      rw [leftType] at onMoves
      cases onMoves
  | moves known leftLowers rightLowers =>
      have leftType : left.type? = some .move := leftLowers.type?_eq
      have rightType : right.type? = some .move := rightLowers.type?_eq
      exact ⟨Comparison.exists_ofName?.mp ⟨_, known⟩, leftType.trans rightType.symm,
        fun _ => Comparison.exists_ofName?_moves.mp ⟨_, known⟩⟩

theorem ConditionDraft.lowers_of_compareTerms {left right : OperandDraft} {name : String}
    {comparison : Comparison} {leftTerm rightTerm : Term} {condition : Condition}
    (known : Comparison.ofName? name = some comparison) (leftLowers : left.Lowers leftTerm)
    (rightLowers : right.Lowers rightTerm)
    (compared : compareTerms comparison leftTerm rightTerm = .ok condition) :
    (ConditionDraft.comparison left name right).Lowers condition := by
  rcases compareTerms_eq_ok.mp compared with
    ⟨_, _, rfl, rfl, rfl⟩ | ⟨_, _, equal, rfl, rfl, rfl, rfl⟩
  · exact .numbers known leftLowers rightLowers
  · exact .moves known leftLowers rightLowers

theorem ConditionDraft.Lowers.exists_compareTerms {left right : OperandDraft} {name : String}
    {condition : Condition} (lowers : (comparison left name right).Lowers condition) :
    ∃ comparison leftTerm rightTerm, Comparison.ofName? name = some comparison ∧
      left.Lowers leftTerm ∧ right.Lowers rightTerm ∧
      compareTerms comparison leftTerm rightTerm = .ok condition := by
  cases lowers with
  | numbers known leftLowers rightLowers =>
      exact ⟨_, _, _, known, leftLowers, rightLowers, rfl⟩
  | moves known leftLowers rightLowers =>
      rename_i equal _ _
      exact ⟨_, _, _, known, leftLowers, rightLowers, by cases equal <;> rfl⟩

mutual

theorem ConditionDraft.check_eq_ok : ∀ {draft : ConditionDraft} {depth visited after : Nat}
    {condition : Condition},
    draft.check depth visited = .ok (condition, after) ↔
      draft.Lowers condition ∧ Admits (draft.nodes depth) visited after
  | .all parts, _, _, _, _ => by
      simp only [ConditionDraft.check, bind_eq_ok, requireParts_eq_ok, pure_eq_ok,
        Prod.mk.injEq, Prod.exists, ConditionDraft.nodes, ConditionDraft.checkParts_eq_ok,
        Admits.cons_iff]
      constructor
      · rintro ⟨_, visited, _, nonempty, _, _, ⟨lower, admits⟩, rfl, rfl⟩
        exact ⟨.all lower, _, ⟨visited, nonempty⟩, admits⟩
      · rintro ⟨lowers, _, ⟨visited, nonempty⟩, admits⟩
        cases lowers with
        | all lower => exact ⟨_, visited, (), nonempty, _, _, ⟨lower, admits⟩, rfl, rfl⟩
  | .any parts, _, _, _, _ => by
      simp only [ConditionDraft.check, bind_eq_ok, requireParts_eq_ok, pure_eq_ok,
        Prod.mk.injEq, Prod.exists, ConditionDraft.nodes, ConditionDraft.checkParts_eq_ok,
        Admits.cons_iff]
      constructor
      · rintro ⟨_, visited, _, nonempty, _, _, ⟨lower, admits⟩, rfl, rfl⟩
        exact ⟨.any lower, _, ⟨visited, nonempty⟩, admits⟩
      · rintro ⟨lowers, _, ⟨visited, nonempty⟩, admits⟩
        cases lowers with
        | any lower => exact ⟨_, visited, (), nonempty, _, _, ⟨lower, admits⟩, rfl, rfl⟩
  | .negation inner, _, _, _, _ => by
      simp only [ConditionDraft.check, bind_eq_ok, pure_eq_ok, Prod.mk.injEq, Prod.exists,
        ConditionDraft.nodes, @ConditionDraft.check_eq_ok inner, Admits.cons_iff]
      constructor
      · rintro ⟨_, visited, _, _, ⟨lowers, admits⟩, rfl, rfl⟩
        exact ⟨.negation lowers, _, ⟨visited, trivial⟩, admits⟩
      · rintro ⟨lowers, _, ⟨visited, _⟩, admits⟩
        cases lowers with
        | negation lowers => exact ⟨_, visited, _, _, ⟨lowers, admits⟩, rfl, rfl⟩
  | .comparison left name right, _, _, _, _ => by
      simp only [ConditionDraft.check, bind_eq_ok, orError_eq_ok, pure_eq_ok, Prod.mk.injEq,
        Prod.exists, ConditionDraft.nodes, OperandDraft.check_eq_ok, Admits.cons_iff,
        Admits.append_iff]
      constructor
      · rintro ⟨_, visited, comparison, known, _, _, ⟨leftLowers, leftAdmits⟩, _, _,
          ⟨rightLowers, rightAdmits⟩, _, compared, rfl, rfl⟩
        have lowers := ConditionDraft.lowers_of_compareTerms known leftLowers rightLowers compared
        exact ⟨lowers, _, ⟨visited, lowers.isSound_comparison⟩, _, leftAdmits, rightAdmits⟩
      · rintro ⟨lowers, _, ⟨visited, _⟩, _, leftAdmits, rightAdmits⟩
        rcases lowers.exists_compareTerms with
          ⟨comparison, leftTerm, rightTerm, known, leftLowers, rightLowers, compared⟩
        exact ⟨_, visited, comparison, known, leftTerm, _, ⟨leftLowers, leftAdmits⟩, rightTerm,
          _, ⟨rightLowers, rightAdmits⟩, _, compared, rfl, rfl⟩

theorem ConditionDraft.checkParts_eq_ok : ∀ {drafts : List ConditionDraft}
    {depth visited after : Nat} {conditions : List Condition},
    ConditionDraft.checkParts depth visited drafts = .ok (conditions, after) ↔
      ConditionDraft.PartsLower drafts conditions ∧
        Admits (ConditionDraft.partNodes depth drafts) visited after
  | [], _, _, _, _ => by
      simp only [ConditionDraft.checkParts, pure_eq_ok, Prod.mk.injEq,
        ConditionDraft.partNodes, Admits.nil_iff]
      constructor
      · rintro ⟨rfl, rfl⟩
        exact ⟨.nil, rfl⟩
      · rintro ⟨lower, rfl⟩
        cases lower with
        | nil => exact ⟨rfl, rfl⟩
  | draft :: drafts, _, _, _, _ => by
      simp only [ConditionDraft.checkParts, bind_eq_ok, pure_eq_ok, Prod.mk.injEq, Prod.exists,
        ConditionDraft.partNodes, @ConditionDraft.check_eq_ok draft,
        @ConditionDraft.checkParts_eq_ok drafts, Admits.append_iff]
      constructor
      · rintro ⟨_, _, ⟨lowers, admits⟩, _, _, ⟨lower, restAdmits⟩, rfl, rfl⟩
        exact ⟨.cons lowers lower, _, admits, restAdmits⟩
      · rintro ⟨lower, _, admits, restAdmits⟩
        cases lower with
        | cons lowers lower =>
            exact ⟨_, _, ⟨lowers, admits⟩, _, _, ⟨lower, restAdmits⟩, rfl, rfl⟩

end

/-! ## Whole rules -/

theorem ClauseDraft.checkAll_eq_ok {drafts : List ClauseDraft} {visited : Nat}
    {clauses : List Clause} :
    ClauseDraft.checkAll visited drafts = .ok clauses ↔
      ClauseDraft.AllLower drafts clauses ∧
        ∃ after, Admits (drafts.flatMap (·.condition.nodes 1)) visited after := by
  induction drafts generalizing visited clauses with
  | nil =>
      simp only [checkAll, pure_eq_ok, List.flatMap_nil, Admits.nil_iff, exists_eq]
      constructor
      · rintro rfl
        exact ⟨.nil, trivial⟩
      · rintro ⟨lower, _⟩
        cases lower with
        | nil => rfl
  | cons draft drafts induction =>
      simp only [checkAll, checkAction, bind_eq_ok, orError_eq_ok, pure_eq_ok, Prod.exists,
        ConditionDraft.check_eq_ok, induction, List.flatMap_cons, Admits.append_iff]
      constructor
      · rintro ⟨condition, middle, ⟨lowers, admits⟩, action, known, rest,
          ⟨lower, after, restAdmits⟩, rfl⟩
        exact ⟨.cons lowers known lower, after, middle, admits, restAdmits⟩
      · rintro ⟨lower, after, middle, admits, restAdmits⟩
        cases lower with
        | cons lowers known lower =>
            exact ⟨_, middle, ⟨lowers, admits⟩, _, known, _, ⟨lower, after, restAdmits⟩, rfl⟩

theorem RuleDraft.check_eq_ok {draft : RuleDraft} {seed : UInt64} {rule : Rule} :
    draft.check seed = .ok rule ↔
      draft.clauses.length ≤ Rule.maxClauses ∧ (∃ after, Admits draft.nodes 0 after) ∧
        draft.Lowers rule ∧ rule.seed = seed := by
  unfold check
  by_cases tooMany : Rule.maxClauses < draft.clauses.length
  · rw [if_pos tooMany]
    constructor
    · intro accepted
      cases accepted
    · rintro ⟨few, _⟩
      omega
  · simp only [if_neg tooMany, checkAction, bind_eq_ok, orError_eq_ok, pure_eq_ok,
      ClauseDraft.checkAll_eq_ok]
    constructor
    · rintro ⟨clauses, ⟨lower, admits⟩, otherwise, known, rfl⟩
      exact ⟨by omega, admits, ⟨lower, known⟩, rfl⟩
    · rintro ⟨_, admits, lowers, rfl⟩
      exact ⟨_, ⟨lowers.clauses, admits⟩, _, lowers.otherwise, rfl⟩

theorem ClauseDraft.AllLower.length_eq {drafts : List ClauseDraft} {clauses : List Clause}
    (lower : ClauseDraft.AllLower drafts clauses) : clauses.length = drafts.length := by
  induction lower with
  | nil => rfl
  | cons condition action rest induction => simp only [List.length_cons, induction]

theorem ClauseDraft.AllLower.action_mem {drafts : List ClauseDraft} {clauses : List Clause}
    (lower : ClauseDraft.AllLower drafts clauses) :
    ∀ draft ∈ drafts, draft.action ∈ Action.names := by
  induction lower with
  | nil => simp
  | cons condition action rest induction =>
      intro draft member
      rcases List.mem_cons.mp member with rfl | member
      · exact Action.exists_ofName?.mp ⟨_, action⟩
      · exact induction draft member

theorem ClauseDraft.exists_allLower {drafts : List ClauseDraft}
    (sound : ∀ node ∈ drafts.flatMap (·.condition.nodes 1), node.2.IsSound)
    (actions : ∀ draft ∈ drafts, draft.action ∈ Action.names) :
    ∃ clauses, ClauseDraft.AllLower drafts clauses := by
  induction drafts with
  | nil => exact ⟨[], .nil⟩
  | cons draft drafts induction =>
      rw [List.flatMap_cons] at sound
      rcases ConditionDraft.exists_lowers draft.condition fun node member =>
        sound node (List.mem_append_left _ member) with ⟨condition, lowers⟩
      rcases Action.exists_ofName?.mpr (actions draft (.head _)) with ⟨action, known⟩
      rcases induction (fun node member => sound node (List.mem_append_right _ member))
        (fun other member => actions other (.tail _ member)) with ⟨clauses, lower⟩
      exact ⟨⟨condition, action⟩ :: clauses, .cons lowers known lower⟩

/-! ## Size -/

def NumberTerm.size : NumberTerm → Nat
  | measure _ => 1
  | literal _ => 1
  | arithmetic _ left right => 1 + (left.size + right.size)

def Term.size : Term → Nat
  | number term => term.size
  | move _ => 1

mutual

def Condition.size : Condition → Nat
  | .all parts => 1 + Condition.partsSize parts
  | .any parts => 1 + Condition.partsSize parts
  | .negation inner => 1 + inner.size
  | .numbers left _ right => 1 + (left.size + right.size)
  | .moves _ _ _ => 1 + (1 + 1)

def Condition.partsSize : List Condition → Nat
  | [] => 0
  | part :: rest => part.size + Condition.partsSize rest

end

/-- How many conditions and terms a rule is made of. -/
def Rule.size (rule : Rule) : Nat :=
  rule.clauses.foldr (fun clause size => clause.condition.size + size) 0

theorem OperandDraft.Lowers.size_eq {draft : OperandDraft} {term : Term}
    (lowers : draft.Lowers term) (depth : Nat) : term.size = (draft.nodes depth).length := by
  induction lowers generalizing depth with
  | predicate known kind =>
      rename_i asked _
      subst kind
      cases asked <;> rfl
  | number => rfl
  | move known => rfl
  | arithmetic known left right leftInduction rightInduction =>
      have leftSize := leftInduction (depth + 1)
      have rightSize := rightInduction (depth + 1)
      simp only [Term.size, NumberTerm.size, nodes, List.length_cons, List.length_append] at *
      omega

mutual

theorem ConditionDraft.Lowers.size_eq : ∀ {draft : ConditionDraft} {condition : Condition}
    (_ : draft.Lowers condition) (depth : Nat), condition.size = (draft.nodes depth).length
  | _, _, .all parts, depth => by
      have size := ConditionDraft.PartsLower.size_eq parts (depth + 1)
      simp only [Condition.size, ConditionDraft.nodes, List.length_cons]
      omega
  | _, _, .any parts, depth => by
      have size := ConditionDraft.PartsLower.size_eq parts (depth + 1)
      simp only [Condition.size, ConditionDraft.nodes, List.length_cons]
      omega
  | _, _, .negation inner, depth => by
      have size := ConditionDraft.Lowers.size_eq inner (depth + 1)
      simp only [Condition.size, ConditionDraft.nodes, List.length_cons]
      omega
  | _, _, .numbers _ left right, depth => by
      have leftSize := left.size_eq (depth + 1)
      have rightSize := right.size_eq (depth + 1)
      simp only [Term.size, Condition.size, ConditionDraft.nodes, List.length_cons,
        List.length_append] at *
      omega
  | _, _, .moves _ left right, depth => by
      have leftSize := left.size_eq (depth + 1)
      have rightSize := right.size_eq (depth + 1)
      simp only [Term.size, Condition.size, ConditionDraft.nodes, List.length_cons,
        List.length_append] at *
      omega

theorem ConditionDraft.PartsLower.size_eq : ∀ {drafts : List ConditionDraft}
    {conditions : List Condition} (_ : ConditionDraft.PartsLower drafts conditions)
    (depth : Nat),
    Condition.partsSize conditions = (ConditionDraft.partNodes depth drafts).length
  | _, _, .nil, _ => rfl
  | _, _, .cons part rest, depth => by
      rw [Condition.partsSize, ConditionDraft.partNodes, List.length_append,
        ConditionDraft.Lowers.size_eq part depth, ConditionDraft.PartsLower.size_eq rest depth]

end

theorem ClauseDraft.AllLower.size_eq {drafts : List ClauseDraft} {clauses : List Clause}
    (lower : ClauseDraft.AllLower drafts clauses) :
    clauses.foldr (fun clause size => clause.condition.size + size) 0 =
      (drafts.flatMap (·.condition.nodes 1)).length := by
  induction lower with
  | nil => rfl
  | cons condition action rest induction =>
      rw [List.foldr_cons, List.flatMap_cons, List.length_append, induction,
        condition.size_eq 1]

theorem RuleDraft.Lowers.size_eq {draft : RuleDraft} {rule : Rule}
    (lowers : draft.Lowers rule) : rule.size = draft.nodes.length :=
  lowers.clauses.size_eq

/-! ## What is accepted -/

theorem RuleDraft.exists_check_eq_ok_iff {draft : RuleDraft} {seed : UInt64} :
    (∃ rule, draft.check seed = .ok rule) ↔ draft.Safe := by
  simp only [check_eq_ok]
  constructor
  · rintro ⟨rule, few, ⟨after, admits⟩, lowers, _⟩
    refine ⟨few, ?_, fun node member => (admits.fits node member).1,
      fun node member => (admits.fits node member).2, lowers.clauses.action_mem,
      Action.exists_ofName?.mp ⟨_, lowers.otherwise⟩⟩
    have counted := admits.counted
    by_cases empty : draft.nodes = []
    · simp [empty]
    · have within : after ≤ 64 := admits.within empty
      omega
  · intro safe
    rcases ClauseDraft.exists_allLower safe.sound safe.actions with ⟨clauses, lower⟩
    rcases Action.exists_ofName?.mpr safe.otherwise with ⟨otherwise, known⟩
    refine ⟨⟨clauses, otherwise, seed⟩, safe.clauses, ⟨draft.nodes.length, ?_⟩,
      ⟨lower, known⟩, rfl⟩
    exact ⟨fun node member => ⟨safe.depth node member, safe.sound node member⟩, by omega,
      fun _ => safe.size⟩

/-- Exactly the safe drafts become rules, node by node. -/
theorem RuleDraft.check_accepts_exactly_safe (draft : RuleDraft) (seed : UInt64) :
    ((∃ rule, draft.check seed = .ok rule) ↔ draft.Safe) ∧
      ∀ rule, draft.check seed = .ok rule →
        rule.clauses.length = draft.clauses.length ∧ rule.size = draft.nodes.length ∧
          draft.Lowers rule := by
  refine ⟨exists_check_eq_ok_iff, ?_⟩
  intro rule accepted
  rcases check_eq_ok.mp accepted with ⟨_, _, lowers, _⟩
  exact ⟨lowers.clauses.length_eq, lowers.size_eq, lowers⟩

theorem RuleDraft.check_accepts_retaliation :
    let draft : RuleDraft :=
      ⟨[⟨.any [.comparison (.predicate "opponent_last_move") "==" (.move "defect"),
        .comparison (.arithmetic "%" (.predicate "round_index") (.number (Binary64.ofNat 3)))
          "lt" (.number (Binary64.ofNat 1))], "defect"⟩], "random"⟩
    ∃ rule, draft.check 7 = .ok rule ∧ draft.Safe ∧ rule.clauses.length = 1 ∧
      rule.size = 9 := by
  intro draft
  have succeeds : (draft.check 7).toOption.isSome = true := by decide +kernel
  rcases accepted : draft.check 7 with error | rule
  · rw [accepted] at succeeds
    cases succeeds
  have facts := (check_accepts_exactly_safe draft 7).2 rule accepted
  exact ⟨rule, rfl, (check_accepts_exactly_safe draft 7).1.mp ⟨rule, accepted⟩, facts.1,
    facts.2.1⟩

end Dilemma
