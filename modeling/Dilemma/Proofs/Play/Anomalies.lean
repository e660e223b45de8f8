import Dilemma.Proofs.Play.Accounts
import Dilemma.Proofs.Play.Exchange
import Dilemma.Proofs.Rule.Meaning

/-! # Anomalies of a match

Every note about a failed decision comes from a decision that failed, and every decision that
failed has left one note. So whoever cannot fail is never noted, and a rule is noted for
nothing but a remainder by zero. -/

namespace Dilemma

/-- No move was named. -/
def Decision.Fails (decision : Decision) : Prop :=
  (∃ error, decision = .fails error) ∨ ∃ message, decision = .crashes message

theorem Decision.fails_iff (decision : Decision) :
    decision.Fails ↔ ∃ error, decision.toExcept = .error error := by
  cases decision with
  | plays move => simp [Fails, toExcept]
  | fails error => exact ⟨fun _ => ⟨error, rfl⟩, fun _ => .inl ⟨error, rfl⟩⟩
  | crashes message => exact ⟨fun _ => ⟨_, rfl⟩, fun _ => .inr ⟨message, rfl⟩⟩

namespace Round

/-- What a round says about a seat whose decision in it was this one. -/
structure Notes (round : Round) (number : Nat) (seat : Seat) (player : String)
    (decision : Decision) : Prop where
  noted : (∃ anomaly ∈ round.anomalies, anomaly.seat = seat) ↔ decision.Fails
  /-- There is one note then, and the round counts as a defection. -/
  failed : ∀ error, decision.toExcept = .error error →
    round.move seat = .defect ∧ ∃ anomaly, round.anomaliesOf seat = [anomaly] ∧
      anomaly.round.toNat = number ∧ anomaly.strategy = player ∧ anomaly.message = error.message
  played : ∀ move, decision = .plays move → round.move seat = move

theorem exists_noted_iff (round : Round) (seat : Seat) :
    (∃ anomaly ∈ round.anomalies, anomaly.seat = seat) ↔ round.anomaliesOf seat ≠ [] := by
  simp [anomaliesOf]

end Round

namespace Match

variable {payoff : Payoff} {a b : Competitor} {rounds : UInt32} {seat : Seat}

theorem name_seated (payoff : Payoff) (a b : Competitor) (rounds : UInt32) (seat : Seat) :
    (seated a b seat).name = (play payoff a b rounds).player seat := by
  cases seat <;> rfl

theorem round_shown (payoff : Payoff) (a b : Competitor) (seat : Seat) (number : Nat) :
    (shown payoff a b seat number).round = UInt32.ofNat number := by
  rw [shown_eq]

/-! ## Notes on a round -/

theorem notes_round {number : Nat} {round : Round}
    (found : (play payoff a b rounds).rounds[number]? = some round) (seat : Seat) :
    round.Notes number seat ((play payoff a b rounds).player seat)
      ((seated a b seat).decide (shown payoff a b seat number)) := by
  have within := (play_shown payoff a b found).1
  have numbered : (UInt32.ofNat number).toNat = number :=
    UInt32.toNat_ofNat_of_lt' (Nat.lt_trans within rounds.toNat_lt)
  rcases choose_shown payoff a b found seat with ⟨move, noted⟩
  rw [Round.choose] at move noted
  constructor
  case noted =>
    rw [Round.exists_noted_iff, noted, Decision.fails_iff]
    cases ((seated a b seat).decide (shown payoff a b seat number)).toExcept with
    | ok move =>
        refine ⟨fun some => absurd rfl some, ?_⟩
        rintro ⟨error, fails⟩
        cases fails
    | error error => exact ⟨fun _ => ⟨error, rfl⟩, fun _ => List.cons_ne_nil _ _⟩
  case failed =>
    intro error fails
    rw [fails] at move noted
    refine ⟨move, _, noted, ?_, name_seated payoff a b rounds seat, rfl⟩
    rw [round_shown, numbered]
  case played =>
    intro named plays
    rw [plays] at move
    exact move

/-- A seat decides on what it is shown, whatever the other side does in the same round. -/
theorem move_unmoved {a' b' : Competitor} {number : Nat} {round : Round}
    (found : (play payoff a b rounds).rounds[number]? = some round)
    (first : a.AgreeBefore number a') (second : b.AgreeBefore number b')
    (same : seated a' b' seat = seated a b seat) :
    ∃ other, (play payoff a' b' rounds).rounds[number]? = some other ∧
      other.move seat = round.move seat := by
  have within := (play_shown payoff a b found).1
  have alike : shown payoff a' b' seat number = shown payoff a b seat number := by
    rw [shown_eq, shown_eq, playRounds_agree first second payoff (Nat.le_refl number)]
  rcases exists_round payoff a' b' within with ⟨other, reached⟩
  refine ⟨other, reached, ?_⟩
  rw [(choose_shown payoff a' b' reached seat).1, (choose_shown payoff a b found seat).1, alike,
    same]

/-! ## Notes on a match -/

theorem exists_failed {anomaly : Anomaly}
    (member : anomaly ∈ (play payoff a b rounds).anomaliesOf seat) :
    ∃ number error,
      ((seated a b seat).decide (shown payoff a b seat number)).toExcept = .error error ∧
        anomaly = ⟨UInt32.ofNat number, seat, (seated a b seat).name, error.message⟩ := by
  rw [anomaliesOf_eq_flatMap] at member
  rcases List.mem_flatMap.mp member with ⟨round, among, inside⟩
  rcases List.mem_iff_getElem?.mp among with ⟨number, found⟩
  rw [(choose_shown payoff a b found seat).2, Round.choose] at inside
  cases outcome : ((seated a b seat).decide (shown payoff a b seat number)).toExcept with
  | ok move =>
      rw [outcome] at inside
      cases inside
  | error error =>
      rw [outcome, round_shown] at inside
      exact ⟨number, error, outcome, List.mem_singleton.mp inside⟩

/-- Every note is about the player in its seat. -/
def Labelled (game : Match) : Prop :=
  ∀ anomaly ∈ game.anomalies, anomaly.strategy = game.player anomaly.seat

theorem labelled_play (payoff : Payoff) (a b : Competitor) (rounds : UInt32) :
    (play payoff a b rounds).Labelled := by
  intro anomaly member
  have seatedSo : anomaly ∈ (play payoff a b rounds).anomaliesOf anomaly.seat :=
    List.mem_filter.mpr ⟨member, decide_eq_true rfl⟩
  rcases exists_failed seatedSo with ⟨number, error, _, known⟩
  rw [← name_seated payoff a b rounds anomaly.seat, known]

end Match

/-! ## The order of notes -/

/-- The first note is on an earlier round, or on the first seat of the same round. -/
def Anomaly.Before (earlier later : Anomaly) : Prop :=
  earlier.round < later.round ∨
    earlier.round = later.round ∧ earlier.seat = .a ∧ later.seat = .b

namespace Round

theorem round_of_mem_choose {competitor : Competitor} {seat : Seat} {situation : Situation}
    {anomaly : Anomaly} (member : anomaly ∈ (choose competitor seat situation).2) :
    anomaly.round = situation.round := by
  rw [choose] at member
  split at member
  · cases member
  · rw [List.mem_singleton.mp member]

theorem round_of_mem_anomalies {payoff : Payoff} {a b : Competitor} {movesA movesB : List Move}
    {number : UInt32} {anomaly : Anomaly}
    (member : anomaly ∈ (play payoff a b movesA movesB number).anomalies) :
    anomaly.round = number := by
  rcases List.mem_append.mp member with first | second
  · exact round_of_mem_choose first
  · exact round_of_mem_choose second

theorem pairwise_choose (competitor : Competitor) (seat : Seat) (situation : Situation) :
    (choose competitor seat situation).2.Pairwise Anomaly.Before := by
  rw [choose]
  split
  · exact .nil
  · exact List.pairwise_singleton ..

theorem pairwise_anomalies (payoff : Payoff) (a b : Competitor) (movesA movesB : List Move)
    (number : UInt32) :
    (play payoff a b movesA movesB number).anomalies.Pairwise Anomaly.Before := by
  refine List.pairwise_append.mpr ⟨pairwise_choose .., pairwise_choose .., ?_⟩
  intro first memberA second memberB
  have same := (round_of_mem_choose memberA).trans (round_of_mem_choose memberB).symm
  exact .inr ⟨same, seat_of_mem_choose memberA, seat_of_mem_choose memberB⟩

end Round

namespace Match

/-- A round adds its notes behind those of the rounds before it. -/
theorem pairwise_playRounds (payoff : Payoff) (a b : Competitor) {count : Nat}
    (fits : count ≤ UInt32.size) :
    ((playRounds payoff a b count).flatMap (·.anomalies)).Pairwise Anomaly.Before ∧
      ∀ anomaly ∈ (playRounds payoff a b count).flatMap (·.anomalies),
        anomaly.round.toNat < count := by
  induction count with
  | zero => exact ⟨.nil, fun _ member => by cases member⟩
  | succ count induction =>
      rcases induction (Nat.le_of_succ_le fits) with ⟨ordered, earlier⟩
      have number : (UInt32.ofNat count).toNat = count := UInt32.toNat_ofNat_of_lt' fits
      rw [playRounds, List.flatMap_append, List.flatMap_singleton]
      refine ⟨List.pairwise_append.mpr ⟨ordered, Round.pairwise_anomalies .., ?_⟩, ?_⟩
      · intro first before second added
        refine .inl (UInt32.lt_iff_toNat_lt.mpr ?_)
        rw [Round.round_of_mem_anomalies added, number]
        exact earlier first before
      · intro anomaly member
        rcases List.mem_append.mp member with before | added
        · exact Nat.lt_succ_of_lt (earlier anomaly before)
        · rw [Round.round_of_mem_anomalies added, number]
          exact Nat.lt_succ_self count

theorem pairwise_anomalies_play (payoff : Payoff) (a b : Competitor) (rounds : UInt32) :
    (play payoff a b rounds).anomalies.Pairwise Anomaly.Before :=
  (pairwise_playRounds payoff a b (Nat.le_of_lt rounds.toNat_lt)).1

end Match

/-! ## Players that never fail -/

namespace Competitor

def NeverFails (competitor : Competitor) : Prop :=
  ∀ situation, ∃ move, competitor.decide situation = .plays move

/-- No match has a note about it, from whichever seat it plays. -/
def Flawless (competitor : Competitor) : Prop :=
  ∀ (opponent : Competitor) (payoff : Payoff) (rounds : UInt32),
    (Match.play payoff competitor opponent rounds).anomaliesOf .a = [] ∧
      (Match.play payoff opponent competitor rounds).anomaliesOf .b = []

theorem NeverFails.anomaliesOf_play {payoff : Payoff} {a b : Competitor} {seat : Seat}
    (steady : (Match.seated a b seat).NeverFails) (rounds : UInt32) :
    (Match.play payoff a b rounds).anomaliesOf seat = [] := by
  refine List.eq_nil_iff_forall_not_mem.mpr fun anomaly member => ?_
  rcases Match.exists_failed member with ⟨number, error, fails, _⟩
  rcases steady (Match.shown payoff a b seat number) with ⟨move, plays⟩
  rw [plays] at fails
  cases fails

theorem NeverFails.flawless {competitor : Competitor} (steady : competitor.NeverFails) :
    competitor.Flawless := fun opponent _ rounds =>
  ⟨anomaliesOf_play (show (Match.seated competitor opponent .a).NeverFails from steady) rounds,
    anomaliesOf_play (show (Match.seated opponent competitor .b).NeverFails from steady) rounds⟩

theorem neverFails_of_template {competitor : Competitor} {template : Template} {seed : UInt64}
    (logic : competitor.logic = .template template seed) : competitor.NeverFails :=
  fun situation => ⟨template.play seed situation, decide_of_template logic situation⟩

end Competitor

/-! ## Players with a rule -/

/-- No remainder is taken anywhere. -/
def RuleDraft.WithoutModulo (draft : RuleDraft) : Prop :=
  ∀ node ∈ draft.nodes, ∀ name left right,
    node.2 = .operand (.arithmetic name left right) → name ∉ Arithmetic.moduloNames

/-- The note tells of a remainder by zero somewhere in the draft. -/
def RuleDraft.Blames (draft : RuleDraft) (anomaly : Anomaly) : Prop :=
  ∃ node ∈ draft.nodes, ∃ name left right,
    node.2 = .operand (.arithmetic name left right) ∧ name ∈ Arithmetic.moduloNames ∧
      anomaly.message =
        "division by zero in `" ++ (OperandDraft.arithmetic name left right).text ++ "`"

namespace Match

variable {payoff : Payoff} {a b : Competitor} {rounds : UInt32} {seat : Seat}
  {draft : RuleDraft} {seed : UInt64} {rule : Rule}

theorem blames_of_mem_anomaliesOf (accepted : draft.check seed = .ok rule)
    (logic : (seated a b seat).logic = .rule rule) {anomaly : Anomaly}
    (member : anomaly ∈ (play payoff a b rounds).anomaliesOf seat) : draft.Blames anomaly := by
  rcases exists_failed member with ⟨number, error, fails, rfl⟩
  rw [Competitor.decide_of_rule logic] at fails
  cases played : rule.play (shown payoff a b seat number) with
  | ok move =>
      rw [played] at fails
      cases fails
  | error blamed =>
      rw [played] at fails
      cases fails
      rcases RuleDraft.dividesByZero_of_play accepted played with
        ⟨depth, name, left, right, _, _, among, modulo, _, _, _, rfl⟩
      exact ⟨_, among, name, left, right, rfl, modulo, rfl⟩

theorem anomaliesOf_without_modulo (accepted : draft.check seed = .ok rule)
    (logic : (seated a b seat).logic = .rule rule) (without : draft.WithoutModulo) :
    (play payoff a b rounds).anomaliesOf seat = [] := by
  refine List.eq_nil_iff_forall_not_mem.mpr fun anomaly member => ?_
  rcases blames_of_mem_anomaliesOf accepted logic member with
    ⟨node, among, name, left, right, known, modulo, _⟩
  exact without node among name left right known modulo

end Match

end Dilemma
