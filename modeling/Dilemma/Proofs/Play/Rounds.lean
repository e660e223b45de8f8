import Dilemma.Play.Match

/-! # The rounds of a match

A round depends on the rounds before it and on nothing else, so a longer match
begins with the shorter one, and the round with a given index is the one played
on the match up to it. -/

namespace Dilemma

namespace Round

theorem round_play (payoff : Payoff) (a b : Competitor) (movesA movesB : List Move)
    (round : UInt32) : (play payoff a b movesA movesB round).round = round := rfl

/-- Whatever the moves came from, the table decides their scores. -/
theorem scores_play (payoff : Payoff) (a b : Competitor) (movesA movesB : List Move)
    (number : UInt32) :
    let round := play payoff a b movesA movesB number
    round.scoreA = payoff.score round.moveA round.moveB ∧
      round.scoreB = payoff.score round.moveB round.moveA :=
  ⟨rfl, rfl⟩

end Round

namespace Match

theorem getElem?_playRounds (payoff : Payoff) (a b : Competitor) {count index : Nat}
    (within : index < count) :
    (playRounds payoff a b count)[index]? =
      some (Round.play payoff a b (moves .a (playRounds payoff a b index))
        (moves .b (playRounds payoff a b index)) (UInt32.ofNat index)) := by
  induction count with
  | zero => omega
  | succ count induction =>
      rw [playRounds]
      rcases Nat.lt_succ_iff_lt_or_eq.mp within with earlier | rfl
      · have reached := length_playRounds payoff a b count
        rw [List.getElem?_append_left (Nat.lt_of_lt_of_eq earlier reached.symm)]
        exact induction earlier
      · have reached := length_playRounds payoff a b index
        rw [List.getElem?_append_right (Nat.le_of_eq reached), reached, Nat.sub_self]
        rfl

theorem moves_append (seat : Seat) (earlier later : List Round) :
    moves seat (earlier ++ later) = moves seat earlier ++ moves seat later :=
  List.map_append

theorem lt_of_found {payoff : Payoff} {a b : Competitor} {rounds : UInt32} {number : Nat}
    {round : Round} (found : (play payoff a b rounds).rounds[number]? = some round) :
    number < rounds.toNat := by
  rcases List.getElem?_eq_some_iff.mp found with ⟨within, _⟩
  exact Nat.lt_of_lt_of_eq within (roundCount_play payoff a b rounds)

/-- No round is missing. -/
theorem exists_round (payoff : Payoff) (a b : Competitor) {rounds : UInt32} {number : Nat}
    (within : number < rounds.toNat) :
    ∃ round, (play payoff a b rounds).rounds[number]? = some round :=
  ⟨_, List.getElem?_eq_getElem
    (Nat.lt_of_lt_of_eq within (roundCount_play payoff a b rounds).symm)⟩

/-- Players that choose alike before a round have played alike up to it. -/
theorem playRounds_of_choose {a b a' b' : Competitor} {number : Nat}
    (first : ∀ situation : Situation, situation.round.toNat < number →
      Round.choose a .a situation = Round.choose a' .a situation)
    (second : ∀ situation : Situation, situation.round.toNat < number →
      Round.choose b .b situation = Round.choose b' .b situation)
    (payoff : Payoff) {count : Nat} (early : count ≤ number) :
    playRounds payoff a b count = playRounds payoff a' b' count := by
  induction count with
  | zero => rfl
  | succ count induction =>
      have before : (UInt32.ofNat count).toNat < number := by
        rw [UInt32.toNat_ofNat']
        exact Nat.lt_of_le_of_lt (Nat.mod_le ..) early
      rw [playRounds, playRounds, induction (Nat.le_of_succ_le early), Round.play, Round.play,
        first _ before, second _ before]

/-! ## Complete matches -/

/-- Every round is there, carries its index, and is scored by the table. -/
structure Complete (payoff : Payoff) (rounds : UInt32) (game : Match) : Prop where
  length : game.rounds.length = rounds.toNat
  numbered : ∀ (index : Nat) (round : Round), game.rounds[index]? = some round →
    round.round.toNat = index
  scored : ∀ round ∈ game.rounds,
    round.scoreA = payoff.score round.moveA round.moveB ∧
      round.scoreB = payoff.score round.moveB round.moveA

/-- A failed decision takes no round away. -/
theorem complete_play (payoff : Payoff) (a b : Competitor) (rounds : UInt32) :
    (play payoff a b rounds).Complete payoff rounds := by
  have known : ∀ (index : Nat) (round : Round),
      (play payoff a b rounds).rounds[index]? = some round →
        index < rounds.toNat ∧ ∃ movesA movesB,
          round = Round.play payoff a b movesA movesB (UInt32.ofNat index) := by
    intro index round found
    have within := lt_of_found found
    rw [play, getElem?_playRounds payoff a b within, Option.some.injEq] at found
    exact ⟨within, _, _, found.symm⟩
  refine ⟨roundCount_play payoff a b rounds, ?_, ?_⟩
  · intro index round found
    rcases known index round found with ⟨within, movesA, movesB, rfl⟩
    rw [Round.round_play]
    exact UInt32.toNat_ofNat_of_lt' (Nat.lt_trans within rounds.toNat_lt)
  · intro round member
    rcases List.mem_iff_getElem?.mp member with ⟨index, found⟩
    rcases known index round found with ⟨_, movesA, movesB, rfl⟩
    exact Round.scores_play payoff a b movesA movesB (UInt32.ofNat index)

end Match

end Dilemma
