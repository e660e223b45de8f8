import Dilemma.Proofs.Play.Namelessness
import Dilemma.Proofs.Play.Rounds

/-! # The course of a match

While a match is played, three lists grow: the moves of the two sides and the record. The
moves can be read off the record, so the record alone tells what every decision was made on.
Whatever is decided later changes nothing in the rounds before it. -/

namespace Dilemma

namespace Match

/-- Who sits in a seat. -/
def seated (a b : Competitor) : Seat → Competitor
  | .a => a
  | .b => b

/-- The match as it was before the round with this number. -/
def before (game : Match) (number : Nat) : Match :=
  { game with rounds := game.rounds.take number }

end Match

/-- How far a match has come. -/
structure Course where
  movesA : List Move
  movesB : List Move
  record : List Round

namespace Course

def start : Course := ⟨[], [], []⟩

/-- What a seat is shown before it decides. -/
def situation (course : Course) (payoff : Payoff) (number : UInt32) : Seat → Situation
  | .a => ⟨course.movesA, course.movesB, number, payoff⟩
  | .b => ⟨course.movesB, course.movesA, number, payoff⟩

/-- Play the round with this number. -/
def step (payoff : Payoff) (a b : Competitor) (course : Course) (number : Nat) : Course :=
  let round := Round.play payoff a b course.movesA course.movesB (UInt32.ofNat number)
  ⟨course.movesA ++ [round.moveA], course.movesB ++ [round.moveB], course.record ++ [round]⟩

def run (payoff : Payoff) (a b : Competitor) (rounds : Nat) : Course :=
  (List.range rounds).foldl (step payoff a b) start

theorem run_succ (payoff : Payoff) (a b : Competitor) (rounds : Nat) :
    run payoff a b (rounds + 1) = step payoff a b (run payoff a b rounds) rounds := by
  rw [run, List.range_succ, List.foldl_append]
  rfl

/-- The lists of moves hold what the record says. -/
structure Recorded (course : Course) : Prop where
  movesA : course.movesA = Match.moves .a course.record
  movesB : course.movesB = Match.moves .b course.record

theorem Recorded.step {course : Course} (recorded : course.Recorded) (payoff : Payoff)
    (a b : Competitor) (number : Nat) : (course.step payoff a b number).Recorded := by
  constructor
  · rw [Course.step, recorded.movesA, Match.moves, Match.moves, List.map_append]
    rfl
  · rw [Course.step, recorded.movesB, Match.moves, Match.moves, List.map_append]
    rfl

theorem recorded_run (payoff : Payoff) (a b : Competitor) (rounds : Nat) :
    (run payoff a b rounds).Recorded := by
  induction rounds with
  | zero => exact ⟨rfl, rfl⟩
  | succ rounds induction =>
      rw [run_succ]
      exact induction.step payoff a b rounds

/-- The record is the match. -/
theorem record_run (payoff : Payoff) (a b : Competitor) (rounds : Nat) :
    (run payoff a b rounds).record = Match.playRounds payoff a b rounds := by
  induction rounds with
  | zero => rfl
  | succ rounds induction =>
      have recorded := recorded_run payoff a b rounds
      rw [run_succ, step, recorded.movesA, recorded.movesB, induction, Match.playRounds]

end Course

namespace Match

/-! ## Shorter matches -/

theorem take_playRounds (payoff : Payoff) (a b : Competitor) {shorter longer : Nat}
    (within : shorter ≤ longer) :
    (playRounds payoff a b longer).take shorter = playRounds payoff a b shorter := by
  induction longer with
  | zero =>
      rw [Nat.le_zero.mp within]
      rfl
  | succ longer induction =>
      rcases Nat.le_succ_iff.mp within with earlier | rfl
      · have reached := length_playRounds payoff a b longer
        rw [playRounds, List.take_append_of_le_length (by rw [reached]; exact earlier)]
        exact induction earlier
      · exact List.take_of_length_le (Nat.le_of_eq (length_playRounds ..))

theorem before_play (payoff : Payoff) (a b : Competitor) {rounds : UInt32} {number : Nat}
    (within : number ≤ rounds.toNat) :
    (play payoff a b rounds).before number =
      ⟨a.name, b.name, playRounds payoff a b number⟩ :=
  congrArg (Match.mk a.name b.name) (take_playRounds payoff a b within)

/-- The round with a number is played on the moves recorded before it. -/
theorem getElem?_play (payoff : Payoff) (a b : Competitor) {rounds : UInt32} {number : Nat}
    (within : number < rounds.toNat) :
    let game := play payoff a b rounds
    game.rounds[number]? = some (Round.play payoff a b ((moves .a game.rounds).take number)
      ((moves .b game.rounds).take number) (UInt32.ofNat number)) := by
  intro game
  have earlier (seat : Seat) : (moves seat game.rounds).take number =
      moves seat (playRounds payoff a b number) := by
    rw [moves, ← List.map_take]
    exact congrArg (moves seat) (take_playRounds payoff a b (Nat.le_of_lt within))
  rw [earlier, earlier]
  exact getElem?_playRounds payoff a b within

end Match

/-! ## Later decisions -/

namespace Competitor

/-- Under one name the two decide alike in all rounds before this number. -/
structure AgreeBefore (number : Nat) (left right : Competitor) : Prop where
  name : left.name = right.name
  decide : ∀ situation, situation.round.toNat < number →
    (left.decide situation).toExcept = (right.decide situation).toExcept

theorem AgreeBefore.choose {number : Nat} {left right : Competitor}
    (agree : AgreeBefore number left right) (seat : Seat) {situation : Situation}
    (early : situation.round.toNat < number) :
    Round.choose left seat situation = Round.choose right seat situation := by
  rw [Round.choose, Round.choose, agree.decide situation early, agree.name]

end Competitor

namespace Match

open Competitor (AgreeBefore)

theorem playRounds_agree {a b a' b' : Competitor} {number count : Nat}
    (first : AgreeBefore number a a') (second : AgreeBefore number b b') (payoff : Payoff)
    (early : count ≤ number) :
    playRounds payoff a b count = playRounds payoff a' b' count :=
  playRounds_of_choose (fun _ => first.choose .a) (fun _ => second.choose .b) payoff early

theorem before_agree {a b a' b' : Competitor} {number : Nat}
    (first : AgreeBefore number a a') (second : AgreeBefore number b b') (payoff : Payoff)
    (rounds : UInt32) :
    (play payoff a b rounds).before number = (play payoff a' b' rounds).before number := by
  have records : (playRounds payoff a b rounds.toNat).take number =
      (playRounds payoff a' b' rounds.toNat).take number := by
    rcases Nat.le_total number rounds.toNat with within | beyond
    · rw [take_playRounds payoff a b within, take_playRounds payoff a' b' within]
      exact playRounds_agree first second payoff (Nat.le_refl number)
    · rw [playRounds_agree first second payoff beyond]
  rw [before, before, play, play, records, first.name, second.name]

/-- With names and logics given, nothing else about the players shows in their match. -/
theorem play_congr {a b a' b' : Competitor} (firstName : a.name = a'.name)
    (secondName : b.name = b'.name) (first : a.logic = a'.logic) (second : b.logic = b'.logic)
    (payoff : Payoff) (rounds : UInt32) : play payoff a b rounds = play payoff a' b' rounds := by
  have agreeA : AgreeBefore rounds.toNat a a' :=
    ⟨firstName, fun situation _ => by rw [Competitor.decide, Competitor.decide, first]⟩
  have agreeB : AgreeBefore rounds.toNat b b' :=
    ⟨secondName, fun situation _ => by rw [Competitor.decide, Competitor.decide, second]⟩
  rw [play, play, playRounds_agree agreeA agreeB payoff (Nat.le_refl _), firstName, secondName]

/-- Logics decide about moves and scores, whatever the players are called. -/
theorem readings_congr {a b a' b' : Competitor} (first : a.logic = a'.logic)
    (second : b.logic = b'.logic) (payoff : Payoff) (rounds : UInt32) (seat : Seat) :
    let game := play payoff a b rounds
    let other := play payoff a' b' rounds
    moves seat game.rounds = moves seat other.rounds ∧
      scores seat game.rounds = scores seat other.rounds ∧ game.total seat = other.total seat := by
  intro game other
  have same := playRounds_nameless first second payoff rounds.toNat
  have movesSame := congrArg (moves seat) same
  have scoresSame := congrArg (scores seat) same
  rw [moves_nameless, moves_nameless] at movesSame
  rw [scores_nameless, scores_nameless] at scoresSame
  exact ⟨movesSame, scoresSame, congrArg (List.foldr (· + ·) 0) scoresSame⟩

/-- A match is played round by round on its own record. So a shorter match is the beginning of
a longer one, what is decided later does not reach back, and only logics count. -/
theorem play_causal (payoff : Payoff) (a b : Competitor) (rounds : UInt32) :
    let game := play payoff a b rounds
    game.rounds = (Course.run payoff a b rounds.toNat).record ∧
      (∀ number < rounds.toNat, game.rounds[number]? =
        some (Round.play payoff a b ((moves .a game.rounds).take number)
          ((moves .b game.rounds).take number) (UInt32.ofNat number))) ∧
      (∀ fewer ≤ rounds, play payoff a b fewer = game.before fewer.toNat) ∧
      (∀ (a' b' : Competitor) (number : Nat), AgreeBefore number a a' →
        AgreeBefore number b b' → game.before number = (play payoff a' b' rounds).before number) ∧
      ∀ a' b' : Competitor, a.logic = a'.logic → b.logic = b'.logic →
        (a.name = a'.name → b.name = b'.name → game = play payoff a' b' rounds) ∧
        ∀ seat, moves seat game.rounds = moves seat (play payoff a' b' rounds).rounds ∧
          scores seat game.rounds = scores seat (play payoff a' b' rounds).rounds ∧
          game.total seat = (play payoff a' b' rounds).total seat := by
  intro game
  refine ⟨(Course.record_run payoff a b rounds.toNat).symm,
    fun number within => getElem?_play payoff a b within, ?_, ?_, ?_⟩
  · intro fewer within
    exact (before_play payoff a b (UInt32.le_iff_toNat_le.mp within)).symm
  · intro a' b' number first second
    exact before_agree first second payoff rounds
  · intro a' b' first second
    exact ⟨fun firstName secondName =>
      play_congr firstName secondName first second payoff rounds,
      readings_congr first second payoff rounds⟩

/-- Somebody who returns the moves of the other side for two rounds and then crashes is not
told apart before, and no text or reason shows in a match. -/
theorem play_causal_turncoat :
    let faithful := Competitor.ofTemplate "left" .titForTat
    let turncoat : Competitor := ⟨⟨"left", "as you like it"⟩, .fallback ⟨1, "turncoat",
      fun situation => if situation.round.toNat < 2 then
        .plays (Template.titForTat.play 0 situation) else .crashes none⟩, .fallback, some "why"⟩
    let rival := Competitor.ofTemplate "right" .alwaysDefect
    let other : Competitor := { rival with provenance := .cached, fallbackReason := some "none" }
    AgreeBefore 2 faithful turncoat ∧ AgreeBefore 2 rival other ∧
      (play .classic faithful rival 3).before 2 = (play .classic turncoat other 3).before 2 ∧
      play .classic faithful rival 2 = (play .classic faithful rival 3).before 2 ∧
      play .classic turncoat rival 3 = play .classic turncoat other 3 := by
  intro faithful turncoat rival other
  have agree : AgreeBefore 2 faithful turncoat :=
    ⟨rfl, fun situation early => by
      change _ = (if situation.round.toNat < 2 then _ else _ : Decision).toExcept
      rw [if_pos early]
      rfl⟩
  have same : AgreeBefore 2 rival other := ⟨rfl, fun _ _ => rfl⟩
  have causal := play_causal .classic faithful rival 3
  have betrayed := play_causal .classic turncoat rival 3
  exact ⟨agree, same, causal.2.2.2.1 turncoat other 2 agree same,
    causal.2.2.1 2 (by decide), (betrayed.2.2.2.2 turncoat other rfl rfl).1 rfl rfl⟩

end Match

end Dilemma
