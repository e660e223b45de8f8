import Mathlib.Data.List.Perm.Basic
import Mathlib.Data.Sym.Sym2
import Dilemma.Proofs.Play.Mirror
import Dilemma.Proofs.Tournament.Standings

/-! # Credits

A match leaves a credit to each of its two players: the name and what is to be
added under it. Credits are added without regard to each other, so neither the
order of the matches nor the seats in them can be told from the standings. -/

namespace Dilemma

/-- What a match adds to the standing of one player. -/
structure Tally where
  score : Int
  rounds : Nat
  cooperations : Nat
  anomalies : Nat
  deriving DecidableEq

namespace Match

def tally (game : Match) (seat : Seat) : Tally :=
  ⟨game.total seat, game.roundCount, game.cooperations seat, (game.anomaliesOf seat).length⟩

theorem tally_mirror (game : Match) (seat : Seat) :
    game.mirror.tally seat = game.tally seat.other := by
  rw [tally, total_mirror, roundCount_mirror, cooperations_mirror, anomaliesOf_mirror,
    List.length_map]
  rfl

def credit (game : Match) (seat : Seat) : String × Tally := (game.player seat, game.tally seat)

/-- The credits to both players, no matter who sat where. -/
def credits (game : Match) : Sym2 (String × Tally) := s(game.credit .a, game.credit .b)

theorem credit_mirror (game : Match) (seat : Seat) :
    game.mirror.credit seat = game.credit seat.other :=
  Prod.ext (game.player_mirror seat) (game.tally_mirror seat)

@[simp] theorem credits_mirror (game : Match) : game.mirror.credits = game.credits := by
  rw [credits, credit_mirror, credit_mirror]
  exact Sym2.eq_swap

end Match

namespace Standing

def add (tally : Tally) (standing : Standing) : Standing :=
  { standing with
    totalScore := standing.totalScore + tally.score
    matchesPlayed := standing.matchesPlayed + 1
    roundsPlayed := standing.roundsPlayed + tally.rounds
    cooperations := standing.cooperations + tally.cooperations
    anomalies := standing.anomalies + tally.anomalies }

theorem add_comm (first second : Tally) (standing : Standing) :
    (standing.add first).add second = (standing.add second).add first := by
  simp only [add, Int.add_right_comm _ first.score, Nat.add_right_comm _ first.rounds,
    Nat.add_right_comm _ first.cooperations, Nat.add_right_comm _ first.anomalies]

end Standing

namespace NameMap

theorem modify_comm {α : Type} {first second : α → α}
    (commute : ∀ value, second (first value) = first (second value)) (map : NameMap α)
    (name other : String) :
    (map.modify name first).modify other second =
      (map.modify other second).modify name first := by
  have entries : ((map.modify name first).modify other second).entries =
      ((map.modify other second).modify name first).entries := by
    simp only [entries_modify, List.map_map]
    refine List.map_congr_left fun entry member => Prod.ext rfl ?_
    simp only [Function.comp_apply]
    split <;> split
    · exact commute entry.2
    · rfl
    · rfl
    · rfl
  exact NameMap.ext entries

def credit (standings : NameMap Standing) (credit : String × Tally) : NameMap Standing :=
  standings.modify credit.1 (.add credit.2)

theorem credit_comm (standings : NameMap Standing) (left right : String × Tally) :
    (standings.credit left).credit right = (standings.credit right).credit left :=
  modify_comm (Standing.add_comm left.2 right.2) standings left.1 right.1

theorem names_credit (standings : NameMap Standing) (credit : String × Tally) :
    (standings.credit credit).names = standings.names :=
  names_modify standings credit.1 (.add credit.2)

/-- Both credits of a match. -/
def creditBoth (standings : NameMap Standing) : Sym2 (String × Tally) → NameMap Standing :=
  Sym2.lift ⟨fun left right => (standings.credit left).credit right, standings.credit_comm⟩

theorem creditBoth_comm (standings : NameMap Standing) (first second : Sym2 (String × Tally)) :
    (standings.creditBoth first).creditBoth second =
      (standings.creditBoth second).creditBoth first := by
  induction first with | _ left right
  induction second with | _ other another
  change (((standings.credit left).credit right).credit other).credit another =
    (((standings.credit other).credit another).credit left).credit right
  rw [credit_comm _ right other, credit_comm _ left other, credit_comm _ right another,
    credit_comm _ left another]

end NameMap

namespace Report

theorem standings_record (report : Report) (game : Match) :
    (report.record game).standings = report.standings.creditBoth game.credits := rfl

theorem standings_recordAll (games : List Match) (report : Report) :
    (games.foldl record report).standings =
      (games.map Match.credits).foldl NameMap.creditBoth report.standings := by
  induction games generalizing report with
  | nil => rfl
  | cons game rest induction =>
      rw [List.foldl_cons, induction, standings_record, List.map_cons, List.foldl_cons]

/-- Matches with the same credits leave the same standings, in whatever order they
are recorded. -/
theorem standings_recordAll_perm {games others : List Match} {report other : Report}
    (started : report.standings = other.standings)
    (credited : (games.map Match.credits).Perm (others.map Match.credits)) :
    (games.foldl record report).standings = (others.foldl record other).standings := by
  rw [standings_recordAll, standings_recordAll, started]
  exact credited.foldl_eq'
    (fun first _ second _ standings => standings.creditBoth_comm first second) _

end Report

end Dilemma
