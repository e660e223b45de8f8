import Dilemma.Proofs.Tournament.Recording

/-! # The field in another order

Whoever enters the same competitors in another order changes the numbers of the
matches and the seats in them. The pairs that meet stay the same, each match is the
old one or its mirror, and so no standing changes. -/

namespace Dilemma.Tournament

open Pairing (meetings unordered)

variable {competitors reordered : List Competitor}

theorem standings_start_congr (payoff : Payoff) (rounds : UInt32)
    (permuted : competitors.Perm reordered)
    (distinct : (competitors.map Competitor.name).Nodup) :
    (Report.start competitors rounds payoff).standings =
      (Report.start reordered rounds payoff).standings := by
  refine NameMap.ofList_congr (permuted.map _) ?_
  rw [List.map_map]
  exact distinct

theorem credits_played (payoff : Payoff) (competitors : List Competitor) (rounds : UInt32) :
    (playAll payoff competitors rounds).played.map Match.credits =
      ((meetings competitors).map unordered).map (creditsBetween payoff rounds) := by
  rw [played_eq_meetings, List.map_map, List.map_map]
  rfl

theorem standings_playAll_perm (payoff : Payoff) (rounds : UInt32)
    (permuted : competitors.Perm reordered)
    (distinct : (competitors.map Competitor.name).Nodup) :
    (playAll payoff competitors rounds).standings =
      (playAll payoff reordered rounds).standings := by
  have credited : ((playAll payoff competitors rounds).played.map Match.credits).Perm
      ((playAll payoff reordered rounds).played.map Match.credits) := by
    rw [credits_played, credits_played]
    exact (Pairing.meetings_perm permuted).map _
  rw [played_playAll, played_playAll] at credited
  exact Report.standings_recordAll_perm (standings_start_congr payoff rounds permuted distinct)
    credited

/-- The match between two competitors in both seatings. -/
def seatings (payoff : Payoff) (rounds : UInt32) : Sym2 Competitor → Sym2 Match :=
  Sym2.lift ⟨fun a b => s(.play payoff a b rounds, .play payoff b a rounds),
    fun _ _ => Sym2.eq_swap⟩

theorem played_perm (payoff : Payoff) (rounds : UInt32) (permuted : competitors.Perm reordered) :
    ((playAll payoff competitors rounds).played.map fun game => s(game, game.mirror)).Perm
      ((playAll payoff reordered rounds).played.map fun game => s(game, game.mirror)) := by
  have seated : ∀ field : List Competitor,
      ((playAll payoff field rounds).played.map fun game => s(game, game.mirror)) =
        ((meetings field).map unordered).map (seatings payoff rounds) := by
    intro field
    rw [played_eq_meetings, List.map_map, List.map_map]
    refine List.map_congr_left fun pair _ => ?_
    rw [Function.comp_apply, ← Match.play_mirror]
    rfl
  rw [seated, seated]
  exact (Pairing.meetings_perm permuted).map _

/-- The same competitors in another order have the same standings, although the
matches come in another order and some of them with the seats exchanged. -/
theorem run_reordered (settings : TournamentSettings) (rounds : UInt32)
    (permuted : competitors.Perm reordered)
    (distinct : (competitors.map Competitor.name).Nodup)
    (nonblank : ∀ competitor ∈ competitors, Setup.isBlankName competitor.name = false)
    (admitted : rounds ≤ settings.maxRounds) :
    ∃ report other, runInterpreted settings competitors rounds = .ok report ∧
      runInterpreted settings reordered rounds = .ok other ∧
      report.standings = other.standings ∧ report.leaderboard = other.leaderboard ∧
      report.scores = other.scores ∧ report.degraded = other.degraded ∧
      (report.played.map fun game => s(game, game.mirror)).Perm
        (other.played.map fun game => s(game, game.mirror)) := by
  have otherDistinct := (permuted.map Competitor.name).nodup_iff.mp distinct
  have otherNonblank : ∀ competitor ∈ reordered, Setup.isBlankName competitor.name = false :=
    fun competitor member => nonblank competitor (permuted.mem_iff.mpr member)
  have same := standings_playAll_perm settings.payoff rounds permuted distinct
  refine ⟨_, _, runInterpreted_eq_ok distinct nonblank admitted,
    runInterpreted_eq_ok otherDistinct otherNonblank admitted, same, ?_, ?_, ?_,
    played_perm settings.payoff rounds permuted⟩
  · rw [Report.leaderboard, same]
    rfl
  · rw [Report.scores, same]
    rfl
  · rw [Report.degraded, same]
    rfl

/-- A fallback that only crashes moves from the end of the field to its beginning. -/
theorem run_reordered_crash :
    let crash : Competitor :=
      ⟨⟨"crash", "?"⟩, .fallback ⟨0, "crash", fun _ => .crashes none⟩, .fallback, some "lost"⟩
    let grim : Competitor := .ofTemplate "grim" .grimTrigger
    let nice : Competitor := .ofTemplate "nice" .alwaysCooperate
    ∃ report other, runInterpreted .standard [grim, nice, crash] 3 = .ok report ∧
      runInterpreted .standard [crash, grim, nice] 3 = .ok other ∧
      report.standings = other.standings ∧ report.leaderboard = other.leaderboard := by
  intro crash grim nice
  have permuted : [grim, nice, crash].Perm [crash, grim, nice] :=
    @List.perm_append_comm _ [grim, nice] [crash]
  rcases run_reordered .standard 3 permuted (by decide +kernel) (by decide +kernel) (by decide)
    with ⟨report, other, ran, otherRan, standings, leaderboard, _⟩
  exact ⟨report, other, ran, otherRan, standings, leaderboard⟩

end Dilemma.Tournament
