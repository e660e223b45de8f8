import Dilemma.Proofs.Tournament.Completion
import Dilemma.Proofs.Tournament.Credits
import Dilemma.Proofs.Tournament.Meetings

/-! # Recording

A report can be built from any matches at all: with strangers in a seat, with one
player in both, with rounds of any kind and number. Every standing is then the sum
over the appearances of its name, and the whole field together has scored what its
members earned in the matches. -/

namespace Dilemma

/-! ## The score of the whole field -/

namespace NameMap

def totalScore (standings : NameMap Standing) : Int :=
  (standings.values.map (·.totalScore)).sum

/-- A credit to a stranger is lost, any other counts once. -/
theorem totalScore_credit {standings : NameMap Standing} (distinct : standings.names.Nodup)
    (credit : String × Tally) :
    (standings.credit credit).totalScore =
      standings.totalScore + if credit.1 ∈ standings.names then credit.2.score else 0 := by
  have changed : ∀ entry : String × Standing,
      (if entry.1 = credit.1 then entry.2.add credit.2 else entry.2).totalScore =
        entry.2.totalScore + if entry.1 = credit.1 then credit.2.score else 0 := by
    intro entry
    split
    · rfl
    · exact (Int.add_zero _).symm
  have once : (standings.entries.map fun entry =>
      if entry.1 = credit.1 then credit.2.score else 0).sum =
        if credit.1 ∈ standings.names then credit.2.score else 0 := by
    have counted := List.sum_map_ite_eq standings.names (fun _ => credit.2.score) (fun _ => 0)
      credit.1
    rw [names, List.map_map] at counted
    refine Eq.trans counted ?_
    rw [← names, distinct.count]
    split <;> simp
  rw [totalScore, values, NameMap.credit, entries_modify, List.map_map, List.map_map, ← once,
    totalScore, values, List.map_map, ← List.sum_map_add]
  exact congrArg List.sum (List.map_congr_left fun entry _ => changed entry)

end NameMap

namespace Match

/-- What the players with these names have earned. -/
def earned (names : List String) (game : Match) : Int :=
  (if game.playerA ∈ names then game.total .a else 0) +
    if game.playerB ∈ names then game.total .b else 0

end Match

namespace Report

theorem totalScore_record {report : Report} (distinct : report.standings.names.Nodup)
    (game : Match) :
    (report.record game).standings.totalScore =
      report.standings.totalScore + game.earned report.standings.names := by
  change ((report.standings.credit (game.credit .a)).credit (game.credit .b)).totalScore = _
  have kept := report.standings.names_credit (game.credit .a)
  rw [NameMap.totalScore_credit (by rw [kept]; exact distinct),
    NameMap.totalScore_credit distinct, kept, Int.add_assoc]
  rfl

theorem totalScore_recordAll (games : List Match) {report : Report}
    (distinct : report.standings.names.Nodup) :
    (games.foldl record report).standings.totalScore =
      report.standings.totalScore + (games.map (Match.earned report.standings.names)).sum := by
  induction games generalizing report with
  | nil => exact (Int.add_zero _).symm
  | cons game rest induction =>
      have kept : (report.record game).standings.names = report.standings.names :=
        names_recordAll [game] report
      rw [List.foldl_cons, induction (by rw [kept]; exact distinct), kept,
        totalScore_record distinct, List.map_cons, List.sum_cons, Int.add_assoc]

end Report

/-! ## Any matches -/

/-- The standing that the appearances of a competitor add up to. -/
def Standing.ofAppearances (competitor : Competitor) (seen : List (Match × Seat)) : Standing :=
  { Standing.start competitor with
    totalScore := (seen.map fun (game, seat) => game.total seat).sum
    matchesPlayed := seen.length
    roundsPlayed := (seen.map fun (game, _) => game.roundCount).sum
    cooperations := (seen.map fun (game, seat) => game.cooperations seat).sum
    anomalies := (seen.map fun (game, seat) => (game.anomaliesOf seat).length).sum }

theorem Standing.absorbAll_start (competitor : Competitor) (seen : List (Match × Seat)) :
    (Standing.start competitor).absorbAll seen = .ofAppearances competitor seen := by
  rw [absorbAll_eq]
  simp [start, ofAppearances]

/-! ## The round robin in any order -/

namespace Tournament

open Pairing (membersAt? membersOf? meetings unordered)

variable {competitors : List Competitor}

theorem playMatch?_eq_map (payoff : Payoff) (competitors : List Competitor) (rounds : UInt32)
    (pair : Nat × Nat) :
    playMatch? payoff competitors rounds pair =
      (membersAt? competitors pair).map fun (a, b) => .play payoff a b rounds := by
  rw [playMatch?, membersAt?]
  cases competitors[pair.1]? with
  | none => rfl
  | some a => cases competitors[pair.2]? <;> rfl

theorem credits_play_comm (payoff : Payoff) (a b : Competitor) (rounds : UInt32) :
    (Match.play payoff a b rounds).credits = (Match.play payoff b a rounds).credits := by
  rw [Match.play_mirror payoff a b rounds, Match.credits_mirror]

/-- The credits of a match depend on who plays it and not on the seats. -/
def creditsBetween (payoff : Payoff) (rounds : UInt32) :
    Sym2 Competitor → Sym2 (String × Tally) :=
  Sym2.lift ⟨fun a b => (Match.play payoff a b rounds).credits,
    fun a b => credits_play_comm payoff a b rounds⟩

theorem played_eq_meetings (payoff : Payoff) (competitors : List Competitor) (rounds : UInt32) :
    (playAll payoff competitors rounds).played =
      (meetings competitors).map fun (a, b) => .play payoff a b rounds := by
  rw [played_playAll, meetings, List.map_filterMap]
  exact List.filterMap_congr fun pair _ => playMatch?_eq_map payoff competitors rounds pair

theorem credits_playMatches (payoff : Payoff) (competitors : List Competitor) (rounds : UInt32)
    (order : List (Nat × Nat)) :
    (order.filterMap (playMatch? payoff competitors rounds)).map Match.credits =
      (order.map unordered).filterMap fun places =>
        (membersOf? competitors places).map (creditsBetween payoff rounds) := by
  rw [List.map_filterMap, List.filterMap_map]
  refine List.filterMap_congr fun pair _ => ?_
  rw [playMatch?_eq_map, Option.map_map, Function.comp_apply]
  change _ = Option.map (creditsBetween payoff rounds)
    (Option.map unordered (membersAt? competitors pair))
  rw [Option.map_map]
  rfl

theorem exists_playMatch? (payoff : Payoff) (rounds : UInt32) {pair : Nat × Nat}
    (scheduled : unordered pair ∈ (Pairing.schedule competitors.length).map unordered) :
    ∃ game, playMatch? payoff competitors rounds pair = some game := by
  have bounds := Pairing.lt_of_unordered_mem scheduled
  refine ⟨.play payoff competitors[pair.1] competitors[pair.2] rounds, ?_⟩
  rw [playMatch?, List.getElem?_eq_getElem bounds.1, List.getElem?_eq_getElem bounds.2]
  rfl

/-- Each pair once, in any order and in either seating. -/
theorem standings_playMatches (payoff : Payoff) (rounds : UInt32) {order : List (Nat × Nat)}
    (each : (order.map unordered).Perm
      ((Pairing.schedule competitors.length).map unordered)) :
    ∃ games : List Match, games.map some = order.map (playMatch? payoff competitors rounds) ∧
      (games.foldl Report.record (.start competitors rounds payoff)).standings =
        (playAll payoff competitors rounds).standings := by
  refine ⟨order.filterMap (playMatch? payoff competitors rounds), ?_, ?_⟩
  · refine map_some_filterMap fun pair member => exists_playMatch? payoff rounds ?_
    exact each.mem_iff.mp (List.mem_map_of_mem member)
  · refine Report.standings_recordAll_perm rfl ?_
    rw [credits_playMatches, credits_playMatches]
    exact each.filterMap _

theorem runInterpreted_of_check {settings : TournamentSettings} {rounds : UInt32}
    (passed : Setup.check settings.maxRounds rounds (competitors.map Competitor.name) = .ok ()) :
    runInterpreted settings competitors rounds =
      .ok (playAll settings.payoff competitors rounds) := by
  rw [runInterpreted, passed]
  rfl

theorem runInterpreted_eq_ok {settings : TournamentSettings} {rounds : UInt32}
    (distinct : (competitors.map Competitor.name).Nodup)
    (nonblank : ∀ competitor ∈ competitors, Setup.isBlankName competitor.name = false)
    (admitted : rounds ≤ settings.maxRounds) :
    runInterpreted settings competitors rounds =
      .ok (playAll settings.payoff competitors rounds) := by
  have named : ∀ name ∈ competitors.map Competitor.name, Setup.isBlankName name = false := by
    simpa using nonblank
  exact runInterpreted_of_check (Setup.check_eq_ok.mpr ⟨admitted, named, distinct⟩)

end Tournament

namespace Report

variable {competitors : List Competitor}

theorem entries_recordAll_start (payoff : Payoff) (rounds : UInt32)
    (distinct : (competitors.map Competitor.name).Nodup) (games : List Match) :
    (games.foldl record (start competitors rounds payoff)).standings.entries.Perm
      (competitors.map fun competitor =>
        (competitor.name, .ofAppearances competitor
          (games.flatMap (Match.appearances competitor.name)))) := by
  refine (Tournament.entries_recordAll_perm payoff rounds distinct games).trans (.of_eq ?_)
  exact List.map_congr_left fun competitor _ =>
    Prod.ext rfl (Standing.absorbAll_start competitor _)

theorem values_recordAll_start (payoff : Payoff) (rounds : UInt32)
    (distinct : (competitors.map Competitor.name).Nodup) (games : List Match) :
    (games.foldl record (start competitors rounds payoff)).standings.values.Perm
      (competitors.map fun competitor =>
        .ofAppearances competitor (games.flatMap (Match.appearances competitor.name))) := by
  have values := (entries_recordAll_start payoff rounds distinct games).map (·.2)
  rw [List.map_map] at values
  exact values

theorem totalScore_recordAll_start (payoff : Payoff) (rounds : UInt32)
    (distinct : (competitors.map Competitor.name).Nodup) (games : List Match) :
    (games.foldl record (start competitors rounds payoff)).standings.totalScore =
      (games.map (Match.earned (competitors.map Competitor.name))).sum := by
  have started := Tournament.standings_start_perm payoff rounds distinct
  have names : (start competitors rounds payoff).standings.names.Perm
      (competitors.map Competitor.name) :=
    Tournament.names_recordAll_perm payoff rounds distinct []
  have nothing : (start competitors rounds payoff).standings.totalScore = 0 := by
    have scores := (started.map (·.2.totalScore)).sum_eq
    rw [List.map_map] at scores
    rw [NameMap.totalScore, NameMap.values, List.map_map]
    refine scores.trans ?_
    simp [Function.comp_def, Standing.start]
  rw [totalScore_recordAll games (names.nodup_iff.mpr distinct), nothing, Int.zero_add]
  refine congrArg List.sum (List.map_congr_left fun game _ => ?_)
  simp only [Match.earned, names.mem_iff]

/-- A report holds the matches it was given, and its standings are exact sums over
them, whatever they are and in whatever order they came. -/
theorem recordAll_exact (payoff : Payoff) (rounds : UInt32) {competitors : List Competitor}
    (distinct : (competitors.map Competitor.name).Nodup) (games : List Match) :
    let report := games.foldl record (start competitors rounds payoff)
    report.played = games ∧
      report.standings.entries.Perm (competitors.map fun competitor =>
        (competitor.name, .ofAppearances competitor
          (games.flatMap (Match.appearances competitor.name)))) ∧
      (∀ reordered, games.Perm reordered →
        (reordered.foldl record (start competitors rounds payoff)).standings =
          report.standings) ∧
      (report.scores.map (·.2)).sum =
        (games.map (Match.earned (competitors.map Competitor.name))).sum ∧
      ∀ settings : TournamentSettings, settings.payoff = payoff → rounds ≤ settings.maxRounds →
        (∀ competitor ∈ competitors, Setup.isBlankName competitor.name = false) →
        ∃ final, Tournament.runInterpreted settings competitors rounds = .ok final ∧
          ∀ order : List (Nat × Nat),
            (order.map Pairing.unordered).Perm
              ((Pairing.schedule competitors.length).map Pairing.unordered) →
            ∃ played : List Match,
              played.map some = order.map (Tournament.playMatch? payoff competitors rounds) ∧
              (played.foldl record (start competitors rounds payoff)).standings =
                final.standings := by
  intro report
  refine ⟨?_, entries_recordAll_start payoff rounds distinct games, ?_, ?_, ?_⟩
  · rw [played_recordAll]
    rfl
  · intro reordered permuted
    exact standings_recordAll_perm rfl (permuted.map Match.credits).symm
  · rw [← totalScore_recordAll_start payoff rounds distinct games, NameMap.totalScore,
      NameMap.values, scores, List.map_map, List.map_map]
    rfl
  · rintro settings rfl admitted nonblank
    exact ⟨_, Tournament.runInterpreted_eq_ok distinct nonblank admitted,
      fun order each => Tournament.standings_playMatches settings.payoff rounds each⟩

/-- One player in both seats, and a stranger. -/
theorem recordAll_exact_stranger :
    let competitors : List Competitor :=
      [.ofTemplate "left" .titForTat, .ofTemplate "right" .alwaysDefect]
    let games : List Match :=
      [⟨"left", "left", [⟨0, .cooperate, .defect, 0, 5, []⟩]⟩, ⟨"stranger", "right", []⟩]
    let report := games.foldl record (start competitors 1 .classic)
    report.played = games ∧
      (report.scores.map (·.2)).sum = (games.map (Match.earned ["left", "right"])).sum ∧
      report.scores = [("left", 5), ("right", 0)] ∧
      ∃ final, Tournament.runInterpreted .standard competitors 1 = .ok final := by
  intro competitors games report
  have distinct : (competitors.map Competitor.name).Nodup := by decide +kernel
  have exactly := recordAll_exact .classic 1 distinct games
  rcases exactly.2.2.2.2 .standard rfl (by decide) (by decide +kernel) with ⟨final, ran, _⟩
  exact ⟨exactly.1, exactly.2.2.2.1, by decide +kernel, final, ran⟩

end Report

end Dilemma
