import Dilemma.Proofs.Play.Anomalies
import Dilemma.Proofs.Tournament.Recording
import Dilemma.Proofs.Tournament.Refusal

/-! # Anomalies of a tournament

A standing counts the notes of the seats in which its name sits. As every note carries the
name of the player in its seat, the count is that of the notes with this name. -/

namespace Dilemma

namespace Match

/-- How many failures stand against some appearances. -/
def failures (seen : List (Match × Seat)) : Nat :=
  (seen.map fun (game, seat) => (game.anomaliesOf seat).length).sum

theorem failures_append (first second : List (Match × Seat)) :
    failures (first ++ second) = failures first + failures second := by
  rw [failures, List.map_append, List.sum_append, failures, failures]

theorem failures_appearances (game : Match) (name : String) :
    failures (game.appearances name) =
      (if game.player .a = name then (game.anomaliesOf .a).length else 0) +
        if game.player .b = name then (game.anomaliesOf .b).length else 0 := by
  by_cases first : game.player .a = name <;> by_cases second : game.player .b = name <;>
    simp [failures, appearances, first, second]

/-- Notes fall into those of one seat and those of the other. -/
theorem countP_anomalies (game : Match) (counted : Anomaly → Bool) :
    game.anomalies.countP counted =
      (game.anomaliesOf .a).countP counted + (game.anomaliesOf .b).countP counted := by
  have apart : ∀ anomaly : Anomaly,
      (!decide (anomaly.seat = .a)) = decide (anomaly.seat = .b) := by
    intro anomaly
    cases anomaly.seat <;> rfl
  rw [List.countP_eq_countP_filter_add game.anomalies counted fun anomaly => anomaly.seat = .a]
  simp only [anomaliesOf, apart]

theorem Labelled.countP_anomaliesOf {game : Match} (labelled : game.Labelled) (name : String)
    (seat : Seat) :
    (game.anomaliesOf seat).countP (·.strategy = name) =
      if game.player seat = name then (game.anomaliesOf seat).length else 0 := by
  have known : ∀ anomaly ∈ game.anomaliesOf seat, anomaly.strategy = game.player seat := by
    intro anomaly member
    rcases List.mem_filter.mp member with ⟨among, here⟩
    rw [labelled anomaly among, of_decide_eq_true here]
  split
  · rename_i named
    refine List.countP_eq_length.mpr fun anomaly member => decide_eq_true ?_
    rw [known anomaly member, named]
  · rename_i unnamed
    refine List.countP_eq_zero.mpr fun anomaly member same => unnamed ?_
    rw [← known anomaly member, of_decide_eq_true same]

theorem Labelled.countP_eq_failures {game : Match} (labelled : game.Labelled) (name : String) :
    game.anomalies.countP (·.strategy = name) = failures (game.appearances name) := by
  rw [countP_anomalies, labelled.countP_anomaliesOf, labelled.countP_anomaliesOf,
    failures_appearances]

end Match

namespace Report

/-- Each standing has counted the notes with its name in the whole report. -/
def CountsByName (report : Report) : Prop :=
  ∀ entry ∈ report.standings.entries, entry.2.name = entry.1 ∧
    entry.2.anomalies = report.anomalies.countP (·.strategy = entry.1)

theorem countP_anomalies_recorded {games : List Match}
    (labelled : ∀ game ∈ games, game.Labelled) (name : String) :
    (games.flatMap (·.anomalies)).countP (·.strategy = name) =
      Match.failures (games.flatMap (Match.appearances name)) := by
  induction games with
  | nil => rfl
  | cons game rest induction =>
      rcases List.forall_mem_cons.mp labelled with ⟨here, others⟩
      rw [List.flatMap_cons, List.countP_append, here.countP_eq_failures, induction others,
        List.flatMap_cons, Match.failures_append]

/-- A report can be read at any time, and of any matches that were played. -/
theorem countsByName_recordAll (payoff : Payoff) (rounds : UInt32)
    {competitors : List Competitor} (distinct : (competitors.map Competitor.name).Nodup)
    {games : List Match} (labelled : ∀ game ∈ games, game.Labelled) :
    (games.foldl record (start competitors rounds payoff)).CountsByName := by
  intro entry member
  rcases List.mem_map.mp
    ((entries_recordAll_start payoff rounds distinct games).mem_iff.mp member) with
    ⟨competitor, _, rfl⟩
  refine ⟨rfl, ?_⟩
  rw [anomalies, played_recordAll]
  exact (countP_anomalies_recorded labelled competitor.name).symm

end Report

namespace Tournament

theorem countsByName_playAll (payoff : Payoff) (rounds : UInt32) {competitors : List Competitor}
    (distinct : (competitors.map Competitor.name).Nodup) :
    (playAll payoff competitors rounds).CountsByName := by
  refine Report.countsByName_recordAll payoff rounds distinct fun game member => ?_
  rw [← played_playAll] at member
  rcases mem_played member with ⟨a, _, b, _, rfl⟩
  exact Match.labelled_play payoff a b rounds

theorem countsByName_runInterpreted {settings : TournamentSettings}
    {competitors : List Competitor} {rounds : UInt32} {report : Report}
    (ran : runInterpreted settings competitors rounds = .ok report) : report.CountsByName := by
  rw [runInterpreted] at ran
  cases checked : Setup.check settings.maxRounds rounds (competitors.map Competitor.name) with
  | error error =>
      rw [checked] at ran
      cases ran
  | ok passed =>
      rw [checked] at ran
      cases ran
      exact countsByName_playAll settings.payoff rounds (Setup.check_eq_ok.mp checked).2.2

theorem countsByName_run {State : Type} {settings : TournamentSettings}
    {interpreter : Interpreter State} {entries : List Entry} {rounds : UInt32}
    {progress : Interpreter.Progress State} {report : Report}
    (ran : (run settings interpreter entries rounds progress).1 = .ok report) :
    report.CountsByName := by
  cases checked : Setup.check settings.maxRounds rounds (entries.map Entry.name) with
  | error error =>
      rw [run_of_check_error checked] at ran
      cases ran
  | ok passed =>
      have distinct := (Setup.check_eq_ok.mp checked).2.2
      rw [← names_interpretAll interpreter entries progress] at distinct
      rw [run, checked] at ran
      cases ran
      exact countsByName_playAll settings.payoff rounds distinct

/-- A decision that fails leaves one note with its round, its player and its message, plays a
defection and does not reach the other seat. Nothing else leaves a note, so templates have
none and rules only those of a remainder by zero. A tournament counts the notes of a match
under the names in them. -/
theorem anomalies_recorded (payoff : Payoff) (a b : Competitor) (rounds : UInt32) :
    let game := Match.play payoff a b rounds
    (∀ number round, game.rounds[number]? = some round → round.IsOrdered ∧ ∀ seat,
      round.Notes number seat (game.player seat)
        ((Match.seated a b seat).decide (Match.shown payoff a b seat number)) ∧
      ∀ a' b' : Competitor, a.AgreeBefore number a' → b.AgreeBefore number b' →
        Match.seated a' b' seat = Match.seated a b seat →
        ∃ other, (Match.play payoff a' b' rounds).rounds[number]? = some other ∧
          other.move seat = round.move seat) ∧
    (∀ seat template seed, (Match.seated a b seat).logic = .template template seed →
      game.anomaliesOf seat = []) ∧
    (∀ seat seed rule, ∀ draft : RuleDraft, draft.check seed = .ok rule →
      (Match.seated a b seat).logic = .rule rule →
      (∀ anomaly ∈ game.anomaliesOf seat, draft.Blames anomaly) ∧
        (draft.WithoutModulo → game.anomaliesOf seat = [])) ∧
    (∀ settings competitors count report,
      runInterpreted settings competitors count = .ok report → report.CountsByName) ∧
    ∀ {State : Type} (settings : TournamentSettings) (interpreter : Interpreter State)
      (entries : List Entry) (count : UInt32) (progress : Interpreter.Progress State)
      (report : Report), (run settings interpreter entries count progress).1 = .ok report →
      report.CountsByName := by
  intro game
  refine ⟨fun number round found => ⟨?_, fun seat => ⟨?_, ?_⟩⟩, ?_, ?_, ?_, ?_⟩
  · exact Match.isOrdered_of_mem_playRounds payoff a b rounds.toNat round
      (List.mem_of_getElem? found)
  · exact Match.notes_round found seat
  · intro a' b' first second same
    exact Match.move_unmoved found first second same
  · intro seat template seed logic
    exact (Competitor.neverFails_of_template logic).anomaliesOf_play rounds
  · intro seat seed rule draft accepted logic
    exact ⟨fun anomaly => Match.blames_of_mem_anomaliesOf accepted logic,
      Match.anomaliesOf_without_modulo accepted logic⟩
  · intro settings competitors count report
    exact countsByName_runInterpreted
  · intro State settings interpreter entries count progress report
    exact countsByName_run

/-- One divides by its score, which is zero at first, and the other one crashes whenever it is
asked. -/
theorem anomalies_recorded_both :
    let draft : RuleDraft :=
      ⟨[⟨.comparison (.arithmetic "%" (.predicate "round_index") (.predicate "own_total_score"))
        "==" (.predicate "round_index"), "cooperate"⟩], "defect"⟩
    let rule : Rule :=
      ⟨[⟨.numbers (.arithmetic .modulo (.measure .roundIndex) (.measure (.totalScore .own)))
        .equal (.measure .roundIndex), .play .cooperate⟩], .play .defect, 5⟩
    let divider : Competitor := ⟨⟨"left", "rounds by my score"⟩, .rule rule, .cached, none⟩
    let crasher : Competitor :=
      ⟨⟨"right", ""⟩, .fallback ⟨1, "crash", fun _ => .crashes none⟩, .fallback, none⟩
    let steady := Competitor.ofTemplate "steady" .titForTat
    let game := Match.play .classic divider crasher 2
    ∃ round report, game.rounds[0]? = some round ∧
      (∀ seat, ∃ anomaly, round.anomaliesOf seat = [anomaly] ∧
        anomaly.strategy = game.player seat) ∧
      (∀ anomaly ∈ game.anomaliesOf .a, draft.Blames anomaly) ∧
      (Match.play .classic steady crasher 2).anomaliesOf .a = [] ∧
      runInterpreted .standard [divider, crasher] 2 = .ok report ∧ report.CountsByName := by
  intro draft rule divider crasher steady game
  have recorded := anomalies_recorded .classic divider crasher 2
  have restful := anomalies_recorded .classic steady crasher 2
  have accepted : draft.check 5 = .ok rule := rfl
  have ran : runInterpreted .standard [divider, crasher] 2 =
      .ok (playAll .classic [divider, crasher] 2) :=
    runInterpreted_eq_ok (by decide +kernel) (by decide +kernel) (by decide)
  have played : 0 < game.rounds.length :=
    Nat.lt_of_lt_of_eq (by decide) (Match.roundCount_play .classic divider crasher 2).symm
  have found := List.getElem?_eq_getElem played
  refine ⟨_, _, found, fun seat => ?_, ?_, ?_, ran, ?_⟩
  · have fails : ∃ error, ((Match.seated divider crasher seat).decide
        (Match.shown .classic divider crasher seat 0)).toExcept = .error error := by
      cases seat with
      | a => exact ⟨.divisionByZero "(round_index mod own_total_score)", by decide +kernel⟩
      | b => exact ⟨_, rfl⟩
    rcases fails with ⟨error, failure⟩
    rcases ((recorded.1 0 _ found).2 seat).1.failed error failure with
      ⟨_, anomaly, alone, _, named, _⟩
    exact ⟨anomaly, alone, named⟩
  · exact (recorded.2.2.1 .a 5 rule draft accepted rfl).1
  · exact restful.2.1 .a .titForTat 0 rfl
  · exact recorded.2.2.2.1 .standard [divider, crasher] 2 _ ran

end Tournament

end Dilemma
