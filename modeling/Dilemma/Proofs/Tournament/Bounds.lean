import Dilemma.Proofs.Play.Bounds
import Dilemma.Proofs.Tournament.Courses
import Dilemma.Proofs.Tournament.Completion

/-! # Bounds on standings

A standing takes up the total of a match for one seat at a time. Every step keeps it within what
its rounds allow, and none takes rounds away. So if the rounds in the end are not too many, no
total has left 64 bits on the way. -/

namespace Dilemma

/-! ## One step -/

namespace Standing

/-- The total is one that the counted rounds allow. -/
def Within (payoff : Payoff) (standing : Standing) : Prop :=
  payoff.Allows standing.roundsPlayed standing.totalScore

theorem within_start (payoff : Payoff) (competitor : Competitor) :
    (start competitor).Within payoff :=
  payoff.allows_zero

theorem Within.absorb {payoff : Payoff} {standing : Standing} (within : standing.Within payoff)
    {game : Match} (scored : game.Scored payoff) (seat : Seat) :
    (standing.absorb game seat).Within payoff :=
  Payoff.Allows.add within (scored.allows_total seat)

end Standing

/-- The seats of a match in the order in which they are counted. -/
def Match.seatings (game : Match) : List (Match × Seat) := [(game, .a), (game, .b)]

namespace Report

variable {payoff : Payoff} {standings : NameMap Standing}

/-- Count one match for one of its seats. -/
def count (standings : NameMap Standing) (seating : Match × Seat) : NameMap Standing :=
  absorbSeat seating.1 standings seating.2

theorem within_count (within : ∀ standing ∈ standings.values, standing.Within payoff)
    {seating : Match × Seat} (scored : seating.1.Scored payoff) :
    ∀ standing ∈ (count standings seating).values, standing.Within payoff := by
  intro standing member
  rw [NameMap.values, count, entries_absorbSeat, List.map_map] at member
  rcases List.mem_map.mp member with ⟨entry, known, rfl⟩
  have earlier := within entry.2 (List.mem_map_of_mem known)
  rw [Function.comp_apply]
  split
  · exact earlier.absorb scored seating.2
  · exact earlier

/-- A step keeps every standing in its place and takes no rounds away. -/
theorem grows_count (seating : Match × Seat) {standing : Standing}
    (member : standing ∈ standings.values) :
    ∃ later ∈ (count standings seating).values, standing.roundsPlayed ≤ later.roundsPlayed := by
  rcases List.mem_map.mp member with ⟨entry, known, rfl⟩
  rw [NameMap.values, count, entries_absorbSeat, List.map_map]
  refine ⟨_, List.mem_map_of_mem known, ?_⟩
  rw [Function.comp_apply]
  split
  · exact Nat.le_add_right ..
  · exact Nat.le_refl _

/-! ## All steps -/

theorem within_foldl_count (within : ∀ standing ∈ standings.values, standing.Within payoff)
    {seatings : List (Match × Seat)} (scored : ∀ seating ∈ seatings, seating.1.Scored payoff) :
    ∀ standing ∈ (seatings.foldl count standings).values, standing.Within payoff := by
  induction seatings generalizing standings with
  | nil => exact within
  | cons seating rest induction =>
      exact induction (within_count within (scored seating (List.mem_cons_self ..)))
        fun other member => scored other (List.mem_cons_of_mem seating member)

theorem grows_foldl_count (seatings : List (Match × Seat)) {standing : Standing}
    (member : standing ∈ standings.values) :
    ∃ later ∈ (seatings.foldl count standings).values,
      standing.roundsPlayed ≤ later.roundsPlayed := by
  induction seatings generalizing standings standing with
  | nil => exact ⟨standing, member, Nat.le_refl _⟩
  | cons seating rest induction =>
      rcases grows_count seating member with ⟨next, counted, more⟩
      rcases induction counted with ⟨later, stands, most⟩
      exact ⟨later, stands, Nat.le_trans more most⟩

/-- The standings after so many steps. -/
def standingsAt (first : Report) (games : List Match) (steps : Nat) : NameMap Standing :=
  ((games.flatMap Match.seatings).take steps).foldl count first.standings

theorem standings_foldl_record (games : List Match) (first : Report) :
    (games.foldl record first).standings =
      (games.flatMap Match.seatings).foldl count first.standings := by
  induction games generalizing first with
  | nil => rfl
  | cons game rest induction =>
      rw [List.foldl_cons, induction, List.flatMap_cons, List.foldl_append]
      rfl

theorem take_flatMap_seatings (games : List Match) (number : Nat) :
    (games.flatMap Match.seatings).take (2 * number) =
      (games.take number).flatMap Match.seatings := by
  induction games generalizing number with
  | nil => rw [List.take_nil, List.flatMap_nil, List.take_nil]
  | cons game rest induction =>
      cases number with
      | zero => rfl
      | succ number => exact congrArg (Match.seatings game ++ ·) (induction number)

/-- The totals that a report passes through, of which there are two for each match. -/
structure Bounded (payoff : Payoff) (first : Report) (games : List Match) : Prop where
  recorded : ∀ number, ((games.take number).foldl record first).standings =
    first.standingsAt games (2 * number)
  totals : ∀ steps, ∀ standing ∈ (first.standingsAt games steps).values,
    payoff.Allows standing.roundsPlayed standing.totalScore ∧ FitsWord standing.totalScore

/-- Nobody has played more rounds than 32 bits can count. -/
def Few (report : Report) : Prop :=
  ∀ standing ∈ report.standings.values, standing.roundsPlayed ≤ 2 ^ 32

instance (report : Report) : Decidable report.Few :=
  inferInstanceAs (Decidable (∀ standing ∈ report.standings.values, _))

theorem within_start (payoff : Payoff) (competitors : List Competitor) (rounds : UInt32)
    (table : Payoff) :
    ∀ standing ∈ (start competitors rounds table).standings.values, standing.Within payoff := by
  intro standing member
  rcases List.mem_map.mp member with ⟨entry, known, rfl⟩
  rcases List.mem_map.mp (NameMap.mem_ofList known) with ⟨competitor, -, rfl⟩
  exact Standing.within_start payoff competitor

theorem bounded_start (competitors : List Competitor) (rounds : UInt32) (table : Payoff)
    {games : List Match} (scored : ∀ game ∈ games, game.Scored payoff)
    (few : (games.foldl record (start competitors rounds table)).Few) :
    (start competitors rounds table).Bounded payoff games where
  recorded number := by
    rw [standings_foldl_record, standingsAt, take_flatMap_seatings]
  totals := by
    intro steps standing member
    have seated : ∀ seating ∈ (games.flatMap Match.seatings).take steps,
        seating.1.Scored payoff := by
      intro seating here
      rcases List.mem_flatMap.mp (List.mem_of_mem_take here) with ⟨game, played, sits⟩
      simp only [Match.seatings, List.mem_cons, List.not_mem_nil, or_false] at sits
      rcases sits with rfl | rfl <;> exact scored game played
    have within := within_foldl_count (within_start payoff competitors rounds table) seated
      standing member
    -- The standing goes on to the end, where its rounds are known to be few.
    rcases grows_foldl_count ((games.flatMap Match.seatings).drop steps) member with
      ⟨last, counted, more⟩
    rw [standingsAt, ← List.foldl_append, List.take_append_drop, ← standings_foldl_record]
      at counted
    exact ⟨within, Payoff.Allows.fits within (Nat.le_trans more (few last counted))⟩

/-- The report came about within bounds. -/
def InBounds (payoff : Payoff) (report : Report) : Prop :=
  ∃ competitors rounds,
    report = report.played.foldl record (start competitors rounds payoff) ∧
      (start competitors rounds payoff).Bounded payoff report.played

end Report

namespace Tournament

theorem inBounds_playAll (payoff : Payoff) (competitors : List Competitor) (rounds : UInt32)
    (few : (playAll payoff competitors rounds).Few) :
    (playAll payoff competitors rounds).InBounds payoff := by
  have scored : ∀ game ∈ (playAll payoff competitors rounds).played, game.Scored payoff := by
    intro game member
    rcases mem_played member with ⟨a, -, b, -, rfl⟩
    exact Match.scored_play payoff a b rounds
  have counted : playAll payoff competitors rounds =
      (playAll payoff competitors rounds).played.foldl Report.record
        (.start competitors rounds payoff) := by
    rw [played_playAll, playAll]
  refine ⟨competitors, rounds, counted, ?_⟩
  refine Report.bounded_start competitors rounds payoff scored ?_
  rw [← counted]
  exact few

/-- Scores of 32 bits over rounds of 32 bits never leave 64 bits, neither in one of the
summations over a match nor when standings are counted, if nobody plays too many rounds in all. -/
theorem scores_never_overflow (payoff : Payoff) :
    (∀ own other : List Move, min own.length other.length ≤ 2 ^ 32 →
      (partialSums (payoff.roundScores own other)).getLast? =
          some (payoff.totalScore own other) ∧
        ∀ (number : Nat) (sum : Int),
          (partialSums (payoff.roundScores own other))[number]? = some sum →
            payoff.Allows number sum ∧ FitsWord sum) ∧
    (∀ a b rounds, (Match.play payoff a b rounds).Scored payoff) ∧
    (∀ game : Match, game.Scored payoff → ∀ seat, game.Bounded payoff seat) ∧
    (∀ competitors rounds table games, (∀ game ∈ games, game.Scored payoff) →
      (games.foldl Report.record (.start competitors rounds table)).Few →
        (Report.start competitors rounds table).Bounded payoff games) ∧
    (∀ settings competitors rounds report, settings.payoff = payoff →
      runInterpreted settings competitors rounds = .ok report → report.Few →
        report.InBounds payoff) ∧
    ∀ (State : Type) (settings : TournamentSettings) (interpreter : Interpreter State) entries
        rounds before report after, settings.payoff = payoff →
      Runs settings interpreter entries rounds before (.ok report) after → report.Few →
        report.InBounds payoff := by
  refine ⟨?_, Match.scored_play payoff, fun game scored => scored.bounded, ?_, ?_, ?_⟩
  · intro own other few
    have last := getLast?_partialSums (payoff.roundScores own other)
    rw [← payoff.totalScore_eq] at last
    exact ⟨last, fun number sum => payoff.roundScores_bounded few⟩
  · intro competitors rounds table games
    exact Report.bounded_start competitors rounds table
  · rintro settings competitors rounds report rfl ran few
    rw [runInterpreted] at ran
    cases checked : Setup.check settings.maxRounds rounds (competitors.map Competitor.name) with
    | error error =>
        rw [checked] at ran
        exact nomatch ran
    | ok =>
        rw [checked] at ran
        cases ran
        exact inBounds_playAll settings.payoff competitors rounds few
  · rintro State settings interpreter entries rounds before report after rfl runs few
    cases runs with
    | played passed interprets => exact inBounds_playAll settings.payoff _ rounds few

/-- The widest table there is: what the one loses in every round, a word of 32 bits barely holds. -/
theorem scores_never_overflow_widest :
    let widest : Payoff := ⟨Int32.maxValue, 1, 0, Int32.minValue, by decide, by decide, by decide⟩
    let settings := { TournamentSettings.standard with payoff := widest }
    let interpreter : Interpreter Unit :=
      ⟨⟨fun _ state => (⟨.crashes, ⟨0⟩, []⟩, state)⟩, .standard,
        Template.alwaysDefect.asFunction 0⟩
    let victim := Competitor.ofTemplate "victim" .alwaysCooperate
    let robber := Competitor.ofTemplate "robber" .alwaysDefect
    let game := Match.play widest victim robber 3
    let twice := [game, game].foldl Report.record (.start [victim, robber] 3 .classic)
    let entries : List Entry := [⟨"first", "grim"⟩, ⟨"second", "pavlov"⟩]
    let run := run settings interpreter entries 3 (.start ())
    widest.Allows 2 (widest.totalScore [.cooperate, .cooperate] [.defect, .defect]) ∧
      game.Bounded widest .a ∧ game.cumulative .a = [-2147483648, -4294967296, -6442450944] ∧
      (Report.start [victim, robber] 3 .classic).Bounded widest [game, game] ∧
      twice.scores = [("robber", 12884901882), ("victim", -12884901888)] ∧
      (∃ report, runInterpreted settings [victim, robber] 3 = .ok report ∧
        report.InBounds widest) ∧
      ∃ report, run.1 = .ok report ∧ report.InBounds widest := by
  intro widest settings interpreter victim robber game twice entries run
  rcases scores_never_overflow widest with
    ⟨summed, played, bounded, recorded, interpreted, runs⟩
  have scored : ∀ other ∈ [game, game], other.Scored widest := by
    intro other member
    rw [List.mem_pair, or_self] at member
    exact member ▸ played victim robber 3
  have passed : runInterpreted settings [victim, robber] 3 =
      .ok (playAll widest [victim, robber] 3) := by decide +kernel
  let competitors := (interpretAll interpreter entries (.start ())).1
  have ran : run.1 = .ok (playAll widest competitors 3) := by decide +kernel
  have course := runs_run settings interpreter entries 3 (.start ())
  rw [ran] at course
  exact ⟨((summed [.cooperate, .cooperate] [.defect, .defect] (by decide)).2 2 _ rfl).1,
    bounded game (played victim robber 3) .a, by decide +kernel,
    recorded [victim, robber] 3 .classic [game, game] scored (by decide +kernel),
    by decide +kernel,
    ⟨_, passed, interpreted settings [victim, robber] 3 _ rfl passed (by decide +kernel)⟩,
    _, ran, runs Unit settings interpreter entries 3 _ _ _ rfl course (by decide +kernel)⟩

end Tournament

end Dilemma
