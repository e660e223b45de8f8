import Dilemma.Proofs.Play.Rounds
import Dilemma.Proofs.Tournament.Courses
import Dilemma.Proofs.Tournament.Schedule
import Dilemma.Proofs.Tournament.Standings

/-! # Completion

Once the setup check has passed, a tournament is played to its end. The schedule
names only participants that exist, so no match is left out, and with distinct
names every participant appears in the record once for each opponent. -/

namespace Dilemma

/-- Everything that was to be played has been played and counted. -/
structure Report.Complete (payoff : Payoff) (names : List String) (rounds : UInt32)
    (report : Report) : Prop where
  played : report.played.length = names.length * (names.length - 1) / 2
  /-- Matches stand in the order of their numbers. -/
  paired : ∀ index < names.length * (names.length - 1) / 2, ∃ a b game,
    Pairing.ofMatchWithin? names.length index = .ok (some (a, b)) ∧
      report.played[index]? = some game ∧
      names[a]? = some game.playerA ∧ names[b]? = some game.playerB
  complete : ∀ game ∈ report.played, game.Complete payoff rounds
  keys : report.standings.names.Perm names
  totals : ∀ entry ∈ report.standings.entries,
    entry.2.name = entry.1 ∧ entry.2.matchesPlayed = names.length - 1 ∧
      entry.2.roundsPlayed = (names.length - 1) * rounds.toNat

namespace Tournament

variable {payoff : Payoff} {competitors : List Competitor} {rounds : UInt32}

/-! ## The matches played -/

theorem map_some_filterMap {α β : Type} {choose : α → Option β} {values : List α}
    (chosen : ∀ value ∈ values, ∃ result, choose value = some result) :
    (values.filterMap choose).map some = values.map choose := by
  induction values with
  | nil => rfl
  | cons value rest induction =>
      rcases chosen value (List.mem_cons_self ..) with ⟨result, found⟩
      rw [List.filterMap_cons_some found, List.map_cons, List.map_cons, found,
        induction fun other member => chosen other (List.mem_cons_of_mem value member)]

theorem playMatch?_eq (payoff : Payoff) (rounds : UInt32) {pair : Nat × Nat}
    (scheduled : pair ∈ Pairing.schedule competitors.length) :
    ∃ a b, competitors[pair.1]? = some a ∧ competitors[pair.2]? = some b ∧
      playMatch? payoff competitors rounds pair = some (.play payoff a b rounds) := by
  have bounds := Pairing.lt_of_mem_schedule scheduled
  have first := List.getElem?_eq_getElem (Nat.lt_trans bounds.1 bounds.2)
  have second := List.getElem?_eq_getElem bounds.2
  refine ⟨_, _, first, second, ?_⟩
  rw [playMatch?, first, second]
  rfl

theorem played_playAll (payoff : Payoff) (competitors : List Competitor) (rounds : UInt32) :
    (playAll payoff competitors rounds).played =
      (Pairing.schedule competitors.length).filterMap
        (playMatch? payoff competitors rounds) := by
  rw [playAll, Report.played_recordAll]
  rfl

theorem map_some_played (payoff : Payoff) (competitors : List Competitor) (rounds : UInt32) :
    (playAll payoff competitors rounds).played.map some =
      (Pairing.schedule competitors.length).map (playMatch? payoff competitors rounds) := by
  rw [played_playAll]
  refine map_some_filterMap fun pair scheduled => ?_
  rcases playMatch?_eq payoff rounds scheduled with ⟨a, b, _, _, played⟩
  exact ⟨_, played⟩

theorem length_played (payoff : Payoff) (competitors : List Competitor) (rounds : UInt32) :
    (playAll payoff competitors rounds).played.length =
      Pairing.count competitors.length := by
  have lengths := congrArg List.length (map_some_played payoff competitors rounds)
  rw [List.length_map, List.length_map, Pairing.length_schedule] at lengths
  exact lengths

theorem getElem?_played (payoff : Payoff) (rounds : UInt32) {index : Nat}
    (within : index < Pairing.count competitors.length) :
    ∃ a b, competitors[(Pairing.unrank index).1]? = some a ∧
      competitors[(Pairing.unrank index).2]? = some b ∧
      (playAll payoff competitors rounds).played[index]? = some (.play payoff a b rounds) := by
  have scheduled := Pairing.getElem?_schedule within
  rcases playMatch?_eq payoff rounds (List.mem_of_getElem? scheduled) with
    ⟨a, b, first, second, played⟩
  refine ⟨a, b, first, second, ?_⟩
  have places := congrArg (·[index]?) (map_some_played payoff competitors rounds)
  simp only [List.getElem?_map, scheduled, Option.map_some, played] at places
  exact Option.map_injective (fun _ _ => Option.some.inj) places

theorem mem_played {game : Match} (member : game ∈ (playAll payoff competitors rounds).played) :
    ∃ a ∈ competitors, ∃ b ∈ competitors, game = .play payoff a b rounds := by
  rw [played_playAll] at member
  rcases List.mem_filterMap.mp member with ⟨pair, scheduled, played⟩
  rcases playMatch?_eq payoff rounds scheduled with ⟨a, b, first, second, known⟩
  rw [known] at played
  exact ⟨a, List.mem_of_getElem? first, b, List.mem_of_getElem? second,
    (Option.some.inj played).symm⟩

/-! ## Appearances of one participant -/

theorem eq_of_name_eq {left right : Nat} {first second : Competitor}
    (distinct : (competitors.map Competitor.name).Nodup)
    (leftPlace : competitors[left]? = some first)
    (rightPlace : competitors[right]? = some second)
    (same : first.name = second.name) : left = right := by
  have within : left < (competitors.map Competitor.name).length := by
    rw [List.length_map]
    exact (List.getElem?_eq_some_iff.mp leftPlace).1
  refine (List.getElem?_inj within distinct).mp ?_
  rw [List.getElem?_map, List.getElem?_map, leftPlace, rightPlace, Option.map_some,
    Option.map_some, same]

/-- A name sits in a seat as often as the schedule puts its participant there. -/
theorem countP_played {place : Nat} {competitor : Competitor}
    (distinct : (competitors.map Competitor.name).Nodup)
    (found : competitors[place]? = some competitor)
    {seated : Match → String} {placed : Nat × Nat → Nat}
    (agree : ∀ pair ∈ Pairing.schedule competitors.length, ∃ other game,
      competitors[placed pair]? = some other ∧
        playMatch? payoff competitors rounds pair = some game ∧ seated game = other.name) :
    (playAll payoff competitors rounds).played.countP (seated · = competitor.name) =
      (Pairing.schedule competitors.length).countP (placed · = place) := by
  rw [played_playAll, List.countP_filterMap]
  refine List.countP_congr fun pair scheduled => ?_
  rcases agree pair scheduled with ⟨other, game, there, played, named⟩
  rw [played, Option.map_some, Option.getD_some, decide_eq_true_eq, decide_eq_true_eq, named]
  constructor
  · exact eq_of_name_eq distinct there found
  · intro same
    rw [same, found] at there
    exact congrArg Competitor.name (Option.some.inj there).symm

/-- A participant appears once for each of the others. -/
theorem length_appearances_played (payoff : Payoff) (rounds : UInt32) {competitor : Competitor}
    (distinct : (competitors.map Competitor.name).Nodup) (member : competitor ∈ competitors) :
    ((playAll payoff competitors rounds).played.flatMap
      (Match.appearances competitor.name)).length = competitors.length - 1 := by
  rcases List.mem_iff_getElem?.mp member with ⟨place, found⟩
  have within := (List.getElem?_eq_some_iff.mp found).1
  -- One summand for each seat, in the matches as in the schedule.
  rw [Match.length_flatMap_appearances, ← Pairing.countP_schedule within]
  refine congrArg₂ (· + ·) (countP_played distinct found fun pair scheduled => ?_)
    (countP_played distinct found fun pair scheduled => ?_)
  · rcases playMatch?_eq payoff rounds scheduled with ⟨a, b, first, _, played⟩
    exact ⟨a, _, first, played, rfl⟩
  · rcases playMatch?_eq payoff rounds scheduled with ⟨a, b, _, second, played⟩
    exact ⟨b, _, second, played, rfl⟩

/-! ## The whole tournament -/

theorem complete_of_mem_played {game : Match}
    (member : game ∈ (playAll payoff competitors rounds).played) :
    game.Complete payoff rounds := by
  rcases mem_played member with ⟨a, _, b, _, rfl⟩
  exact Match.complete_play payoff a b rounds

theorem players_played (payoff : Payoff) (rounds : UInt32) {index : Nat}
    (within : index < Pairing.count competitors.length) :
    ∃ game, (playAll payoff competitors rounds).played[index]? = some game ∧
      (competitors.map Competitor.name)[(Pairing.unrank index).1]? = some game.playerA ∧
      (competitors.map Competitor.name)[(Pairing.unrank index).2]? = some game.playerB := by
  rcases getElem?_played payoff rounds within with ⟨a, b, first, second, played⟩
  refine ⟨_, played, ?_, ?_⟩
  · rw [List.getElem?_map, first]
    rfl
  · rw [List.getElem?_map, second]
    rfl

/-- The standings before any match are the competitors under their names. -/
theorem standings_start_perm (payoff : Payoff) (rounds : UInt32)
    (distinct : (competitors.map Competitor.name).Nodup) :
    (Report.start competitors rounds payoff).standings.entries.Perm
      (competitors.map fun competitor => (competitor.name, .start competitor)) := by
  refine NameMap.ofList_perm ?_
  rw [List.map_map]
  exact distinct

/-- Each standing is the first one with all appearances of its name added. -/
theorem entries_recordAll_perm (payoff : Payoff) (rounds : UInt32)
    (distinct : (competitors.map Competitor.name).Nodup) (games : List Match) :
    (games.foldl Report.record (.start competitors rounds payoff)).standings.entries.Perm
      (competitors.map fun competitor => (competitor.name,
        (Standing.start competitor).absorbAll
          (games.flatMap (Match.appearances competitor.name)))) := by
  have started := standings_start_perm payoff rounds distinct
  rw [Report.entries_recordAll]
  refine (started.map _).trans (.of_eq ?_)
  rw [List.map_map]
  rfl

theorem names_recordAll_perm (payoff : Payoff) (rounds : UInt32)
    (distinct : (competitors.map Competitor.name).Nodup) (games : List Match) :
    (games.foldl Report.record (.start competitors rounds payoff)).standings.names.Perm
      (competitors.map Competitor.name) := by
  have names := (entries_recordAll_perm payoff rounds distinct games).map (·.1)
  rw [List.map_map] at names
  exact names

theorem totals_playAll {entry : String × Standing}
    (distinct : (competitors.map Competitor.name).Nodup)
    (member : entry ∈ (playAll payoff competitors rounds).standings.entries) :
    entry.2.name = entry.1 ∧ entry.2.matchesPlayed = competitors.length - 1 ∧
      entry.2.roundsPlayed = (competitors.length - 1) * rounds.toNat := by
  rw [playAll] at member
  rcases List.mem_map.mp ((entries_recordAll_perm payoff rounds distinct _).mem_iff.mp member)
    with ⟨competitor, known, rfl⟩
  rw [← played_playAll]
  have appearances := length_appearances_played payoff rounds distinct known
  have lengths : ∀ seen ∈ (playAll payoff competitors rounds).played.flatMap
      (Match.appearances competitor.name), seen.1.roundCount = rounds.toNat := by
    intro seen seenMember
    rcases List.mem_flatMap.mp seenMember with ⟨game, gameMember, appears⟩
    rw [Match.eq_of_mem_appearances appears]
    exact (complete_of_mem_played gameMember).length
  refine ⟨Standing.name_absorbAll _ _, ?_, ?_⟩
  · rw [Standing.matchesPlayed_absorbAll, appearances]
    exact Nat.zero_add _
  · rw [Standing.roundsPlayed_absorbAll, Match.sum_roundCount lengths, appearances]
    exact Nat.zero_add _

theorem complete_playAll (payoff : Payoff) (rounds : UInt32)
    (fits : competitors.length * (competitors.length - 1) ≤ 2 ^ 62)
    (distinct : (competitors.map Competitor.name).Nodup) :
    (playAll payoff competitors rounds).Complete payoff (competitors.map Competitor.name)
      rounds := by
  have size : (competitors.map Competitor.name).length = competitors.length :=
    List.length_map _
  refine ⟨?_, ?_, fun _ => complete_of_mem_played,
    names_recordAll_perm payoff rounds distinct _, ?_⟩
  · rw [size]
    exact length_played payoff competitors rounds
  · rw [size]
    intro index within
    rcases players_played payoff rounds within with ⟨game, played, first, second⟩
    exact ⟨_, _, game, Pairing.ofMatchWithin?_eq fits within, played, first, second⟩
  · rw [size]
    exact fun entry => totals_playAll distinct

/-- A field that has kept the names of its entries plays to the end. -/
theorem Founded.complete {State : Type} {interpreter : Interpreter State} {start cache : Cache}
    {entries : List Entry} (founded : Founded interpreter start entries competitors cache)
    (payoff : Payoff) (rounds : UInt32)
    (fits : entries.length * (entries.length - 1) ≤ 2 ^ 62)
    (distinct : (entries.map Entry.name).Nodup) :
    (playAll payoff competitors rounds).Complete payoff (entries.map Entry.name) rounds := by
  have kept : competitors.map Competitor.name = entries.map Entry.name := by
    rw [← founded.entries, List.map_map]
    rfl
  have lengths := congrArg List.length kept
  rw [List.length_map, List.length_map] at lengths
  rw [← kept]
  refine complete_playAll payoff rounds ?_ ?_
  · rw [lengths]
    exact fits
  · rw [kept]
    exact distinct

/-- Whatever translator and decision functions do, and in whatever order workers have their
turns, a tournament that passes the setup check is played to its end. It does come to an end:
in turn, and by workers that are not kept waiting for ever. -/
theorem run_completes {State : Type} (settings : TournamentSettings)
    (interpreter : Interpreter State) (entries : List Entry) (rounds : UInt32)
    (progress : Interpreter.Progress State)
    (fits : entries.length * (entries.length - 1) ≤ 2 ^ 62)
    (distinct : (entries.map Entry.name).Nodup)
    (nonblank : ∀ name ∈ entries.map Entry.name, Setup.isBlankName name = false)
    (admitted : rounds ≤ settings.maxRounds) :
    Runs settings interpreter entries rounds progress
      (run settings interpreter entries rounds progress).1
      (run settings interpreter entries rounds progress).2 ∧
    (∀ schedule : List Nat, settings.parallel = true →
      (∀ place < entries.length, interpreter.settings.retries + 3 ≤ schedule.count place) →
      let field := Batch.finish interpreter entries
        (Batch.run interpreter entries schedule (Batch.start entries progress))
      Runs settings interpreter entries rounds progress
        (.ok (playAll settings.payoff field.1 rounds)) field.2) ∧
    ∀ result after, Runs settings interpreter entries rounds progress result after →
      ∃ report, result = .ok report ∧
        report.Complete settings.payoff (entries.map Entry.name) rounds := by
  have passed := Setup.check_eq_ok.mpr ⟨admitted, nonblank, distinct⟩
  refine ⟨runs_run settings interpreter entries rounds progress, fun schedule allowed =>
    runs_of_fair interpreter progress passed allowed, fun result after runs => ?_⟩
  rcases runs.founded passed with ⟨competitors, founded, rfl⟩
  exact ⟨_, rfl, founded.complete settings.payoff rounds fits distinct⟩

/-- No answer ever comes, and the fallback does nothing but crash. -/
theorem run_completes_helpless :
    let interpreter : Interpreter Unit :=
      ⟨⟨fun _ state => (⟨.crashes, ⟨0⟩, []⟩, state)⟩, .standard,
        ⟨0, "crash", fun _ => .crashes none⟩⟩
    let entries : List Entry := [⟨"left", "grim"⟩, ⟨"right", "pavlov"⟩, ⟨"copy", "GRIM"⟩]
    ∃ report, (run .standard interpreter entries 2 (.start ())).1 = .ok report ∧
      report.Complete .classic ["left", "right", "copy"] 2 := by
  intro interpreter entries
  rcases run_completes .standard interpreter entries 2 (.start ()) (by decide) (by decide +kernel)
    (by decide +kernel) (by decide) with ⟨runs, -, every⟩
  exact every _ _ runs

end Tournament

end Dilemma
