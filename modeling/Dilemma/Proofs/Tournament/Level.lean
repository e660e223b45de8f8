import Dilemma.Proofs.Play.Namelessness
import Dilemma.Proofs.Tournament.Courses
import Dilemma.Proofs.Tournament.Reordering

/-! # Players on a level

Two competitors with one and the same logic meet the same opponents, and no opponent
can tell them from each other. Against each other neither gets ahead. So what their
matches come to is the same for both.

Standings do not depend on the order of the field, so each of the two can be thought of
as the last one. It then has all its matches in a row, and in the second seat. -/

namespace Dilemma

open Interpreter (Progress)

/-! ## Standings on a level -/

theorem Match.tally_congr {first second : Match}
    (same : first.rounds.map Round.nameless = second.rounds.map Round.nameless) (seat : Seat) :
    first.tally seat = second.tally seat := by
  have movesSame := congrArg (moves seat) same
  have scoresSame := congrArg (scores seat) same
  have lengths := congrArg List.length same
  rw [moves_nameless, moves_nameless] at movesSame
  rw [scores_nameless, scores_nameless] at scoresSame
  rw [List.length_map, List.length_map] at lengths
  simp only [tally, total, cooperations, roundCount, movesSame, scoresSame, lengths,
    length_anomaliesOf_congr same seat]

namespace Standing

/-- Nothing but the names and what the entries say about themselves is different. -/
structure Level (first second : Standing) : Prop where
  totalScore : first.totalScore = second.totalScore
  matchesPlayed : first.matchesPlayed = second.matchesPlayed
  roundsPlayed : first.roundsPlayed = second.roundsPlayed
  cooperations : first.cooperations = second.cooperations
  anomalies : first.anomalies = second.anomalies
  logic : first.logic = second.logic

theorem level_ofAppearances {first second : Competitor} {seen other : List (Match × Seat)}
    (logic : first.logic = second.logic)
    (tallies : seen.map (fun appearance => appearance.1.tally appearance.2) =
      other.map fun appearance => appearance.1.tally appearance.2) :
    (ofAppearances first seen).Level (ofAppearances second other) := by
  have counted {α : Type} (part : Tally → α) :
      seen.map (fun appearance => part (appearance.1.tally appearance.2)) =
        other.map fun appearance => part (appearance.1.tally appearance.2) := by
    have parts := congrArg (List.map part) tallies
    rw [List.map_map, List.map_map] at parts
    exact parts
  constructor
  · exact congrArg List.sum (counted (·.score))
  · have lengths := congrArg List.length tallies
    rw [List.length_map, List.length_map] at lengths
    exact lengths
  · exact congrArg List.sum (counted (·.rounds))
  · exact congrArg List.sum (counted (·.cooperations))
  · exact congrArg List.sum (counted (·.anomalies))
  · exact congrArg Logic.description logic

end Standing

/-! ## The last of the field -/

theorem Pairing.mem_of_mem_meetings {α : Type} {members : List α} {pair : α × α}
    (met : pair ∈ meetings members) : pair.1 ∈ members ∧ pair.2 ∈ members := by
  rcases List.mem_filterMap.mp met with ⟨places, _, found⟩
  rw [membersAt?] at found
  cases first : members[places.1]? with
  | none =>
      rw [first] at found
      cases found
  | some left =>
      cases second : members[places.2]? with
      | none =>
          rw [first, second] at found
          cases found
      | some right =>
          rw [first, second] at found
          cases found
          exact ⟨List.mem_of_getElem? first, List.mem_of_getElem? second⟩

namespace Tournament

open Pairing (meetings unordered mem_of_mem_meetings)

variable {competitors others : List Competitor} {left right last : Competitor}

theorem appearances_last (payoff : Payoff) (rounds : UInt32)
    (distinct : ((others ++ [last]).map Competitor.name).Nodup) :
    (playAll payoff (others ++ [last]) rounds).played.flatMap (Match.appearances last.name) =
      others.map fun other => (.play payoff other last rounds, .b) := by
  have apart : ∀ other ∈ others, other.name ≠ last.name := by
    rw [List.map_append, List.nodup_append] at distinct
    exact fun other member => distinct.2.2 other.name (List.mem_map_of_mem member) last.name
      (List.mem_singleton.mpr rfl)
  rw [played_eq_meetings, Pairing.meetings_append_singleton, List.map_append, List.flatMap_append,
    List.flatMap_map, List.flatMap_map, List.flatMap_map]
  have before : (meetings others).flatMap (fun pair =>
      Match.appearances last.name (.play payoff pair.1 pair.2 rounds)) = [] := by
    refine List.flatMap_eq_nil_iff.mpr fun pair met => ?_
    rcases mem_of_mem_meetings met with ⟨first, second⟩
    simp [Match.appearances, Match.player, Match.play, apart _ first, apart _ second]
  have after : ∀ other ∈ others,
      Match.appearances last.name (.play payoff other last rounds) =
        [(.play payoff other last rounds, .b)] := by
    intro other member
    simp [Match.appearances, Match.player, Match.play, apart other member]
  rw [before, List.nil_append, List.flatMap_congr after]
  exact List.map_eq_flatMap.symm

/-- Each competitor stands there with all its appearances behind it. -/
theorem entries_playAll_perm (payoff : Payoff) (rounds : UInt32)
    (distinct : (competitors.map Competitor.name).Nodup) :
    (playAll payoff competitors rounds).standings.entries.Perm
      (competitors.map fun competitor =>
        (competitor.name, .ofAppearances competitor
          ((playAll payoff competitors rounds).played.flatMap
            (Match.appearances competitor.name)))) := by
  rw [played_playAll]
  exact Report.entries_recordAll_start payoff rounds distinct _

theorem values_playAll_perm (payoff : Payoff) (rounds : UInt32)
    (distinct : (competitors.map Competitor.name).Nodup) :
    (playAll payoff competitors rounds).standings.values.Perm
      (competitors.map fun competitor => .ofAppearances competitor
        ((playAll payoff competitors rounds).played.flatMap
          (Match.appearances competitor.name))) := by
  rw [played_playAll]
  exact Report.values_recordAll_start payoff rounds distinct _

theorem standing?_playAll (payoff : Payoff) (rounds : UInt32)
    (distinct : (competitors.map Competitor.name).Nodup) {competitor : Competitor}
    (member : competitor ∈ competitors) :
    (playAll payoff competitors rounds).standing? competitor.name =
      some (.ofAppearances competitor
        ((playAll payoff competitors rounds).played.flatMap
          (Match.appearances competitor.name))) := by
  have entries := entries_playAll_perm payoff rounds distinct
  have names := entries.map (·.1)
  rw [List.map_map] at names
  rw [Report.standing?, NameMap.get?, find?_of_mem (names.nodup_iff.mpr distinct)
    (entries.mem_iff.mpr (List.mem_map_of_mem member))]
  rfl

/-- The last of the field has a match with each of the others behind it. -/
theorem standing_last (payoff : Payoff) (rounds : UInt32)
    (permuted : competitors.Perm (others ++ [last]))
    (distinct : (competitors.map Competitor.name).Nodup) :
    (playAll payoff competitors rounds).standing? last.name =
      some (.ofAppearances last
        (others.map fun other => (.play payoff other last rounds, .b))) := by
  have distinctToo := (permuted.map Competitor.name).nodup_iff.mp distinct
  have member : last ∈ others ++ [last] :=
    List.mem_append_right others (List.mem_singleton_self last)
  rw [← appearances_last payoff rounds distinctToo,
    ← standing?_playAll payoff rounds distinctToo member, Report.standing?, Report.standing?,
    standings_playAll_perm payoff rounds permuted distinct]

/-- Any two of a field can be thought of as the last two, in either order. -/
theorem exists_perm_last {α : Type} {members : List α} {left right : α}
    (leftMember : left ∈ members) (rightMember : right ∈ members) (different : left ≠ right) :
    ∃ others, members.Perm (others ++ [left] ++ [right]) ∧
      members.Perm (others ++ [right] ++ [left]) := by
  rcases List.append_of_mem leftMember with ⟨before, after, rfl⟩
  have remains : right ∈ before ++ after := by
    simpa [Ne.symm different] using rightMember
  rcases List.append_of_mem remains with ⟨earlier, later, split⟩
  have moved : (before ++ left :: after).Perm (left :: right :: (earlier ++ later)) := by
    refine List.perm_middle.trans (.cons left ?_)
    rw [split]
    exact List.perm_middle
  have last (first second : α) :
      (first :: second :: (earlier ++ later)).Perm (earlier ++ later ++ [second] ++ [first]) :=
    ((List.perm_append_singleton second _).symm.cons first).trans
      (List.perm_append_singleton first _).symm
  exact ⟨earlier ++ later, moved.trans ((List.Perm.swap ..).trans (last right left)),
    moved.trans (last left right)⟩

/-- The two have the same matches, and the one between them counts the same for both. -/
theorem level_playAll (payoff : Payoff) (rounds : UInt32)
    (distinct : (competitors.map Competitor.name).Nodup) (leftMember : left ∈ competitors)
    (rightMember : right ∈ competitors) (different : left ≠ right)
    (logic : left.logic = right.logic) :
    ∃ first second, (playAll payoff competitors rounds).standing? left.name = some first ∧
      (playAll payoff competitors rounds).standing? right.name = some second ∧
      first.Level second := by
  rcases exists_perm_last leftMember rightMember different with ⟨others, rightLast, leftLast⟩
  refine ⟨_, _, standing_last payoff rounds leftLast distinct,
    standing_last payoff rounds rightLast distinct, Standing.level_ofAppearances logic ?_⟩
  have tallies {a b a' b' : Competitor} (firsts : a.logic = a'.logic)
      (seconds : b.logic = b'.logic) :
      (Match.play payoff a b rounds).tally .b = (Match.play payoff a' b' rounds).tally .b :=
    Match.tally_congr (Match.playRounds_nameless firsts seconds payoff rounds.toNat) .b
  rw [List.map_map, List.map_map, List.map_append, List.map_append]
  refine congrArg₂ (· ++ ·) (List.map_congr_left fun other _ => tallies rfl logic) ?_
  exact congrArg ([·]) (tallies logic.symm logic)

end Tournament

/-! ## Matches between two -/

/-- The one sits in this seat and the other across. -/
structure Match.Between (game : Match) (seat : Seat) (own other : String) : Prop where
  own : game.player seat = own
  other : game.player seat.other = other

namespace Tournament

open Pairing (meetings)

variable {competitors : List Competitor} {left right : Competitor} {payoff : Payoff}
  {rounds : UInt32}

theorem exists_between (payoff : Payoff) (rounds : UInt32) (leftMember : left ∈ competitors)
    (rightMember : right ∈ competitors) (different : left ≠ right) :
    ∃ game ∈ (playAll payoff competitors rounds).played, ∃ seat,
      game.Between seat left.name right.name := by
  rcases exists_perm_last leftMember rightMember different with ⟨others, permuted, _⟩
  have met : (left, right) ∈ meetings (others ++ [left] ++ [right]) := by
    rw [Pairing.meetings_append_singleton]
    refine List.mem_append_right _ (List.mem_map.mpr ⟨left, ?_, rfl⟩)
    exact List.mem_append_right _ (List.mem_singleton_self left)
  have unorderedMet := (Pairing.meetings_perm permuted).mem_iff.mpr (List.mem_map_of_mem met)
  rcases List.mem_map.mp unorderedMet with ⟨pair, here, same⟩
  refine ⟨.play payoff pair.1 pair.2 rounds, ?_, ?_⟩
  · rw [played_eq_meetings]
    exact List.mem_map_of_mem here
  · rcases Sym2.eq_iff.mp same with ⟨first, second⟩ | ⟨first, second⟩
    · exact ⟨.a, congrArg Competitor.name first, congrArg Competitor.name second⟩
    · exact ⟨.b, congrArg Competitor.name second, congrArg Competitor.name first⟩

/-- With distinct names, the players of a match are known from their names. -/
theorem play_of_between (distinct : (competitors.map Competitor.name).Nodup) {game : Match}
    {seat : Seat} (member : game ∈ (playAll payoff competitors rounds).played)
    (leftMember : left ∈ competitors) (rightMember : right ∈ competitors)
    (between : game.Between seat left.name right.name) :
    seat = .a ∧ game = .play payoff left right rounds ∨
      seat = .b ∧ game = .play payoff right left rounds := by
  have one := List.inj_on_of_nodup_map distinct
  rcases mem_played member with ⟨a, aMember, b, bMember, rfl⟩
  cases seat with
  | a =>
      cases one aMember leftMember between.own
      cases one bMember rightMember between.other
      exact .inl ⟨rfl, rfl⟩
  | b =>
      cases one bMember leftMember between.own
      cases one aMember rightMember between.other
      exact .inr ⟨rfl, rfl⟩

/-- From the seat of a player, a match is the one that its logic plays from the first seat. -/
theorem seenFrom_played (distinct : (competitors.map Competitor.name).Nodup) {game : Match}
    {seat : Seat} (member : game ∈ (playAll payoff competitors rounds).played)
    (leftMember : left ∈ competitors) (rightMember : right ∈ competitors)
    (between : game.Between seat left.name right.name) :
    game.seenFrom seat = Match.playRounds payoff left right rounds.toNat := by
  rcases play_of_between distinct member leftMember rightMember between with
    ⟨rfl, rfl⟩ | ⟨rfl, rfl⟩
  · rfl
  · exact (Match.playRounds_mirror payoff right left rounds.toNat).symm

end Tournament

/-! ## Two entries with one logic -/

/-- Two of these names finish level: their standings agree, neither gets ahead of the
other in a match between them, and a third sees no difference. -/
structure Report.Level (report : Report) (names : List String) (left right : String) : Prop where
  standings : ∃ first second, report.standing? left = some first ∧
    report.standing? right = some second ∧ first.Level second
  met : ∃ game ∈ report.played, ∃ seat, game.Between seat left right
  even : ∀ game ∈ report.played, ∀ seat, game.Between seat left right →
    (∀ round ∈ game.rounds, round.moveA = round.moveB) ∧ game.winner = none
  leftMet : ∀ third ∈ names, third ≠ left →
    ∃ game ∈ report.played, ∃ seat, game.Between seat left third
  rightMet : ∀ third ∈ names, third ≠ right →
    ∃ game ∈ report.played, ∃ seat, game.Between seat right third
  alike : ∀ third ∈ names, third ≠ left → third ≠ right →
    ∀ first ∈ report.played, ∀ second ∈ report.played, ∀ firstSeat secondSeat,
      first.Between firstSeat left third → second.Between secondSeat right third →
        Match.Alike first second firstSeat secondSeat

namespace Tournament

variable {State : Type} {competitors : List Competitor} {left right : Competitor}

theorem report_level (payoff : Payoff) (rounds : UInt32)
    (distinct : (competitors.map Competitor.name).Nodup) (leftMember : left ∈ competitors)
    (rightMember : right ∈ competitors) (different : left.name ≠ right.name)
    (logic : left.logic = right.logic) :
    (playAll payoff competitors rounds).Level (competitors.map Competitor.name) left.name
      right.name := by
  have apart {one other : Competitor} (names : one.name ≠ other.name) : one ≠ other :=
    fun equal => names (congrArg Competitor.name equal)
  have met {one : Competitor} (member : one ∈ competitors) (third : String)
      (named : third ∈ competitors.map Competitor.name) (names : third ≠ one.name) :
      ∃ game ∈ (playAll payoff competitors rounds).played, ∃ seat,
        game.Between seat one.name third := by
    rcases List.mem_map.mp named with ⟨other, otherMember, rfl⟩
    exact exists_between payoff rounds member otherMember (apart names.symm)
  constructor
  · exact level_playAll payoff rounds distinct leftMember rightMember (apart different) logic
  · exact exists_between payoff rounds leftMember rightMember (apart different)
  · intro game member seat between
    rcases play_of_between distinct member leftMember rightMember between with
      ⟨_, rfl⟩ | ⟨_, rfl⟩
    · exact Match.play_even logic payoff rounds
    · exact Match.play_even logic.symm payoff rounds
  · exact met leftMember
  · exact met rightMember
  · intro third named _ _ first firstMember second secondMember firstSeat secondSeat
    rcases List.mem_map.mp named with ⟨other, otherMember, rfl⟩
    intro leftBetween rightBetween
    apply Match.alike_of_nameless
    rw [seenFrom_played distinct firstMember leftMember otherMember leftBetween,
      seenFrom_played distinct secondMember rightMember otherMember rightBetween]
    exact Match.playRounds_nameless logic rfl payoff rounds.toNat

/-- Who is said to play the fallback does so. -/
theorem mem_degraded (payoff : Payoff) (rounds : UInt32)
    (distinct : (competitors.map Competitor.name).Nodup) {standing : Standing}
    (member : standing ∈ (playAll payoff competitors rounds).degraded) :
    ∃ competitor ∈ competitors, competitor.name = standing.name ∧ competitor.isDegraded = true := by
  rw [Report.degraded, List.mem_filter] at member
  rcases List.mem_map.mp ((values_playAll_perm payoff rounds distinct).mem_iff.mp member.1) with
    ⟨competitor, known, rfl⟩
  exact ⟨competitor, known, rfl, member.2⟩

theorem degraded_of_mem (payoff : Payoff) (rounds : UInt32)
    (distinct : (competitors.map Competitor.name).Nodup) (leftMember : left ∈ competitors)
    (listed : ∃ standing ∈ (playAll payoff competitors rounds).degraded,
      standing.name = left.name) : left.isDegraded = true := by
  rcases listed with ⟨standing, member, named⟩
  rcases mem_degraded payoff rounds distinct member with ⟨competitor, known, same, degraded⟩
  rw [← List.inj_on_of_nodup_map distinct known leftMember (same.trans named)]
  exact degraded

/-- Entries with the same key finish level. So do entries that both play the fallback, as
long as the cache holds nothing but interpretations with this fallback. -/
theorem run_level (settings : TournamentSettings) (interpreter : Interpreter State)
    (entries : List Entry) (rounds : UInt32) (before : Progress State)
    (distinct : (entries.map Entry.name).Nodup)
    (nonblank : ∀ name ∈ entries.map Entry.name, Setup.isBlankName name = false)
    (admitted : rounds ≤ settings.maxRounds) :
    (∃ result after, run settings interpreter entries rounds before = (result, after) ∧
      Runs settings interpreter entries rounds before result after) ∧
    ∀ result after, Runs settings interpreter entries rounds before result after →
      ∃ report, result = .ok report ∧
        ∀ left ∈ entries, ∀ right ∈ entries, left.name ≠ right.name →
          (StrategyKey.ofText left.text = .ofText right.text ∨
            interpreter.Unaided before.cache ∧
              (∃ standing ∈ report.degraded, standing.name = left.name) ∧
              ∃ standing ∈ report.degraded, standing.name = right.name) →
          report.Level (entries.map Entry.name) left.name right.name := by
  have passed := Setup.check_eq_ok.mpr ⟨admitted, nonblank, distinct⟩
  refine ⟨⟨_, _, rfl, runs_run settings interpreter entries rounds before⟩, ?_⟩
  intro result after runs
  rcases runs.founded passed with ⟨competitors, founded, rfl⟩
  refine ⟨_, rfl, ?_⟩
  rcases founded with ⟨enlarged, rfl, backed⟩
  have named : (competitors.map (·.entry)).map Entry.name = competitors.map Competitor.name :=
    List.map_map
  rw [named] at distinct ⊢
  intro left leftEntered right rightEntered different reason
  rcases List.mem_map.mp leftEntered with ⟨first, firstMember, rfl⟩
  rcases List.mem_map.mp rightEntered with ⟨second, secondMember, rfl⟩
  refine report_level settings.payoff rounds distinct firstMember secondMember different ?_
  rcases reason with sameKey | ⟨unaided, firstDegraded, secondDegraded⟩
  · exact (backed first firstMember).logic_eq (backed second secondMember) sameKey
  · have alone := enlarged.unaided unaided
    have firstFalls := degraded_of_mem settings.payoff rounds distinct firstMember firstDegraded
    have secondFalls := degraded_of_mem settings.payoff rounds distinct secondMember secondDegraded
    rw [alone.logic_eq (backed first firstMember) firstFalls,
      alone.logic_eq (backed second secondMember) secondFalls]

/-- Two entries bear a grudge, two are not understood, and the fallback does nothing but
crash. -/
theorem run_level_helpless :
    let translator : Translator Unit := ⟨fun request state =>
      (⟨if request.text = "bear a grudge" then .returns (.ok (.template "grim_trigger"))
        else .crashes, ⟨0⟩, []⟩, state)⟩
    let interpreter : Interpreter Unit :=
      ⟨translator, .standard, ⟨0, "crash", fun _ => .crashes none⟩⟩
    let entries : List Entry := [⟨"left", "Bear a grudge"⟩, ⟨"lost", "qwertz"⟩,
      ⟨"right", "bear  a grudge"⟩, ⟨"missed", "asdf"⟩]
    let names := ["left", "lost", "right", "missed"]
    ∃ report, (run .standard interpreter entries 3 (.start ())).1 = .ok report ∧
      report.Level names "left" "right" ∧ report.Level names "lost" "missed" ∧
      report.scores = [("left", 13), ("lost", 17), ("missed", 17), ("right", 13)] := by
  intro translator interpreter entries names
  rcases run_level .standard interpreter entries 3 (.start ()) (by decide +kernel)
      (by decide +kernel) (by decide) with ⟨_, leveled⟩
  rcases leveled _ _ (runs_run ..) with ⟨report, ran, level⟩
  have shown : (run .standard interpreter entries 3 (.start ())).1.toOption.map
      (fun report => (report.scores, report.degraded.map (·.name))) =
        some ([("left", 13), ("lost", 17), ("missed", 17), ("right", 13)], ["lost", "missed"]) := by
    decide +kernel
  rw [ran, Except.toOption, Option.map_some, Option.some.injEq, Prod.mk.injEq] at shown
  have degraded : ∀ name ∈ ["lost", "missed"], ∃ standing ∈ report.degraded,
      standing.name = name := by
    rw [← shown.2]
    exact fun name member => List.mem_map.mp member
  have unaided : interpreter.Unaided (Progress.start ()).cache :=
    ⟨fun _ member => (List.not_mem_nil member).elim,
      fun _ _ _ member => (List.not_mem_nil member).elim⟩
  refine ⟨report, ran, ?_, ?_, shown.1⟩
  · exact level ⟨"left", "Bear a grudge"⟩ (by simp [entries]) ⟨"right", "bear  a grudge"⟩
      (by simp [entries]) (by decide) (.inl (by decide +kernel))
  · exact level ⟨"lost", "qwertz"⟩ (by simp [entries]) ⟨"missed", "asdf"⟩ (by simp [entries])
      (by decide) (.inr ⟨unaided, degraded "lost" (by simp), degraded "missed" (by simp)⟩)

end Tournament

end Dilemma
