import Dilemma.Proofs.Tournament.Level
import Dilemma.Proofs.Tournament.Numbering

/-! # A newcomer

One more participant at the end of the field adds its matches at the end of the record. It
sits in the second seat of them, and the others come in the order of the field. Whatever was
played without it is played and counted as before, so a standing changes by the one match
against the newcomer. -/

namespace Dilemma

namespace Standing

theorem ofAppearances_append (competitor : Competitor) (seen later : List (Match × Seat)) :
    ofAppearances competitor (seen ++ later) =
      (ofAppearances competitor seen).absorbAll later := by
  rw [← absorbAll_start, absorbAll_append, absorbAll_start]

theorem absorbAll_singleton (game : Match) (seat : Seat) (standing : Standing) :
    standing.absorbAll [(game, seat)] = standing.add (game.tally seat) := rfl

end Standing

namespace Setup

/-- Names that pass together pass in part. -/
theorem check_of_append {limit rounds : UInt32} {names more : List String}
    (passed : check limit rounds (names ++ more) = .ok ()) : check limit rounds names = .ok () := by
  rcases check_eq_ok.mp passed with ⟨admitted, nonblank, distinct⟩
  exact check_eq_ok.mpr ⟨admitted, fun name member => nonblank name (List.mem_append_left _ member),
    (List.nodup_append.mp distinct).1⟩

end Setup

namespace Tournament

open Pairing (schedule scheduleWithin)

variable {competitors : List Competitor} {newcomer : Competitor}

theorem played_append_singleton (payoff : Payoff) (rounds : UInt32) :
    (playAll payoff (competitors ++ [newcomer]) rounds).played =
      (playAll payoff competitors rounds).played ++
        competitors.map fun member => .play payoff member newcomer rounds := by
  rw [played_eq_meetings, played_eq_meetings, Pairing.meetings_append_singleton, List.map_append,
    List.map_map]
  rfl

/-- Seen from a member, a match of the newcomer is its own or none of its business. -/
theorem appearances_newcomer (payoff : Payoff) (rounds : UInt32) {member other : Competitor}
    (apart : newcomer.name ≠ member.name) :
    Match.appearances member.name (.play payoff other newcomer rounds) =
      if other.name = member.name then [(.play payoff other newcomer rounds, .a)] else [] := by
  by_cases own : other.name = member.name
  · simp [Match.appearances, Match.player, Match.play, own, apart]
  · simp [Match.appearances, Match.player, Match.play, own, apart]

/-- Among the matches of the newcomer, there is one with the name of a member. -/
theorem appearances_fresh (payoff : Payoff) (rounds : UInt32)
    (distinct : ((competitors ++ [newcomer]).map Competitor.name).Nodup) {member : Competitor}
    (known : member ∈ competitors) :
    (competitors.map fun other => Match.play payoff other newcomer rounds).flatMap
        (Match.appearances member.name) =
      [(.play payoff member newcomer rounds, .a)] := by
  rw [List.map_append, List.nodup_append] at distinct
  rcases distinct with ⟨distinct, _, separate⟩
  have apart : newcomer.name ≠ member.name :=
    (separate _ (List.mem_map_of_mem known) _ (List.mem_singleton_self _)).symm
  -- Nobody in front of the member or behind it has its name.
  rcases List.append_of_mem known with ⟨front, behind, rfl⟩
  have unrepeated : ∀ other ∈ front ++ behind, other.name ≠ member.name := by
    rw [List.map_append, List.map_cons, List.nodup_middle, ← List.map_append,
      List.nodup_cons] at distinct
    exact fun other there same => distinct.1 (same ▸ List.mem_map_of_mem there)
  have nowhere {part : List Competitor} (within : part ⊆ front ++ behind) :
      (part.map fun other => Match.play payoff other newcomer rounds).flatMap
        (Match.appearances member.name) = [] := by
    rw [List.flatMap_map, List.flatMap_eq_nil_iff]
    intro other there
    rw [appearances_newcomer payoff rounds apart, if_neg (unrepeated other (within there))]
  rw [List.map_append, List.map_cons, List.flatMap_append, List.flatMap_cons,
    nowhere (List.subset_append_left ..), nowhere (List.subset_append_right ..),
    appearances_newcomer payoff rounds apart, if_pos rfl]
  rfl

/-- A standing changes by the match against the newcomer. -/
theorem standing?_append_singleton (payoff : Payoff) (rounds : UInt32)
    (distinct : ((competitors ++ [newcomer]).map Competitor.name).Nodup) {member : Competitor}
    (known : member ∈ competitors) :
    ∃ standing, (playAll payoff competitors rounds).standing? member.name = some standing ∧
      (playAll payoff (competitors ++ [newcomer]) rounds).standing? member.name =
        some (standing.add ((Match.play payoff member newcomer rounds).tally .a)) := by
  have before : (competitors.map Competitor.name).Nodup := by
    rw [List.map_append] at distinct
    exact (List.nodup_append.mp distinct).1
  refine ⟨_, standing?_playAll payoff rounds before known, ?_⟩
  rw [standing?_playAll payoff rounds distinct (List.mem_append_left _ known),
    played_append_singleton, List.flatMap_append, appearances_fresh payoff rounds distinct known,
    Standing.ofAppearances_append, Standing.absorbAll_singleton]

/-- Whatever was played and counted without the newcomer is still there. Behind it are the
matches of the newcomer, each of which counts for the newcomer and for one of the others. -/
theorem runInterpreted_append (settings : TournamentSettings) (rounds : UInt32)
    (competitors : List Competitor) (newcomer : Competitor)
    (passed : Setup.check settings.maxRounds rounds
      ((competitors ++ [newcomer]).map Competitor.name) = .ok ()) :
    let fresh := competitors.map fun member => Match.play settings.payoff member newcomer rounds
    let size := competitors.length
    ∃ before after, runInterpreted settings competitors rounds = .ok before ∧
      runInterpreted settings (competitors ++ [newcomer]) rounds = .ok after ∧
      after.played = before.played ++ fresh ∧
      after.standings.names.Perm (before.standings.names ++ [newcomer.name]) ∧
      (∀ member ∈ competitors, ∃ standing, before.standing? member.name = some standing ∧
        after.standing? member.name =
          some (standing.add ((Match.play settings.payoff member newcomer rounds).tally .a))) ∧
      after.standing? newcomer.name = some (.ofAppearances newcomer (fresh.map (·, .b))) ∧
      ((size + 1) * size ≤ 2 ^ 62 →
        scheduleWithin size = .ok (schedule size) ∧
        scheduleWithin (size + 1) = .ok (schedule size ++ (List.range size).map (·, size))) := by
  intro fresh size
  have distinct := (Setup.check_eq_ok.mp passed).2.2
  have passedBefore : Setup.check settings.maxRounds rounds
      (competitors.map Competitor.name) = .ok () := by
    rw [List.map_append] at passed
    exact Setup.check_of_append passed
  have distinctBefore := (Setup.check_eq_ok.mp passedBefore).2.2
  refine ⟨_, _, runInterpreted_of_check passedBefore, runInterpreted_of_check passed,
    played_append_singleton settings.payoff rounds, ?_,
    fun member => standing?_append_singleton settings.payoff rounds distinct, ?_, fun fits => ?_⟩
  · have names := names_recordAll_perm settings.payoff rounds distinctBefore
      ((schedule size).filterMap (playMatch? settings.payoff competitors rounds))
    refine (names_recordAll_perm settings.payoff rounds distinct _).trans ?_
    rw [List.map_append]
    exact (names.append_right _).symm
  · rw [standing_last settings.payoff rounds (.refl _) distinct, List.map_map]
    rfl
  · have smaller : size * (size - 1) ≤ 2 ^ 62 :=
      Nat.le_trans (Nat.mul_le_mul (Nat.le_succ size) (Nat.sub_le size 1)) fits
    rw [Pairing.scheduleWithin_eq smaller, Pairing.scheduleWithin_eq fits, Pairing.schedule_succ]
    exact ⟨rfl, rfl⟩

/-- Somebody who crashes all the time joins a grudge and a friend. -/
theorem runInterpreted_append_crash :
    let grim : Competitor := .ofTemplate "grim" .grimTrigger
    let nice : Competitor := .ofTemplate "nice" .alwaysCooperate
    let crash : Competitor :=
      ⟨⟨"crash", "?"⟩, .fallback ⟨0, "crash", fun _ => .crashes none⟩, .fallback, some "lost"⟩
    ∃ before after, runInterpreted .standard [grim, nice] 3 = .ok before ∧
      runInterpreted .standard [grim, nice, crash] 3 = .ok after ∧
      after.played = before.played ++
        [.play .classic grim crash 3, .play .classic nice crash 3] ∧
      before.scores = [("grim", 9), ("nice", 9)] ∧
      after.scores = [("crash", 22), ("grim", 11), ("nice", 9)] := by
  intro grim nice crash
  rcases runInterpreted_append .standard 3 [grim, nice] crash (by decide +kernel) with
    ⟨before, after, ranBefore, ranAfter, played, _⟩
  obtain rfl := Except.ok.inj (ranBefore.symm.trans (runInterpreted_of_check (by decide +kernel)))
  obtain rfl := Except.ok.inj (ranAfter.symm.trans (runInterpreted_of_check (by decide +kernel)))
  exact ⟨_, _, ranBefore, ranAfter, played, by decide +kernel, by decide +kernel⟩

end Tournament

end Dilemma
