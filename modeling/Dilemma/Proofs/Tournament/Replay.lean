import Mathlib.Data.List.Forall2
import Dilemma.Proofs.Tournament.Completion
import Dilemma.Proofs.Tournament.Courses

/-! # A tournament once more

After a tournament the cache backs the whole field. A second tournament with the same
entries is therefore served from the cache alone, whatever has become of the translator
in between. Its report is the first one with everybody marked as cached. -/

namespace Dilemma

open Interpreter (Progress)

variable {State Other : Type}

/-! ## Serving a field -/

namespace Tournament

variable {competitors : List Competitor} {progress : Progress State}

/-- Each outcome is what the cache holds for its competitor, or nothing yet. -/
def Served : List Competitor → List (Entry × Option Competitor) → Prop :=
  List.Forall₂ fun competitor outcome => outcome.1 = competitor.entry ∧
    (outcome.2 = none ∨ outcome.2 = some competitor.asCached)

theorem interpretFirsts_served (interpreter : Interpreter State)
    (backed : ∀ competitor ∈ competitors, competitor.BackedBy progress.cache)
    (seen : List StrategyKey) :
    ∃ outcomes, interpretFirsts interpreter seen (competitors.map (·.entry)) progress =
      (outcomes, progress) ∧ Served competitors outcomes := by
  induction competitors generalizing seen with
  | nil => exact ⟨[], rfl, .nil⟩
  | cons competitor rest induction =>
      rcases List.forall_mem_cons.mp backed with ⟨known, others⟩
      rw [List.map_cons, interpretFirsts]
      split
      · rcases induction others seen with ⟨outcomes, reached, served⟩
        rw [reached]
        exact ⟨_, rfl, .cons ⟨rfl, .inl rfl⟩ served⟩
      · rcases induction others (.ofText competitor.entry.text :: seen) with
          ⟨outcomes, reached, served⟩
        rw [interpreter.interpret_backed known]
        dsimp only
        rw [reached]
        exact ⟨_, rfl, .cons ⟨rfl, .inr rfl⟩ served⟩

theorem interpretRepeats_served (interpreter : Interpreter State)
    {outcomes : List (Entry × Option Competitor)}
    (backed : ∀ competitor ∈ competitors, competitor.BackedBy progress.cache)
    (served : Served competitors outcomes) :
    interpretRepeats interpreter outcomes progress = (competitors.map (·.asCached), progress) := by
  induction served with
  | nil => rfl
  | @cons competitor outcome _ _ first _ induction =>
      rcases List.forall_mem_cons.mp backed with ⟨known, others⟩
      rcases outcome with ⟨entry, result⟩
      rcases first with ⟨rfl, rfl | rfl⟩
      · rw [interpretRepeats, interpreter.interpret_backed known]
        dsimp only
        rw [induction others]
        rfl
      · rw [interpretRepeats, induction others]
        rfl

end Tournament

namespace Batch

variable (interpreter : Interpreter State) {competitors : List Competitor}
  {progress : Progress State} {batch : Batch State}

/-- No worker has more to do than to fetch a competitor from the cache. -/
structure Fetching (competitors : List Competitor) (progress : Progress State)
    (batch : Batch State) : Prop where
  untouched : batch.progress = progress
  stages : ∀ place competitor, competitors[place]? = some competitor →
    batch.stage place = .postponed ∨ batch.stage place = .waiting ∨
      batch.stage place = .done competitor.asCached

theorem fetching_start (competitors : List Competitor) (progress : Progress State) :
    Fetching competitors progress (Batch.start (competitors.map (·.entry)) progress) := by
  refine ⟨rfl, fun place competitor here => ?_⟩
  dsimp only [Batch.start]
  rw [List.getElem?_map, here, Option.map_some]
  dsimp only
  split
  · exact .inr (.inl rfl)
  · exact .inl rfl

theorem advance_backed {competitor : Competitor} {stage : Stage}
    (backed : competitor.BackedBy progress.cache)
    (fetching : stage = .postponed ∨ stage = .waiting ∨ stage = .done competitor.asCached) :
    interpreter.advance competitor.entry (stage, progress) = (stage, progress) ∨
      interpreter.advance competitor.entry (stage, progress) =
        (.done competitor.asCached, progress) := by
  rcases fetching with rfl | rfl | rfl
  · exact .inl rfl
  · rcases backed with ⟨stored, found, logic, reason⟩
    right
    rw [Interpreter.advance, found]
    simp only [Competitor.rebind, Competitor.asCached, logic, reason]
  · exact .inl rfl

theorem Fetching.turn (backed : ∀ competitor ∈ competitors, competitor.BackedBy progress.cache)
    (fetching : Fetching competitors progress batch) (place : Nat) :
    Fetching competitors progress
      (turn interpreter (competitors.map (·.entry)) batch place) := by
  rw [Batch.turn, List.getElem?_map]
  cases here : competitors[place]? with
  | none => exact fetching
  | some competitor =>
      have stage := fetching.stages place competitor here
      have known := backed competitor (List.mem_of_getElem? here)
      rw [Option.map_some]
      dsimp only
      rw [fetching.untouched]
      rcases advance_backed interpreter known stage with same | done
      · rw [same]
        refine ⟨rfl, fun other another there => ?_⟩
        dsimp only
        split
        · rename_i equal
          rw [← equal]
          exact fetching.stages other another there
        · exact fetching.stages other another there
      · rw [done]
        refine ⟨rfl, fun other another there => ?_⟩
        dsimp only
        split
        · rename_i equal
          subst equal
          cases here.symm.trans there
          exact .inr (.inr rfl)
        · exact fetching.stages other another there

theorem Fetching.run (backed : ∀ competitor ∈ competitors, competitor.BackedBy progress.cache)
    (fetching : Fetching competitors progress batch) (schedule : List Nat) :
    Fetching competitors progress
      (run interpreter (competitors.map (·.entry)) schedule batch) := by
  induction schedule generalizing batch with
  | nil => exact fetching
  | cons place rest induction => exact induction (Fetching.turn interpreter backed fetching place)

theorem Fetching.served (fetching : Fetching competitors progress batch) :
    Tournament.Served competitors ((competitors.map (·.entry)).mapIdx fun place entry =>
      (entry, (batch.stage place).result?)) := by
  refine List.forall₂_iff_get.mpr ⟨by simp, fun place within _ => ?_⟩
  have stage := fetching.stages place competitors[place] (List.getElem?_eq_getElem within)
  simp only [List.get_eq_getElem, List.getElem_mapIdx, List.getElem_map, true_and]
  rcases stage with postponed | waiting | done
  · rw [postponed]
    exact .inl rfl
  · rw [waiting]
    exact .inl rfl
  · rw [done]
    exact .inr rfl

end Batch

namespace Tournament

variable {interpreter : Interpreter State} {competitors : List Competitor}

/-- However a backed field is interpreted, everybody comes out of the cache. -/
theorem Interprets.backed {parallel : Bool} {entries : List Entry} {progress after : Progress State}
    {result : List Competitor} (named : competitors.map (·.entry) = entries)
    (backed : ∀ competitor ∈ competitors, competitor.BackedBy progress.cache)
    (interprets : Interprets parallel interpreter entries progress result after) :
    result = competitors.map (·.asCached) ∧ after = progress := by
  subst named
  cases interprets with
  | inTurn =>
      rcases interpretFirsts_served interpreter backed [] with ⟨outcomes, reached, served⟩
      have repeats := interpretRepeats_served interpreter backed served
      rw [interpretAll, reached]
      dsimp only
      rw [repeats]
      exact ⟨rfl, rfl⟩
  | @byWorkers schedule batch allowed ran finished =>
      have fetching := Batch.Fetching.run interpreter backed
        (Batch.fetching_start competitors progress) schedule
      rw [← ran] at fetching
      have repeats := interpretRepeats_served interpreter backed fetching.served
      rw [Batch.finish, fetching.untouched, repeats]
      exact ⟨rfl, rfl⟩

end Tournament

/-! ## Reports with everybody cached -/

namespace Standing

/-- The standing of a competitor that comes out of the cache. -/
def asCached (standing : Standing) : Standing := { standing with provenance := .cached }

theorem absorb_asCached (game : Match) (seat : Seat) (standing : Standing) :
    standing.asCached.absorb game seat = (standing.absorb game seat).asCached := rfl

end Standing

namespace NameMap

variable {α β : Type}

def map (change : α → β) (map : NameMap α) : NameMap β where
  entries := map.entries.map fun entry => (entry.1, change entry.2)
  sorted := List.pairwise_map.mpr map.sorted

theorem values_map (change : α → β) (map : NameMap α) :
    (map.map change).values = map.values.map change := by
  simp [NameMap.map, values]

theorem insert_map (change : α → β) (map : NameMap α) (name : String) (value : α) :
    (map.map change).insert name (change value) = (map.insert name value).map change := by
  have inserted (entries : List (String × α)) :
      insertInto name (change value) (entries.map fun entry => (entry.1, change entry.2)) =
        (insertInto name value entries).map fun entry => (entry.1, change entry.2) := by
    induction entries with
    | nil => rfl
    | cons entry rest induction =>
        rw [List.map_cons, insertInto, insertInto]
        split
        · rfl
        · split
          · rfl
          · rw [induction]
            rfl
  exact NameMap.ext (inserted map.entries)

theorem ofList_map (change : α → β) (pairs : List (String × α)) :
    ofList (pairs.map fun pair => (pair.1, change pair.2)) = (ofList pairs).map change := by
  suffices all : ∀ started : NameMap α,
      (pairs.map fun pair => (pair.1, change pair.2)).foldl
          (fun map pair => map.insert pair.1 pair.2) (started.map change) =
        (pairs.foldl (fun map pair => map.insert pair.1 pair.2) started).map change from
    all empty
  induction pairs with
  | nil => exact fun _ => rfl
  | cons pair rest induction =>
      intro started
      rw [List.map_cons, List.foldl_cons, List.foldl_cons, insert_map]
      exact induction _

theorem modify_map {change : α → β} {before : α → α} {after : β → β}
    (commute : ∀ value, after (change value) = change (before value)) (map : NameMap α)
    (name : String) :
    (map.map change).modify name after = (map.modify name before).map change := by
  refine NameMap.ext ?_
  simp only [NameMap.map, NameMap.modify, List.map_map]
  refine List.map_congr_left fun entry _ => ?_
  simp only [Function.comp_apply]
  split
  · rw [commute]
  · rfl

end NameMap

namespace Report

/-- The report with everybody out of the cache. -/
def asCached (report : Report) : Report :=
  { report with standings := report.standings.map .asCached }

theorem record_asCached (report : Report) (game : Match) :
    report.asCached.record game = (report.record game).asCached := by
  have absorbed (standings : NameMap Standing) (seat : Seat) :
      absorbSeat game (standings.map .asCached) seat =
        (absorbSeat game standings seat).map .asCached :=
    NameMap.modify_map (Standing.absorb_asCached game seat) standings _
  simp only [record, asCached, List.foldl_cons, List.foldl_nil, absorbed]

theorem recordAll_asCached (games : List Match) (report : Report) :
    games.foldl record report.asCached = (games.foldl record report).asCached := by
  induction games generalizing report with
  | nil => rfl
  | cons game rest induction => rw [List.foldl_cons, List.foldl_cons, record_asCached, induction]

theorem start_asCached (competitors : List Competitor) (rounds : UInt32) (payoff : Payoff) :
    start (competitors.map (·.asCached)) rounds payoff =
      (start competitors rounds payoff).asCached := by
  simp only [start, asCached, ← NameMap.ofList_map, List.map_map]
  rfl

/-- The second report says the same as the first, except that everybody is cached. -/
structure Repeats (first second : Report) : Prop where
  rounds : second.roundsPerMatch = first.roundsPerMatch
  payoff : second.payoff = first.payoff
  played : second.played = first.played
  standings : second.standings.entries =
    first.standings.entries.map fun entry => (entry.1, entry.2.asCached)
  scores : second.scores = first.scores
  leaderboard : second.leaderboard = first.leaderboard.map .asCached
  degraded : second.degraded = first.degraded.map .asCached

theorem repeats_asCached (report : Report) : report.Repeats report.asCached where
  rounds := rfl
  payoff := rfl
  played := rfl
  standings := rfl
  scores := by
    rw [scores, asCached, NameMap.map, List.map_map]
    rfl
  leaderboard := by
    have ranked : ∀ left ∈ report.standings.values, ∀ right ∈ report.standings.values,
        ranksBefore left right = ranksBefore left.asCached right.asCached :=
      fun _ _ _ _ => rfl
    rw [leaderboard, leaderboard, asCached, NameMap.values_map]
    exact (List.map_mergeSort ranked).symm
  degraded := by
    rw [degraded, degraded, asCached, NameMap.values_map, List.filter_map]
    rfl

end Report

theorem Match.play_asCached (payoff : Payoff) (a b : Competitor) (rounds : UInt32) :
    play payoff a.asCached b.asCached rounds = play payoff a b rounds := by
  have same (count : Nat) :
      playRounds payoff a.asCached b.asCached count = playRounds payoff a b count := by
    induction count with
    | zero => rfl
    | succ count induction =>
        rw [playRounds, playRounds, induction]
        rfl
  rw [play, play, same]
  rfl

namespace Tournament

variable {interpreter : Interpreter State} {entries : List Entry} {competitors : List Competitor}

theorem playMatch?_asCached (payoff : Payoff) (competitors : List Competitor) (rounds : UInt32)
    (pair : Nat × Nat) :
    playMatch? payoff (competitors.map (·.asCached)) rounds pair =
      playMatch? payoff competitors rounds pair := by
  rw [playMatch?, playMatch?, List.getElem?_map, List.getElem?_map]
  cases competitors[pair.1]? with
  | none => rfl
  | some a =>
      cases competitors[pair.2]? with
      | none => rfl
      | some b => exact congrArg some (Match.play_asCached payoff a b rounds)

theorem playAll_asCached (payoff : Payoff) (competitors : List Competitor) (rounds : UInt32) :
    playAll payoff (competitors.map (·.asCached)) rounds =
      (playAll payoff competitors rounds).asCached := by
  rw [playAll, playAll, List.length_map, Report.start_asCached, Report.recordAll_asCached]
  simp only [playMatch?_asCached]

/-! ## The second run -/

/-- A field that is in the cache plays again without anybody being asked. -/
theorem Runs.again {settings : TournamentSettings} {rounds : UInt32}
    {later final : Progress State} {result : Except SetupError Report}
    (named : competitors.map (·.entry) = entries)
    (backed : ∀ competitor ∈ competitors, competitor.BackedBy later.cache)
    (passed : Setup.check settings.maxRounds rounds (entries.map Entry.name) = .ok ())
    (runs : Runs settings interpreter entries rounds later result final) :
    result = .ok (playAll settings.payoff competitors rounds).asCached ∧ final = later := by
  cases runs with
  | refused failed =>
      rw [failed] at passed
      cases passed
  | played _ interprets =>
      rcases interprets.backed named backed with ⟨rfl, same⟩
      exact ⟨congrArg Except.ok (playAll_asCached settings.payoff competitors rounds), same⟩

/-- When a tournament has been played, it can be played again with the cache as it is
then. Nobody is asked, nothing is stored, and the report is the old one with everybody
cached, whatever order the workers have their turns in and whatever has become of the
translator. -/
theorem run_replayed (settings : TournamentSettings) (interpreter : Interpreter State)
    (entries : List Entry) (rounds : UInt32) (before : Progress State)
    (distinct : (entries.map Entry.name).Nodup)
    (nonblank : ∀ name ∈ entries.map Entry.name, Setup.isBlankName name = false)
    (admitted : rounds ≤ settings.maxRounds) :
    (∃ result after, run settings interpreter entries rounds before = (result, after) ∧
      Runs settings interpreter entries rounds before result after) ∧
    ∀ result after, Runs settings interpreter entries rounds before result after →
      ∃ first second, result = .ok first ∧ first.Repeats second ∧
        ∀ (translator : Translator Other) (later : Progress Other), later.cache = after.cache →
          let again : Interpreter Other := ⟨translator, interpreter.settings, interpreter.fallback⟩
          run settings again entries rounds later = (.ok second, later) ∧
            ∀ outcome final, Runs settings again entries rounds later outcome final →
              outcome = .ok second ∧ final = later := by
  have passed := Setup.check_eq_ok.mpr ⟨admitted, nonblank, distinct⟩
  refine ⟨⟨_, _, rfl, runs_run settings interpreter entries rounds before⟩, ?_⟩
  intro result after runs
  rcases runs.founded passed with ⟨competitors, founded, rfl⟩
  refine ⟨_, _, rfl, Report.repeats_asCached _, fun translator later same => ?_⟩
  intro again
  have prepared : competitors.map (·.entry) = entries ∧
      ∀ competitor ∈ competitors, competitor.BackedBy later.cache := by
    rw [same]
    exact ⟨founded.entries, founded.backed⟩
  have every : ∀ outcome final, Runs settings again entries rounds later outcome final →
      outcome = .ok (playAll settings.payoff competitors rounds).asCached ∧ final = later :=
    fun outcome final repeated => repeated.again prepared.1 prepared.2 passed
  exact ⟨Prod.ext_iff.mpr (every _ _ (runs_run settings again entries rounds later)), every⟩

/-- The translator answers once and crashes ever after. -/
theorem run_replayed_outage :
    let translator : Translator Nat := ⟨fun _ asked =>
      (⟨if asked = 0 then .returns (.ok (.template "grim_trigger")) else .crashes, ⟨0⟩, []⟩,
        asked + 1)⟩
    let interpreter : Interpreter Nat := ⟨translator, .standard, Template.titForTat.asFunction 0⟩
    let entries : List Entry := [⟨"first", "Bear a grudge"⟩, ⟨"second", "bear  a grudge"⟩,
      ⟨"third", "Never forgive"⟩]
    let once := run .standard interpreter entries 2 (.start 0)
    let twice := run .standard interpreter entries 2 once.2
    (∃ first second, once.1 = .ok first ∧ twice = (.ok second, once.2) ∧ first.Repeats second ∧
      second.played = first.played) ∧
      once.1.toOption.map (·.standings.values.map (·.provenance)) =
        some [.freshlyInterpreted, .cached, .fallback] ∧
      once.2.calls = 3 := by
  intro translator interpreter entries once twice
  rcases run_replayed .standard interpreter entries 2 (.start 0) (by decide +kernel)
      (by decide +kernel) (by decide) with ⟨_, replayed⟩
  rcases replayed once.1 once.2 (runs_run ..) with ⟨first, second, ran, repeats, again⟩
  have repeated := (again translator once.2 rfl).1
  exact ⟨⟨first, second, ran, repeated, repeats, repeats.played⟩, by decide +kernel,
    by decide +kernel⟩

end Tournament

end Dilemma
