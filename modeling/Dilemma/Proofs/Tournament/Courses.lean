import Dilemma.Proofs.Interpretation.Backing
import Dilemma.Proofs.Tournament.Batch
import Dilemma.Proofs.Tournament.Field

/-! # The courses that a tournament can take

The field is interpreted in turn or by workers that have their turns in any order, and
what the translator says may depend on that order. But every course gives each entry a
competitor, and in the end the cache backs all of them. -/

namespace Dilemma

open Interpreter (Progress)

variable {State : Type}

/-! ## Workers in any order -/

namespace Batch

/-- Every worker has come to something that it can have come to. -/
structure Tracked (interpreter : Interpreter State) (entries : List Entry) (start : Cache)
    (batch : Batch State) : Prop where
  enlarged : interpreter.Enlarged start batch.progress.cache
  justified : ∀ place entry, entries[place]? = some entry →
    interpreter.Justified batch.progress.cache entry (batch.stage place)

variable {interpreter : Interpreter State} {entries : List Entry} {start : Cache}
  {batch : Batch State}

theorem tracked_start (interpreter : Interpreter State) (entries : List Entry)
    (progress : Progress State) :
    Tracked interpreter entries progress.cache (Batch.start entries progress) := by
  refine ⟨.refl _, fun place entry here => ?_⟩
  dsimp only [Batch.start]
  rw [here]
  dsimp only
  split <;> trivial

theorem Tracked.turn (tracked : Tracked interpreter entries start batch) (place : Nat) :
    Tracked interpreter entries start (turn interpreter entries batch place) := by
  rw [Batch.turn]
  cases here : entries[place]? with
  | none => exact tracked
  | some entry =>
      have justified := tracked.justified place entry here
      have turn := interpreter.advance_turn entry (batch.stage place) batch.progress
      refine ⟨tracked.enlarged.trans (turn.enlarged justified), fun other another there => ?_⟩
      dsimp only
      by_cases same : other = place
      · subst same
        cases here.symm.trans there
        rw [if_pos rfl]
        exact turn.justified justified
      · rw [if_neg same]
        exact (tracked.justified other another there).mono turn.kept

theorem Tracked.run (tracked : Tracked interpreter entries start batch) (schedule : List Nat) :
    Tracked interpreter entries start (run interpreter entries schedule batch) := by
  induction schedule generalizing batch with
  | nil => exact tracked
  | cons place rest induction => exact induction (tracked.turn place)

end Batch

/-! ## The whole field -/

namespace Tournament

/-- What has been interpreted so far stands under its entry, and the cache backs it. -/
def Prepared (cache : Cache) (outcomes : List (Entry × Option Competitor)) : Prop :=
  ∀ pair ∈ outcomes, ∀ competitor, pair.2 = some competitor →
    competitor.entry = pair.1 ∧ competitor.BackedBy cache

variable {interpreter : Interpreter State} {entries : List Entry} {before after : Progress State}

theorem Prepared.mono {cache later : Cache} {outcomes : List (Entry × Option Competitor)}
    (prepared : Prepared cache outcomes) (kept : cache.KeptBy later) : Prepared later outcomes := by
  intro pair member competitor found
  rcases prepared pair member competitor found with ⟨own, backed⟩
  exact ⟨own, backed.mono kept⟩

theorem interpretFirsts_prepared (interpreter : Interpreter State) (entries : List Entry)
    (seen : List StrategyKey) (progress : Progress State) :
    let reached := interpretFirsts interpreter seen entries progress
    interpreter.Enlarged progress.cache reached.2.cache ∧ Prepared reached.2.cache reached.1 := by
  induction entries generalizing seen progress with
  | nil => exact ⟨.refl _, fun _ member => by cases member⟩
  | cons entry rest induction =>
      rw [interpretFirsts]
      split
      · rcases induction seen progress with ⟨enlarged, prepared⟩
        refine ⟨enlarged, List.forall_mem_cons.mpr ⟨fun competitor found => ?_, prepared⟩⟩
        cases found
      · have course := interpreter.interpret_course entry progress
        rcases induction (.ofText entry.text :: seen) (interpreter.interpret entry progress).2 with
          ⟨enlarged, prepared⟩
        refine ⟨course.enlarged.trans enlarged,
          List.forall_mem_cons.mpr ⟨fun competitor found => ?_, prepared⟩⟩
        cases found
        exact course.justified.mono enlarged.kept

theorem interpretRepeats_backed (interpreter : Interpreter State)
    {outcomes : List (Entry × Option Competitor)} {progress : Progress State}
    (prepared : Prepared progress.cache outcomes) :
    let reached := interpretRepeats interpreter outcomes progress
    interpreter.Enlarged progress.cache reached.2.cache ∧
      ∀ competitor ∈ reached.1, competitor.BackedBy reached.2.cache := by
  induction outcomes generalizing progress with
  | nil => exact ⟨.refl _, fun _ member => by cases member⟩
  | cons pair rest induction =>
      rcases List.forall_mem_cons.mp prepared with ⟨first, others⟩
      rcases pair with ⟨entry, _ | competitor⟩
      · have course := interpreter.interpret_course entry progress
        rcases induction (Prepared.mono others course.enlarged.kept) with ⟨enlarged, backed⟩
        rw [interpretRepeats]
        exact ⟨course.enlarged.trans enlarged,
          List.forall_mem_cons.mpr ⟨course.justified.2.mono enlarged.kept, backed⟩⟩
      · rcases induction others with ⟨enlarged, backed⟩
        rw [interpretRepeats]
        exact ⟨enlarged, List.forall_mem_cons.mpr
          ⟨(first competitor rfl).2.mono enlarged.kept, backed⟩⟩

/-- The ways in which a field can be interpreted. There are workers only if they are
allowed to work in parallel. -/
inductive Interprets (parallel : Bool) (interpreter : Interpreter State) (entries : List Entry)
    (before : Progress State) : List Competitor → Progress State → Prop where
  | inTurn : Interprets parallel interpreter entries before
      (interpretAll interpreter entries before).1 (interpretAll interpreter entries before).2
  | byWorkers {schedule : List Nat} {batch : Batch State} (allowed : parallel = true)
      (ran : batch = Batch.run interpreter entries schedule (Batch.start entries before))
      (finished : Batch.Finished entries batch) :
      Interprets parallel interpreter entries before (Batch.finish interpreter entries batch).1
        (Batch.finish interpreter entries batch).2

/-- A field after its interpretation, seen from the cache with which it began. -/
structure Founded (interpreter : Interpreter State) (start : Cache) (entries : List Entry)
    (competitors : List Competitor) (cache : Cache) : Prop where
  enlarged : interpreter.Enlarged start cache
  entries : competitors.map (·.entry) = entries
  backed : ∀ competitor ∈ competitors, competitor.BackedBy cache

theorem Founded.of_prepared {start : Cache} {outcomes : List (Entry × Option Competitor)}
    {progress : Progress State} (enlarged : interpreter.Enlarged start progress.cache)
    (prepared : Prepared progress.cache outcomes) (named : outcomes.map (·.1) = entries) :
    Founded interpreter start entries (interpretRepeats interpreter outcomes progress).1
      (interpretRepeats interpreter outcomes progress).2.cache := by
  rcases interpretRepeats_backed interpreter prepared with ⟨further, backed⟩
  refine ⟨enlarged.trans further, ?_, backed⟩
  rw [entries_interpretRepeats, named]
  exact fun pair member competitor found => (prepared pair member competitor found).1

theorem Interprets.founded {parallel : Bool} {competitors : List Competitor}
    (interprets : Interprets parallel interpreter entries before competitors after) :
    Founded interpreter before.cache entries competitors after.cache := by
  cases interprets with
  | inTurn =>
      rcases interpretFirsts_prepared interpreter entries [] before with ⟨enlarged, prepared⟩
      exact .of_prepared enlarged prepared
        (entries_interpretFirsts interpreter entries [] before).1
  | @byWorkers schedule batch allowed ran finished =>
      have tracked := (Batch.tracked_start interpreter entries before).run schedule
      rw [← ran] at tracked
      refine .of_prepared tracked.enlarged ?_ ?_
      · intro pair member competitor found
        rcases List.mem_mapIdx.mp member with ⟨place, within, rfl⟩
        have justified := tracked.justified place entries[place] (List.getElem?_eq_getElem within)
        cases reached : batch.stage place with
        | done result =>
            rw [reached] at justified found
            cases found
            exact justified
        | _ =>
            rw [reached] at found
            cases found
      · refine List.ext_getElem? fun place => ?_
        rw [List.getElem?_map, List.getElem?_mapIdx]
        cases entries[place]? <;> rfl

/-- All that can come of a tournament: it is refused, or a field is interpreted in one of
the ways and plays. -/
inductive Runs (settings : TournamentSettings) (interpreter : Interpreter State)
    (entries : List Entry) (rounds : UInt32) (before : Progress State) :
    Except SetupError Report → Progress State → Prop where
  | refused {error : SetupError}
      (failed : Setup.check settings.maxRounds rounds (entries.map Entry.name) = .error error) :
      Runs settings interpreter entries rounds before (.error error) before
  | played {competitors : List Competitor} {after : Progress State}
      (passed : Setup.check settings.maxRounds rounds (entries.map Entry.name) = .ok ())
      (interprets : Interprets settings.parallel interpreter entries before competitors after) :
      Runs settings interpreter entries rounds before
        (.ok (playAll settings.payoff competitors rounds)) after

theorem runs_run (settings : TournamentSettings) (interpreter : Interpreter State)
    (entries : List Entry) (rounds : UInt32) (before : Progress State) :
    Runs settings interpreter entries rounds before
      (run settings interpreter entries rounds before).1
      (run settings interpreter entries rounds before).2 := by
  rw [run]
  cases checked : Setup.check settings.maxRounds rounds (entries.map Entry.name) with
  | error error => exact .refused checked
  | ok => exact .played checked .inTurn

/-- Only what has passed the setup check is played. -/
theorem Runs.passed {settings : TournamentSettings} {rounds : UInt32} {report : Report}
    (runs : Runs settings interpreter entries rounds before (.ok report) after) :
    Setup.check settings.maxRounds rounds (entries.map Entry.name) = .ok () := by
  cases runs with
  | played passed interprets => exact passed

/-- Workers that have turns enough bring a tournament to its end. -/
theorem runs_of_fair {settings : TournamentSettings} (interpreter : Interpreter State)
    {entries : List Entry} {rounds : UInt32} (before : Progress State)
    (passed : Setup.check settings.maxRounds rounds (entries.map Entry.name) = .ok ())
    (allowed : settings.parallel = true) {schedule : List Nat}
    (fair : ∀ place < entries.length, interpreter.settings.retries + 3 ≤ schedule.count place) :
    let field := Batch.finish interpreter entries
      (Batch.run interpreter entries schedule (Batch.start entries before))
    Runs settings interpreter entries rounds before
      (.ok (playAll settings.payoff field.1 rounds)) field.2 :=
  .played passed (.byWorkers allowed rfl (Batch.run_finished interpreter entries fair before))

/-- With a setup that passes, every run has come to an end with a founded field. -/
theorem Runs.founded {settings : TournamentSettings} {rounds : UInt32}
    {result : Except SetupError Report}
    (runs : Runs settings interpreter entries rounds before result after)
    (passed : Setup.check settings.maxRounds rounds (entries.map Entry.name) = .ok ()) :
    ∃ competitors, Founded interpreter before.cache entries competitors after.cache ∧
      result = .ok (playAll settings.payoff competitors rounds) := by
  cases runs with
  | refused failed =>
      rw [failed] at passed
      cases passed
  | played _ interprets => exact ⟨_, interprets.founded, rfl⟩

end Tournament

end Dilemma
