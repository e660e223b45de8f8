import Dilemma.Command.Run
import Dilemma.Command.Tools
import Dilemma.Proofs.Rule.Lowering
import Dilemma.Proofs.Text.Words
import Dilemma.Proofs.Tournament.Courses
import Dilemma.Proofs.Tournament.Refusal
import Dilemma.Proofs.Wire.File

/-! # Running a tournament file

All that can keep a tournament from being played is known before anything is interpreted: it is
in the file, in the options or in the variables. Nothing is written before the report is
complete, so a run writes all of it or nothing. -/

namespace Dilemma

namespace Command

variable {World : Type}

/-! ## What a run is about -/

/-- The path leads to a tournament file with these contents. -/
def Loads (surroundings : Surroundings World) (path : String) (file : TournamentFile) : Prop :=
  ∃ text, surroundings.readFile path = .ok text ∧
    TournamentFile.parse? surroundings.decoding.numbers text = some file

/-- The number of rounds that the options ask for, or else the file. -/
def chosenRounds (options : RunOptions) (file : TournamentFile) : Int :=
  (options.rounds.or file.rounds).getD 100

/-- The most rounds that the variables allow. -/
def roundLimit (environment : Environment) : Nat :=
  (environment.natural? UInt32.size "ARENA_MAX_ROUNDS").getD 1000

/-- What keeps a tournament from being played. -/
inductive Fault (surroundings : Surroundings World) (options : RunOptions) : Prop where
  | unreadable {error : FileError} (failed : surroundings.readFile options.file = .error error)
  | invalid {text : String} (read : surroundings.readFile options.file = .ok text)
      (refused : TournamentFile.parse? surroundings.decoding.numbers text = none)
  | negativeRounds {file : TournamentFile} (loads : Loads surroundings options.file file)
      (negative : chosenRounds options file < 0)
  | tooManyRounds {file : TournamentFile} (loads : Loads surroundings options.file file)
      (exceeds : roundLimit surroundings.environment < chosenRounds options file)
  | blankTranslator {command : String} (given : options.translator.command = some command)
      (blank : Text.trim command = "")
  | blankName {file : TournamentFile} (loads : Loads surroundings options.file file)
      {name : String} (member : name ∈ file.entries.map Entry.name) (blank : Text.trim name = "")
  | repeatedName {file : TournamentFile} (loads : Loads surroundings options.file file)
      (repeated : ¬ (file.entries.map Entry.name).Nodup)

/-! ## Steps -/

theorem lt_of_natural? {environment : Environment} {bound : Nat} {name : String} {value : Nat}
    (read : environment.natural? bound name = some value) : value < bound := by
  rw [Environment.natural?] at read
  rcases Option.bind_eq_some_iff.mp read with ⟨text, -, number⟩
  rcases Option.bind_eq_some_iff.mp number with ⟨digits, -, within⟩
  split at within
  · rename_i less
    exact Option.some.inj within ▸ less
  · exact nomatch within

theorem maxRounds_ofEnvironment (environment : Environment) :
    (TournamentSettings.ofEnvironment environment).maxRounds.toNat = roundLimit environment := by
  rw [TournamentSettings.ofEnvironment, roundLimit]
  cases read : environment.natural? UInt32.size "ARENA_MAX_ROUNDS" with
  | none => rfl
  | some rounds => exact UInt32.toNat_ofNat_of_lt' (lt_of_natural? read)

theorem mapError_eq_ok {ε ε' α : Type} {change : ε → ε'} {step : Except ε α} {value : α} :
    step.mapError change = .ok value ↔ step = .ok value := by
  cases step <;> simp [Except.mapError]

theorem loadFile_eq_ok {surroundings : Surroundings World} {path : String} {file : TournamentFile} :
    loadFile surroundings path = .ok file ↔ Loads surroundings path file := by
  rw [loadFile, Loads]
  cases read : surroundings.readFile path with
  | error error => simp
  | ok text =>
      cases parsed : TournamentFile.parse? surroundings.decoding.numbers text <;> simp [parsed]

theorem ofText?_eq_none {text : String} :
    CommandLine.ofText? text = none ↔ Text.trim text = "" := by
  rw [Text.trim_eq_empty, ← Text.words_eq_nil_iff, CommandLine.ofText?]
  cases Text.words text.toList with
  | nil => exact iff_of_true rfl rfl
  | cons word rest => exact iff_of_false nofun nofun

theorem exists_translatorFor {surroundings : Surroundings World} {limit : Duration}
    {options : TranslatorOptions} :
    (∃ translator, translatorFor surroundings limit options = .ok translator) ↔
      ∀ command, options.command = some command → Text.trim command ≠ "" := by
  rw [translatorFor]
  cases options.command with
  | none => simp
  | some text =>
      cases read : CommandLine.ofText? text with
      | none =>
          have blank := ofText?_eq_none.mp read
          simp [read, blank]
      | some line =>
          have filled : Text.trim text ≠ "" := by
            rw [ne_eq, ← ofText?_eq_none, read]
            exact nofun
          simp [read, filled]

theorem exists_interpreterFor {surroundings : Surroundings World} {options : TranslatorOptions} :
    (∃ interpreter, interpreterFor surroundings options = .ok interpreter) ↔
      ∀ command, options.command = some command → Text.trim command ≠ "" := by
  simp only [interpreterFor, bind_eq_ok, pure_eq_ok]
  constructor
  · rintro ⟨_, translator, translated, -⟩
    exact exists_translatorFor.mp ⟨translator, translated⟩
  · intro filled
    rcases exists_translatorFor.mpr filled with ⟨translator, translated⟩
    exact ⟨_, translator, translated, rfl⟩

/-- The preparation takes three steps, and each of them has to succeed. -/
theorem prepare_eq_ok {surroundings : Surroundings World} {options : RunOptions}
    {contest : Contest World} :
    prepare surroundings options = .ok contest ↔
      ∃ file rounds interpreter, loadFile surroundings options.file = .ok file ∧
        file.roundsToPlay options.rounds
          (tournamentSettings surroundings options file).maxRounds = .ok rounds ∧
        interpreterFor surroundings options.translator = .ok interpreter ∧
        ⟨tournamentSettings surroundings options file, interpreter, file.entries, rounds⟩ =
          contest := by
  simp only [prepare, bind_eq_ok, mapError_eq_ok, pure_eq_ok, exists_and_left]

theorem Loads.unique {surroundings : Surroundings World} {path : String}
    {file other : TournamentFile} (loads : Loads surroundings path file)
    (again : Loads surroundings path other) : file = other := by
  rw [← loadFile_eq_ok] at loads again
  exact Except.ok.inj (loads.symm.trans again)

/-! ## Courses of a run

Programs leave traces in the world, so what a translator says may depend on the order in which
workers have their turns. A run can come to whatever a tournament can come to. -/

section Courses

variable (surroundings : Surroundings World) (options : RunOptions)

inductive Yields : Except Failure String → Prop where
  | unprepared {failure : Failure} (failed : prepare surroundings options = .error failure) :
      Yields (.error failure)
  | conducted {contest : Contest World} {result : Except SetupError Report}
      {after : Interpreter.Progress World}
      (prepared : prepare surroundings options = .ok contest)
      (runs : Tournament.Runs contest.settings contest.interpreter contest.entries contest.rounds
        (.start surroundings.world) result after) : Yields (present options result)

end Courses

/-! ## All or nothing -/

/-- The report is what the tournament gives for the file, with these rounds and settings. -/
structure Played (surroundings : Surroundings World) (options : RunOptions)
    (file : TournamentFile) (rounds : UInt32) (settings : TournamentSettings)
    (interpreter : Interpreter World) (report : Report) : Prop where
  loads : Loads surroundings options.file file
  chosen : chosenRounds options file = rounds.toNat
  payoff : settings.payoff = file.payoff.getD .classic
  limit : settings.maxRounds.toNat = roundLimit surroundings.environment
  inTurn : options.sequential = true → settings.parallel = false
  made : interpreterFor surroundings options.translator = .ok interpreter
  ran : ∃ after, Tournament.Runs settings interpreter file.entries rounds
    (.start surroundings.world) (.ok report) after

variable {surroundings : Surroundings World} {options : RunOptions} {contest : Contest World}

theorem played_of_runs (prepared : prepare surroundings options = .ok contest) {report : Report}
    {after : Interpreter.Progress World}
    (runs : Tournament.Runs contest.settings contest.interpreter contest.entries contest.rounds
      (.start surroundings.world) (.ok report) after) :
    ∃ file rounds settings interpreter,
      Played surroundings options file rounds settings interpreter report := by
  rcases prepare_eq_ok.mp prepared with ⟨file, rounds, interpreter, loaded, counted, made, rfl⟩
  refine ⟨file, rounds, _, interpreter, loadFile_eq_ok.mp loaded,
    (Setup.checkRounds_eq_ok_iff.mp counted).1, rfl, ?_, fun inTurn => ?_, made, after, runs⟩
  · exact maxRounds_ofEnvironment surroundings.environment
  · rw [tournamentSettings, inTurn]
    exact Bool.and_false _

/-- Whatever was wrong would have kept one of the steps from being taken. -/
theorem not_fault_of_played {file : TournamentFile} {rounds : UInt32}
    {settings : TournamentSettings} {interpreter : Interpreter World} {report : Report}
    (played : Played surroundings options file rounds settings interpreter report) :
    ¬ Fault surroundings options := by
  rcases played.ran with ⟨after, runs⟩
  rcases Setup.check_eq_ok.mp runs.passed with ⟨admitted, filled, distinct⟩
  intro fault
  cases fault with
  | unreadable failed =>
      rcases played.loads with ⟨text, read, -⟩
      exact nomatch failed.symm.trans read
  | invalid read refused =>
      rcases played.loads with ⟨text, again, parsed⟩
      cases read.symm.trans again
      exact nomatch refused.symm.trans parsed
  | negativeRounds loads negative =>
      cases loads.unique played.loads
      have chosen := played.chosen
      omega
  | tooManyRounds loads exceeds =>
      cases loads.unique played.loads
      have within := UInt32.le_iff_toNat_le.mp admitted
      rw [played.limit] at within
      rw [played.chosen] at exceeds
      omega
  | blankTranslator given blank =>
      exact exists_interpreterFor.mp ⟨interpreter, played.made⟩ _ given blank
  | blankName loads member blank =>
      cases loads.unique played.loads
      have nonblank := filled _ member
      rw [Setup.isBlankName_iff_trim.mpr blank] at nonblank
      exact nomatch nonblank
  | repeatedName loads repeated =>
      cases loads.unique played.loads
      exact repeated distinct

theorem exists_loads (sound : ¬ Fault surroundings options) :
    ∃ file, Loads surroundings options.file file := by
  cases read : surroundings.readFile options.file with
  | error error => exact absurd (.unreadable read) sound
  | ok text =>
      cases parsed : TournamentFile.parse? surroundings.decoding.numbers text with
      | none => exact absurd (.invalid read parsed) sound
      | some file => exact ⟨file, text, read, parsed⟩

/-- If nothing is wrong, one step after the other succeeds, and the setup check is passed. -/
theorem exists_prepare (sound : ¬ Fault surroundings options) :
    ∃ contest, prepare surroundings options = .ok contest ∧
      Setup.check contest.settings.maxRounds contest.rounds
        (contest.entries.map Entry.name) = .ok () := by
  rcases exists_loads sound with ⟨file, loads⟩
  -- What each of the later steps asks for is the absence of a fault.
  have atLeast : 0 ≤ chosenRounds options file :=
    Int.not_lt.mp fun negative => sound (.negativeRounds loads negative)
  have atMost : chosenRounds options file ≤ roundLimit surroundings.environment :=
    Int.not_lt.mp fun exceeds => sound (.tooManyRounds loads exceeds)
  have filled : ∀ command, options.translator.command = some command → Text.trim command ≠ "" :=
    fun command given blank => sound (.blankTranslator given blank)
  have named : ∀ name ∈ file.entries.map Entry.name, Setup.isBlankName name = false := by
    intro name member
    rw [← Bool.not_eq_true, Setup.isBlankName_iff_trim]
    exact fun blank => sound (.blankName loads member blank)
  have distinct : (file.entries.map Entry.name).Nodup :=
    Classical.not_not.mp fun repeated => sound (.repeatedName loads repeated)
  let settings := tournamentSettings surroundings options file
  have counted : ∃ rounds, file.roundsToPlay options.rounds settings.maxRounds = .ok rounds := by
    have limit : settings.maxRounds.toNat = roundLimit surroundings.environment :=
      maxRounds_ofEnvironment surroundings.environment
    have small : (chosenRounds options file).toNat < UInt32.size := by
      have size := settings.maxRounds.toNat_lt_size
      omega
    refine ⟨UInt32.ofNat (chosenRounds options file).toNat, Setup.checkRounds_eq_ok_iff.mpr ?_⟩
    rw [UInt32.le_iff_toNat_le, UInt32.toNat_ofNat_of_lt' small, limit]
    exact ⟨(Int.toNat_of_nonneg atLeast).symm, Int.toNat_le.mpr atMost⟩
  rcases counted with ⟨rounds, counted⟩
  rcases exists_interpreterFor.mpr filled with ⟨interpreter, made⟩
  have admitted := (Setup.checkRounds_eq_ok_iff.mp counted).2
  exact ⟨_, prepare_eq_ok.mpr
    ⟨file, rounds, interpreter, loadFile_eq_ok.mpr loads, counted, made, rfl⟩,
    Setup.check_eq_ok.mpr ⟨admitted, named, distinct⟩⟩

/-- Where nothing is wrong, every course leads to a whole report. -/
theorem Yields.report {result : Except Failure String}
    (yields : Yields surroundings options result) (sound : ¬ Fault surroundings options) :
    ∃ file rounds settings interpreter report,
      Played surroundings options file rounds settings interpreter report ∧
        result = .ok (if options.json then report.document ++ "\n" else Table.render report) := by
  rcases exists_prepare sound with ⟨contest, prepared, passed⟩
  cases yields with
  | unprepared failed => exact nomatch failed.symm.trans prepared
  | conducted again runs =>
      cases again.symm.trans prepared
      rcases runs.founded passed with ⟨competitors, -, rfl⟩
      rcases played_of_runs prepared runs with ⟨file, rounds, settings, interpreter, played⟩
      exact ⟨file, rounds, settings, interpreter, _, played, rfl⟩

/-- Where something is wrong, no course leads to a report. -/
theorem Yields.failure {result : Except Failure String}
    (yields : Yields surroundings options result) (fault : Fault surroundings options) :
    ∃ failure, result = .error failure := by
  cases yields with
  | unprepared failed => exact ⟨_, rfl⟩
  | @conducted contest outcome after prepared runs =>
      cases outcome with
      | error error => exact ⟨.setup options.file error, rfl⟩
      | ok report =>
          rcases played_of_runs prepared runs with ⟨file, rounds, settings, interpreter, played⟩
          exact absurd fault (not_fault_of_played played)

/-! ## Failures -/

end Command

end Dilemma
