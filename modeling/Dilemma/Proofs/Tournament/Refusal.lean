import Mathlib.Data.List.Nodup
import Mathlib.Data.List.TakeWhile
import Dilemma.Proofs.Tournament.Field

/-! # Refused tournaments

A setup is refused for the number of rounds, or else for the first name that is
blank or has come before. The check walks through the names with those seen so far;
here the same is said about places in the list, without a walk. -/

namespace Dilemma

namespace Text

theorem strip_eq_nil {unwanted : Char → Bool} {text : List Char} :
    strip unwanted text = [] ↔ ∀ char ∈ text, unwanted char = true := by
  constructor
  · intro nothing char member
    rw [strip, List.reverse_eq_nil_iff, List.dropWhile_eq_nil_iff] at nothing
    by_cases dropped : char ∈ text.dropWhile unwanted
    · exact nothing char (List.mem_reverse.mpr dropped)
    · rw [← List.takeWhile_append_dropWhile (p := unwanted) (l := text)] at member
      exact List.mem_takeWhile_imp ((List.mem_append.mp member).resolve_right dropped)
  · intro all
    have nothing : text.dropWhile unwanted = [] := List.dropWhile_eq_nil_iff.mpr all
    rw [strip, nothing]
    rfl

theorem trim_eq_empty {text : String} :
    trim text = "" ↔ ∀ char ∈ text.toList, isBlank char = true := by
  rw [← strip_eq_nil, trim]
  constructor
  · intro empty
    simpa using congrArg String.toList empty
  · intro nothing
    rw [nothing]

end Text

namespace Setup

theorem isBlankName_iff_trim {name : String} : isBlankName name = true ↔ Text.trim name = "" := by
  rw [isBlankName, List.all_eq_true, Text.trim_eq_empty]

/-! ## Faults -/

/-- Nothing is left of the name without the blanks around it, or it came before. -/
def Faulty (earlier : List String) (name : String) : Prop :=
  Text.trim name = "" ∨ name ∈ earlier

/-- Blankness counts more than repetition. -/
def fault (name : String) : SetupError :=
  if Text.trim name = "" then .blankName else .duplicateName name

/-- The name at this place is faulty, and no name at a smaller place is. -/
structure FirstFault (names : List String) (place : Nat) (name : String) : Prop where
  here : names[place]? = some name
  faulty : Faulty (names.take place) name
  first : ∀ smaller < place, ∀ other, names[smaller]? = some other →
    ¬ Faulty (names.take smaller) other

theorem exists_faulty_iff {names : List String} :
    (∃ place name, names[place]? = some name ∧ Faulty (names.take place) name) ↔
      (∃ name ∈ names, Text.trim name = "") ∨ ¬ names.Nodup := by
  constructor
  · rintro ⟨place, name, here, blank | repeated⟩
    · exact .inl ⟨name, List.mem_of_getElem? here, blank⟩
    · refine .inr fun distinct => ?_
      have within := (List.getElem?_eq_some_iff.mp here).1
      rcases List.mem_iff_getElem?.mp repeated with ⟨smaller, there⟩
      have less : smaller < place := by
        have bound := (List.getElem?_eq_some_iff.mp there).1
        rw [List.length_take] at bound
        omega
      rw [List.getElem?_take_of_lt less] at there
      have same := (List.getElem?_inj within distinct).mp (here.trans there.symm)
      omega
  · rintro (⟨name, member, blank⟩ | repeated)
    · rcases List.mem_iff_getElem?.mp member with ⟨place, here⟩
      exact ⟨place, name, here, .inl blank⟩
    · rw [List.nodup_iff_getElem?_ne_getElem?] at repeated
      simp only [Classical.not_forall, Classical.not_not] at repeated
      rcases repeated with ⟨smaller, place, less, within, same⟩
      have here := List.getElem?_eq_getElem within
      refine ⟨place, names[place], here, .inr ?_⟩
      apply List.mem_of_getElem? (i := smaller)
      rw [List.getElem?_take_of_lt less, same, here]

theorem exists_firstFault {names : List String} {place : Nat} {name : String}
    (here : names[place]? = some name) (faulty : Faulty (names.take place) name) :
    ∃ place name, FirstFault names place name := by
  induction place using Nat.strong_induction_on generalizing name with
  | _ place induction =>
      by_cases first : ∀ smaller < place, ∀ other, names[smaller]? = some other →
          ¬ Faulty (names.take smaller) other
      · exact ⟨place, name, here, faulty, first⟩
      · simp only [Classical.not_forall, Classical.not_not] at first
        rcases first with ⟨smaller, less, other, there, otherFaulty⟩
        exact induction smaller less there otherFaulty

/-! ## The walk -/

theorem checkNames_eq_ok_iff {names : List String} :
    checkNames [] names = .ok () ↔
      ¬ ∃ place name, names[place]? = some name ∧ Faulty (names.take place) name := by
  rw [exists_faulty_iff, checkNames_eq_ok]
  simp [← isBlankName_iff_trim]

theorem checkNames_append (seen earlier later : List String) :
    checkNames seen (earlier ++ later) =
      (checkNames seen earlier).bind fun _ => checkNames (earlier.reverse ++ seen) later := by
  induction earlier generalizing seen with
  | nil => rfl
  | cons name rest induction =>
      rw [List.cons_append, checkNames, checkNames]
      split
      · rfl
      · split
        · rfl
        · rw [induction, List.reverse_cons, List.append_assoc]
          rfl

theorem checkNames_cons_of_faulty {seen : List String} {name : String}
    (faulty : Faulty seen name) (later : List String) :
    checkNames seen (name :: later) = .error (fault name) := by
  simp only [checkNames, fault, isBlankName_iff_trim]
  split
  · rfl
  · rename_i nonblank
    rw [if_pos (faulty.resolve_left nonblank)]

theorem FirstFault.checkNames_eq {names : List String} {place : Nat} {name : String}
    (firstFault : FirstFault names place name) : checkNames [] names = .error (fault name) := by
  have within := (List.getElem?_eq_some_iff.mp firstFault.here).1
  have split : names = names.take place ++ name :: names.drop (place + 1) := by
    rw [← (List.getElem?_eq_some_iff.mp firstFault.here).2, ← List.drop_eq_getElem_cons within,
      List.take_append_drop]
  have passed : checkNames [] (names.take place) = .ok () := by
    rw [checkNames_eq_ok_iff]
    rintro ⟨smaller, other, there, otherFaulty⟩
    have less : smaller < place := by
      have bound := (List.getElem?_eq_some_iff.mp there).1
      rw [List.length_take] at bound
      omega
    rw [List.getElem?_take_of_lt less] at there
    rw [List.take_take, Nat.min_eq_left (Nat.le_of_lt less)] at otherFaulty
    exact firstFault.first smaller less other there otherFaulty
  rw [split, checkNames_append, passed]
  apply checkNames_cons_of_faulty
  rw [List.append_nil]
  exact firstFault.faulty.imp id List.mem_reverse.mpr

theorem checkNames_eq_error_iff {names : List String} {error : SetupError} :
    checkNames [] names = .error error ↔
      ∃ place name, FirstFault names place name ∧ error = fault name := by
  constructor
  · intro failed
    have found : ∃ place name, names[place]? = some name ∧ Faulty (names.take place) name := by
      apply Classical.byContradiction
      intro none
      rw [checkNames_eq_ok_iff.mpr none] at failed
      cases failed
    rcases found with ⟨place, name, here, faulty⟩
    rcases exists_firstFault here faulty with ⟨place, name, firstFault⟩
    rw [firstFault.checkNames_eq] at failed
    cases failed
    exact ⟨place, name, firstFault, rfl⟩
  · rintro ⟨place, name, firstFault, rfl⟩
    exact firstFault.checkNames_eq

theorem check_of_exceeds {limit rounds : UInt32} (exceeds : limit < rounds)
    (names : List String) :
    check limit rounds names = .error (.tooManyRounds rounds.toNat limit.toNat) :=
  if_pos exceeds

theorem check_of_admitted {limit rounds : UInt32} (admitted : rounds ≤ limit)
    (names : List String) : check limit rounds names = checkNames [] names :=
  if_neg (UInt32.not_lt.mpr admitted)

theorem check_eq_error_iff {limit rounds : UInt32} {names : List String} {error : SetupError} :
    check limit rounds names = .error error ↔
      (limit < rounds ∧ error = .tooManyRounds rounds.toNat limit.toNat) ∨
        (rounds ≤ limit ∧ ∃ place name, FirstFault names place name ∧ error = fault name) := by
  by_cases exceeds : limit < rounds
  · rw [check_of_exceeds exceeds]
    simp [exceeds, UInt32.not_le.mpr exceeds, eq_comm]
  · rw [check_of_admitted (UInt32.not_lt.mp exceeds), checkNames_eq_error_iff]
    simp [exceeds, UInt32.not_lt.mp exceeds]

theorem exists_check_eq_error_iff {limit rounds : UInt32} {names : List String} :
    (∃ error, check limit rounds names = .error error) ↔
      limit < rounds ∨ (∃ name ∈ names, Text.trim name = "") ∨ ¬ names.Nodup := by
  by_cases exceeds : limit < rounds
  · rw [check_of_exceeds exceeds]
    exact iff_of_true ⟨_, rfl⟩ (.inl exceeds)
  · rw [check_of_admitted (UInt32.not_lt.mp exceeds), ← exists_faulty_iff]
    cases checked : checkNames [] names with
    | ok passed =>
        have none := checkNames_eq_ok_iff.mp checked
        exact iff_of_false (fun ⟨_, failed⟩ => by cases failed) (not_or.mpr ⟨exceeds, none⟩)
    | error error =>
        rcases checkNames_eq_error_iff.mp checked with ⟨place, name, firstFault, _⟩
        exact iff_of_true ⟨error, rfl⟩
          (.inr ⟨place, name, firstFault.here, firstFault.faulty⟩)

/-- Names alone never lead to a complaint about rounds. -/
theorem check_ne_tooManyRounds {limit rounds : UInt32} (admitted : rounds ≤ limit)
    (names : List String) (requested bound : Nat) :
    check limit rounds names ≠ .error (.tooManyRounds requested bound) := by
  intro failed
  rcases check_eq_error_iff.mp failed with ⟨exceeds, _⟩ | ⟨_, place, name, _, named⟩
  · exact UInt32.not_lt.mpr admitted exceeds
  · rw [fault] at named
    split at named
    · cases named
    · cases named

/-! ## Round counts from outside -/

theorem checkRounds_eq_ok_iff {value : Int} {limit rounds : UInt32} :
    checkRounds value limit = .ok rounds ↔ value = rounds.toNat ∧ rounds ≤ limit := by
  rw [checkRounds, UInt32.le_iff_toNat_le]
  have limitBound : limit.toNat < UInt32.size := limit.toNat_lt
  have roundsBound : rounds.toNat < UInt32.size := rounds.toNat_lt
  split
  · rename_i negative
    simp only [reduceCtorEq, false_iff]
    omega
  · split
    · simp only [reduceCtorEq, false_iff]
      omega
    · rw [Except.ok.injEq, ← UInt32.toNat_inj, UInt32.toNat_ofNat_of_lt' (by omega)]
      omega

end Setup

namespace Tournament

variable {State : Type}

/-- Nothing has been interpreted when a setup is refused. -/
theorem run_of_check_error {settings : TournamentSettings} {entries : List Entry}
    {rounds : UInt32} {error : SetupError}
    (refused : Setup.check settings.maxRounds rounds (entries.map Entry.name) = .error error)
    (interpreter : Interpreter State) (before : Interpreter.Progress State) :
    run settings interpreter entries rounds before = (.error error, before) := by
  rw [run, refused]

theorem run_eq_error_iff {settings : TournamentSettings} {interpreter : Interpreter State}
    {entries : List Entry} {rounds : UInt32} {before : Interpreter.Progress State}
    {error : SetupError} :
    (run settings interpreter entries rounds before).1 = .error error ↔
      Setup.check settings.maxRounds rounds (entries.map Entry.name) = .error error := by
  cases checked : Setup.check settings.maxRounds rounds (entries.map Entry.name) with
  | error other => simp [run_of_check_error checked]
  | ok passed => simp [run, checked]

theorem runInterpreted_eq_error_iff {settings : TournamentSettings}
    {competitors : List Competitor} {rounds : UInt32} {error : SetupError} :
    runInterpreted settings competitors rounds = .error error ↔
      Setup.check settings.maxRounds rounds (competitors.map Competitor.name) = .error error := by
  rw [runInterpreted]
  cases Setup.check settings.maxRounds rounds (competitors.map Competitor.name) with
  | error other => simp [bind, Except.bind]
  | ok passed => simp [bind, Except.bind, pure, Except.pure]

/-- A tournament is refused for too many rounds, for a blank name or for a repeated one.
Too many rounds count first, then the first faulty name, and a refusal leaves everything
as it was. Whoever has interpreted the field before is refused in the same way, and a
round count from outside that passes is never the reason. -/
theorem run_refused_exactly (settings : TournamentSettings) (interpreter : Interpreter State)
    (entries : List Entry) (rounds : UInt32) (before : Interpreter.Progress State) :
    let names := entries.map Entry.name
    let result := run settings interpreter entries rounds before
    ((∃ error, result.1 = .error error) ↔
      settings.maxRounds < rounds ∨ (∃ name ∈ names, Text.trim name = "") ∨ ¬ names.Nodup) ∧
    (∀ error, result.1 = .error error ↔
      (settings.maxRounds < rounds ∧
        error = .tooManyRounds rounds.toNat settings.maxRounds.toNat) ∨
      (rounds ≤ settings.maxRounds ∧
        ∃ place name, Setup.FirstFault names place name ∧ error = Setup.fault name)) ∧
    (∀ error, result.1 = .error error → result.2 = before) ∧
    (∀ competitors : List Competitor, competitors.map Competitor.name = names →
      ∀ error, runInterpreted settings competitors rounds = .error error ↔
        result.1 = .error error) ∧
    ∀ value, Setup.checkRounds value settings.maxRounds = .ok rounds →
      value = rounds.toNat ∧ ∀ requested limit,
        result.1 ≠ .error (.tooManyRounds requested limit) ∧
          ∀ competitors, runInterpreted settings competitors rounds ≠
            .error (.tooManyRounds requested limit) := by
  intro names result
  have refused : ∀ error, result.1 = .error error ↔
      Setup.check settings.maxRounds rounds names = .error error := fun _ => run_eq_error_iff
  refine ⟨?_, ?_, ?_, ?_, ?_⟩
  · simp only [refused]
    exact Setup.exists_check_eq_error_iff
  · intro error
    rw [refused, Setup.check_eq_error_iff]
  · intro error failed
    exact congrArg Prod.snd (run_of_check_error ((refused error).mp failed) interpreter before)
  · intro competitors named error
    rw [refused, runInterpreted_eq_error_iff, named]
  · intro value accepted
    rcases Setup.checkRounds_eq_ok_iff.mp accepted with ⟨counted, admitted⟩
    refine ⟨counted, fun requested limit => ⟨fun failed => ?_, fun competitors failed => ?_⟩⟩
    · exact Setup.check_ne_tooManyRounds admitted names requested limit
        ((refused _).mp failed)
    · exact Setup.check_ne_tooManyRounds admitted _ requested limit
        (runInterpreted_eq_error_iff.mp failed)

/-- A blank name between two equal ones. -/
theorem run_refused_exactly_blank :
    let interpreter : Interpreter Unit :=
      ⟨⟨fun _ state => (⟨.crashes, ⟨0⟩, []⟩, state)⟩, .standard, Template.titForTat.asFunction 0⟩
    let entries : List Entry := [⟨"copy", "grim"⟩, ⟨"\u00a0\t", "pavlov"⟩, ⟨"copy", "random"⟩]
    let result := run .standard interpreter entries 1000 (.start ())
    result.1 = .error .blankName ∧ result.2 = .start () ∧
      Setup.checkRounds 1000 TournamentSettings.standard.maxRounds = .ok 1000 := by
  intro interpreter entries result
  have exactly := run_refused_exactly .standard interpreter entries 1000 (.start ())
  have firstFault : Setup.FirstFault ["copy", "\u00a0\t", "copy"] 1 "\u00a0\t" := by
    refine ⟨rfl, .inl (by decide +kernel), ?_⟩
    intro smaller less other there
    obtain rfl : smaller = 0 := by omega
    cases there
    exact not_or.mpr ⟨by decide +kernel, by decide⟩
  have failed : result.1 = .error .blankName :=
    (exactly.2.1 _).mpr (.inr ⟨by decide, 1, _, firstFault, by decide +kernel⟩)
  exact ⟨failed, exactly.2.2.1 _ failed, by decide +kernel⟩

end Tournament

end Dilemma
