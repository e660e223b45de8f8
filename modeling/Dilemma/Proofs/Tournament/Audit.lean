import Dilemma.Proofs.Interpretation.Ledger
import Dilemma.Proofs.Tournament.Courses
import Dilemma.Proofs.Tournament.Level
import Dilemma.Tournament.Table

/-! # Audits of degraded strategies

An interpreter that nobody disturbs has a history: calls in a row, and calls that overlap. A
tournament continues it. The ledger of the history says for every text what its first
resolution came to, and everything that is ever handed out or shown agrees with it. -/

namespace Dilemma

open Interpreter (Progress Accounted Grounded Tells settledNext)

variable {State : Type} {interpreter : Interpreter State} {entries : List Entry}
  {ledger : List Settlement}

/-! ## Workers in any order -/

namespace Batch

variable {batch : Batch State}

def settledAt (entries : List Entry) (batch : Batch State) (place : Nat) : List Settlement :=
  match entries[place]? with
  | some entry => settledNext entry (batch.stage place)
  | none => []

/-- What is settled while the workers have their turns. -/
def settlements (interpreter : Interpreter State) (entries : List Entry) :
    List Nat → Batch State → List Settlement
  | [], _ => []
  | place :: rest, batch =>
      settledAt entries batch place ++
        settlements interpreter entries rest (turn interpreter entries batch place)

def results (entries : List Entry) (batch : Batch State) : List Competitor :=
  (List.range entries.length).filterMap fun place => (batch.stage place).result?

/-- The accounts are kept, whatever the workers have come to. -/
structure Kept (interpreter : Interpreter State) (entries : List Entry)
    (ledger : List Settlement) (batch : Batch State) : Prop where
  accounted : interpreter.Accounted ledger batch.progress.cache
  grounded : ∀ place entry, entries[place]? = some entry →
    interpreter.Grounded ledger entry (batch.stage place)

/-- Nobody has had a turn yet. -/
def Fresh (batch : Batch State) : Prop :=
  ∀ place, batch.stage place = .waiting ∨ batch.stage place = .postponed

theorem Fresh.kept (fresh : batch.Fresh) (entries : List Entry)
    (accounted : interpreter.Accounted ledger batch.progress.cache) :
    Kept interpreter entries ledger batch := by
  refine ⟨accounted, fun place entry _ => ?_⟩
  rcases fresh place with waiting | postponed
  · rw [waiting]
    trivial
  · rw [postponed]
    trivial

theorem fresh_start (entries : List Entry) (progress : Progress State) :
    (start entries progress).Fresh := by
  intro place
  dsimp only [start]
  split
  · split
    · exact .inl rfl
    · exact .inr rfl
  · exact .inr rfl

theorem Kept.turn (kept : Kept interpreter entries ledger batch)
    (undisturbed : interpreter.Undisturbed) (place : Nat) :
    Kept interpreter entries (ledger ++ settledAt entries batch place)
      (turn interpreter entries batch place) := by
  rw [Batch.turn, settledAt]
  cases here : entries[place]? with
  | none =>
      rw [List.append_nil]
      exact kept
  | some entry =>
      have turn := interpreter.advance_turn entry (batch.stage place) batch.progress
      have follows := interpreter.advance_next entry (batch.stage place) batch.progress
      rcases turn.accounted undisturbed follows kept.accounted (kept.grounded place entry here) with
        ⟨accounted, grounded⟩
      refine ⟨accounted, fun other another there => ?_⟩
      dsimp only
      by_cases same : other = place
      · subst same
        cases here.symm.trans there
        rw [if_pos rfl]
        exact grounded
      · rw [if_neg same]
        exact (kept.grounded other another there).mono _

theorem Kept.run (kept : Kept interpreter entries ledger batch)
    (undisturbed : interpreter.Undisturbed) (schedule : List Nat) :
    Kept interpreter entries (ledger ++ settlements interpreter entries schedule batch)
      (run interpreter entries schedule batch) := by
  induction schedule generalizing ledger batch with
  | nil =>
      rw [settlements, List.append_nil]
      exact kept
  | cons place rest induction =>
      rw [settlements, ← List.append_assoc]
      exact induction (kept.turn undisturbed place)

theorem Kept.tells (kept : Kept interpreter entries ledger batch) {result : Competitor}
    (member : result ∈ results entries batch) : interpreter.Tells ledger result := by
  rcases List.mem_filterMap.mp member with ⟨place, within, done⟩
  have here := List.getElem?_eq_getElem (List.mem_range.mp within)
  have grounded := kept.grounded place _ here
  cases reached : batch.stage place with
  | done other =>
      rw [reached] at done grounded
      cases done
      exact grounded.2
  | _ =>
      rw [reached] at done
      cases done

end Batch

/-! ## Histories -/

namespace Interpreter

/-- Calls in a row, and calls that overlap, with what they have returned and settled. -/
inductive History (interpreter : Interpreter State) (before : Progress State) :
    List Competitor → List Settlement → Progress State → Prop where
  | begun : History interpreter before [] [] before
  | called {returned : List Competitor} {ledger : List Settlement} {progress : Progress State}
      (earlier : History interpreter before returned ledger progress) (entry : Entry) :
      History interpreter before (returned ++ [(interpreter.interpret entry progress).1])
        (ledger ++ interpreter.settles entry progress) (interpreter.interpret entry progress).2
  | overlapped {returned : List Competitor} {ledger : List Settlement} {progress : Progress State}
      (earlier : History interpreter before returned ledger progress) (entries : List Entry)
      (schedule : List Nat) {first last : Batch State} (started : first.progress = progress)
      (fresh : first.Fresh) (ran : last = Batch.run interpreter entries schedule first)
      (finished : Batch.Finished entries last) :
      History interpreter before (returned ++ Batch.results entries last)
        (ledger ++ Batch.settlements interpreter entries schedule first) last.progress

variable {before after : Progress State} {returned : List Competitor} {later : List Settlement}

theorem History.trans {between : Progress State} {further : List Competitor}
    (first : interpreter.History before returned ledger between)
    (second : interpreter.History between further later after) :
    interpreter.History before (returned ++ further) (ledger ++ later) after := by
  induction second with
  | begun =>
      rw [List.append_nil, List.append_nil]
      exact first
  | called earlier entry induction =>
      rw [← List.append_assoc, ← List.append_assoc]
      exact .called induction entry
  | overlapped earlier entries schedule started fresh ran finished induction =>
      rw [← List.append_assoc, ← List.append_assoc]
      exact .overlapped induction entries schedule started fresh ran finished

/-- Every step keeps the accounts, and so does a whole history. -/
theorem History.accounted (history : interpreter.History before returned later after)
    (undisturbed : interpreter.Undisturbed)
    (accounted : interpreter.Accounted ledger before.cache) :
    interpreter.Accounted (ledger ++ later) after.cache ∧
      ∀ result ∈ returned, interpreter.Tells (ledger ++ later) result := by
  induction history with
  | begun =>
      rw [List.append_nil]
      exact ⟨accounted, fun result member => (List.not_mem_nil member).elim⟩
  | called earlier entry induction =>
      rcases induction with ⟨held, told⟩
      rcases held.interpret undisturbed entry with ⟨kept, tells⟩
      rw [← List.append_assoc]
      refine ⟨kept, fun result member => ?_⟩
      rcases List.mem_append.mp member with old | new
      · exact (told result old).mono _
      · rw [List.mem_singleton.mp new]
        exact tells
  | overlapped earlier entries schedule started fresh ran finished induction =>
      rcases induction with ⟨held, told⟩
      rw [← started] at held
      have kept := (fresh.kept entries held).run undisturbed schedule
      rw [← ran] at kept
      rw [← List.append_assoc]
      refine ⟨kept.accounted, fun result member => ?_⟩
      rcases List.mem_append.mp member with old | new
      · exact (told result old).mono _
      · exact kept.tells new

end Interpreter

namespace Tournament

open Interpreter (History)

variable {before progress after : Progress State} {returned : List Competitor}

/-! ## Tournaments continue a history -/

/-- The calls for the first entries of each key come after those before. -/
theorem interpretFirsts_history (entries : List Entry) (seen : List StrategyKey)
    (history : interpreter.History before returned ledger progress) :
    ∃ further later, interpreter.History before further later
        (interpretFirsts interpreter seen entries progress).2 ∧ returned ⊆ further ∧
      ∀ pair ∈ (interpretFirsts interpreter seen entries progress).1,
        ∀ competitor, pair.2 = some competitor → competitor ∈ further := by
  induction entries generalizing seen progress returned ledger with
  | nil =>
      exact ⟨_, _, history, List.Subset.refl _, fun _ member => (List.not_mem_nil member).elim⟩
  | cons entry rest induction =>
      rw [interpretFirsts]
      split
      · rcases induction seen history with ⟨further, later, more, kept, among⟩
        refine ⟨further, later, more, kept, List.forall_mem_cons.mpr ⟨?_, among⟩⟩
        intro competitor found
        cases found
      · rcases induction (.ofText entry.text :: seen) (history.called entry) with
          ⟨further, later, more, kept, among⟩
        refine ⟨further, later, more, List.Subset.trans (List.subset_append_left ..) kept,
          List.forall_mem_cons.mpr ⟨?_, among⟩⟩
        intro competitor found
        cases found
        exact kept (List.mem_append_right _ (List.mem_singleton_self _))

/-- And so do the calls for all other entries. -/
theorem interpretRepeats_history {outcomes : List (Entry × Option Competitor)}
    (history : interpreter.History before returned ledger progress)
    (among : ∀ pair ∈ outcomes, ∀ competitor, pair.2 = some competitor → competitor ∈ returned) :
    ∃ further later, interpreter.History before further later
        (interpretRepeats interpreter outcomes progress).2 ∧ returned ⊆ further ∧
      ∀ competitor ∈ (interpretRepeats interpreter outcomes progress).1,
        competitor ∈ further := by
  induction outcomes generalizing progress returned ledger with
  | nil =>
      exact ⟨_, _, history, List.Subset.refl _, fun _ member => (List.not_mem_nil member).elim⟩
  | cons pair rest induction =>
      rcases List.forall_mem_cons.mp among with ⟨first, others⟩
      rcases pair with ⟨entry, _ | competitor⟩
      · have later : ∀ pair ∈ rest, ∀ competitor, pair.2 = some competitor →
            competitor ∈ returned ++ [(interpreter.interpret entry progress).1] :=
          fun pair member competitor found =>
            List.mem_append_left _ (others pair member competitor found)
        rcases induction (history.called entry) later with ⟨further, later, more, kept, told⟩
        rw [interpretRepeats]
        refine ⟨further, later, more, List.Subset.trans (List.subset_append_left ..) kept,
          List.forall_mem_cons.mpr ⟨?_, told⟩⟩
        exact kept (List.mem_append_right _ (List.mem_singleton_self _))
      · rcases induction history others with ⟨further, later, more, kept, told⟩
        rw [interpretRepeats]
        exact ⟨further, later, more, kept,
          List.forall_mem_cons.mpr ⟨kept (first competitor rfl), told⟩⟩

theorem mem_results {batch : Batch State} {place : Nat} {competitor : Competitor}
    (within : place < entries.length) (done : (batch.stage place).result? = some competitor) :
    competitor ∈ Batch.results entries batch :=
  List.mem_filterMap.mpr ⟨place, List.mem_range.mpr within, done⟩

/-- However a field is interpreted, it is a matter of calls. -/
theorem Interprets.history {parallel : Bool} {competitors : List Competitor}
    (interprets : Interprets parallel interpreter entries before competitors after) :
    ∃ returned ledger, interpreter.History before returned ledger after ∧
      ∀ competitor ∈ competitors, competitor ∈ returned := by
  cases interprets with
  | inTurn =>
      have began : interpreter.History before [] [] before := .begun
      rcases interpretFirsts_history entries [] began with
        ⟨firsts, earlier, history, _, among⟩
      rcases interpretRepeats_history history among with ⟨further, later, more, _, told⟩
      exact ⟨further, later, more, told⟩
  | @byWorkers schedule batch allowed ran finished =>
      have history : interpreter.History before _ _ batch.progress :=
        .overlapped .begun entries schedule rfl (Batch.fresh_start entries before) ran finished
      have among : ∀ pair ∈ entries.mapIdx fun place entry => (entry, (batch.stage place).result?),
          ∀ competitor, pair.2 = some competitor →
            competitor ∈ [] ++ Batch.results entries batch := by
        intro pair member competitor found
        rcases List.mem_mapIdx.mp member with ⟨place, within, rfl⟩
        exact mem_results within found
      rcases interpretRepeats_history history among with ⟨further, later, more, _, told⟩
      exact ⟨further, later, more, told⟩

/-! ## What a report shows -/

section Report

variable {competitors : List Competitor} (payoff : Payoff) (rounds : UInt32)
  (distinct : (competitors.map Competitor.name).Nodup)

include distinct

theorem audited_standing (told : ∀ competitor ∈ competitors, interpreter.Tells ledger competitor)
    {standing : Standing}
    (member : standing ∈ (playAll payoff competitors rounds).standings.values) :
    ∃ entry ∈ competitors.map (·.entry), entry.name = standing.name ∧
      Audited ledger (.ofText entry.text) standing.degraded standing.provenance
        standing.fallbackReason := by
  rcases List.mem_map.mp ((values_playAll_perm payoff rounds distinct).mem_iff.mp member) with
    ⟨competitor, known, rfl⟩
  exact ⟨competitor.entry, List.mem_map_of_mem known, rfl, (told competitor known).audited⟩

theorem names_degraded_perm
    (told : ∀ competitor ∈ competitors, interpreter.Tells ledger competitor) :
    ((playAll payoff competitors rounds).degraded.map (·.name)).Perm
      (((competitors.map (·.entry)).filter fun entry => failedFirst ledger entry.text).map
        Entry.name) := by
  have failed : ∀ competitor ∈ competitors,
      competitor.isDegraded = failedFirst ledger competitor.entry.text := by
    intro competitor member
    rw [Bool.eq_iff_iff, failedFirst_iff]
    exact (told competitor member).audited.failed
  have listed := ((values_playAll_perm payoff rounds distinct).filter (·.degraded)).map (·.name)
  rw [List.filter_map, List.map_map] at listed
  refine listed.trans (.of_eq ?_)
  rw [List.filter_map, List.map_map]
  exact congrArg _ (List.filter_congr failed)

end Report

/-- Everything that was handed out says of itself whether the first resolution of its text
failed, and why. In a later tournament, the standings do so too. Those that are listed as
degraded are the entries whose text failed, each with the reason for it. -/
theorem degraded_audited (interpreter : Interpreter State)
    (undisturbed : interpreter.Undisturbed) (translator : State) {returned : List Competitor}
    {ledger : List Settlement} {progress : Progress State}
    (history : interpreter.History (.start translator) returned ledger progress) :
    (∀ result ∈ returned, Audited ledger (.ofText result.entry.text) result.isDegraded
      result.provenance result.fallbackReason) ∧
    (∀ pair ∈ progress.cache.entries, pair.2.provenance ≠ .cached) ∧
    ∀ settings field rounds report after,
      Runs settings interpreter field rounds progress (.ok report) after →
      ∃ further later,
        interpreter.History (.start translator) (returned ++ further) (ledger ++ later) after ∧
        (∀ pair ∈ after.cache.entries, pair.2.provenance ≠ .cached) ∧
        (∀ standing ∈ report.standings.values, ∃ entry ∈ field, entry.name = standing.name ∧
          Audited (ledger ++ later) (.ofText entry.text) standing.degraded standing.provenance
            standing.fallbackReason) ∧
        (report.degraded.map (·.name)).Perm
          ((field.filter fun entry => failedFirst (ledger ++ later) entry.text).map Entry.name) ∧
        ∀ standing ∈ report.degraded, ∃ reason, standing.fallbackReason = some reason ∧
          Table.degradedLine standing = s!"  {standing.name}: " ++ reason := by
  have accounts := history.accounted undisturbed Interpreter.accounted_empty
  rw [List.nil_append] at accounts
  rcases accounts with ⟨accounted, told⟩
  refine ⟨fun result member => (told result member).audited,
    fun pair member => accounted.not_cached member, ?_⟩
  intro settings field rounds report after runs
  cases runs with
  | @played competitors _ passed interprets =>
      rcases interprets.history with ⟨further, later, more, among⟩
      rcases more.accounted undisturbed accounted with ⟨kept, tells⟩
      have own : ∀ competitor ∈ competitors, interpreter.Tells (ledger ++ later) competitor :=
        fun competitor member => tells competitor (among competitor member)
      have distinct := (Setup.check_eq_ok.mp passed).2.2
      rw [← interprets.founded.entries, List.map_map] at distinct
      have audited := fun standing => @audited_standing _ interpreter _ competitors
        settings.payoff rounds distinct own standing
      rw [← interprets.founded.entries]
      refine ⟨further, later, history.trans more, fun pair member => kept.not_cached member,
        audited, names_degraded_perm settings.payoff rounds distinct own, fun standing member => ?_⟩
      rcases List.mem_filter.mp member with ⟨stands, degraded⟩
      rcases audited standing stands with ⟨entry, _, _, agrees⟩
      rcases Option.isSome_iff_exists.mp (agrees.reasoned.mp degraded) with ⟨reason, given⟩
      refine ⟨reason, given, ?_⟩
      rw [Table.degradedLine, given]
      rfl

/-- The translator has no idea at first. A text that it was asked about then stays degraded,
while another one is understood. -/
theorem degraded_audited_at_first :
    let translator : Translator Nat := ⟨fun _ asked =>
      (.immediate (.ok (if asked = 0 then .failed "no idea" else .template "grim_trigger")),
        asked + 1)⟩
    let interpreter : Interpreter Nat := ⟨translator, .standard, Template.titForTat.asFunction 0⟩
    let lost : Entry := ⟨"lost", "QWERTZ"⟩
    let called := interpreter.interpret lost (.start 0)
    let entries : List Entry := [⟨"left", "Bear a grudge"⟩, ⟨"right", "qwertz"⟩]
    let reason := "translator declined the strategy: no idea"
    Audited (interpreter.settles lost (.start 0)) (.ofText lost.text) true .fallback (some reason) ∧
      ∃ report, (run .standard interpreter entries 3 called.2).1 = .ok report ∧
        report.degraded.map Table.degradedLine = ["  right: " ++ reason] ∧
        ∀ standing ∈ report.degraded, ∃ reason, standing.fallbackReason = some reason := by
  intro translator interpreter lost called entries reason
  have undisturbed : interpreter.Undisturbed := fun _ _ => rfl
  have history : interpreter.History (.start 0) [called.1] (interpreter.settles lost (.start 0))
      called.2 :=
    .called .begun lost
  rcases degraded_audited interpreter undisturbed 0 history with ⟨audited, _, tournaments⟩
  have shown : (called.1.isDegraded, called.1.provenance, called.1.fallbackReason) =
      (true, .fallback, some reason) := by
    decide +kernel
  have lines : (run .standard interpreter entries 3 called.2).1.toOption.map
      (fun report => report.degraded.map Table.degradedLine) = some ["  right: " ++ reason] := by
    decide +kernel
  have kept : called.1.entry = lost := by decide +kernel
  constructor
  · have agrees := audited called.1 (List.mem_singleton_self _)
    rw [Prod.mk.injEq, Prod.mk.injEq] at shown
    rw [kept, shown.1, shown.2.1, shown.2.2] at agrees
    exact agrees
  · have runs := runs_run .standard interpreter entries 3 called.2
    rcases ran : (run .standard interpreter entries 3 called.2).1 with error | report
    · rw [ran] at lines
      cases lines
    · rw [ran] at lines runs
      rcases tournaments _ _ _ report _ runs with ⟨_, _, _, _, _, _, reasons⟩
      refine ⟨report, rfl, Option.some.inj lines, fun standing member => ?_⟩
      rcases reasons standing member with ⟨given, found, _⟩
      exact ⟨given, found⟩

end Tournament

end Dilemma
