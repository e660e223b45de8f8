import Dilemma.Proofs.Play.Anomalies
import Dilemma.Proofs.Text.ByteOrder
import Dilemma.Proofs.Text.Lines
import Dilemma.Tournament.Table

/-! # Lines of the table

What a report says is put on single lines only, so the lines of the printed table are the ones
that were meant: one for each standing in the order of the ranking, one for each standing with a
fallback in the order of the names, and one for each anomaly in the order in which it was
recorded. -/

namespace Dilemma

open Text (IsLine)

/-! ## The ranking -/

/-- A higher total, or the same one and a name that does not come later by its bytes. -/
def Standing.Precedes (left right : Standing) : Prop :=
  right.totalScore < left.totalScore ∨ left.totalScore = right.totalScore ∧
    ¬Text.BytesLess (Text.bytes right.name) (Text.bytes left.name)

namespace Report

theorem ranksBefore_eq_true {left right : Standing} :
    ranksBefore left right = true ↔ left.Precedes right := by
  rw [ranksBefore, Standing.Precedes, Text.bytesLess_iff, String.not_lt, Bool.or_eq_true,
    Bool.and_eq_true, decide_eq_true_eq, decide_eq_true_eq, decide_eq_true_eq]

theorem ranksBefore_trans (first second third : Standing)
    (earlier : ranksBefore first second = true) (later : ranksBefore second third = true) :
    ranksBefore first third = true := by
  simp only [ranksBefore, Bool.or_eq_true, Bool.and_eq_true, decide_eq_true_eq] at earlier later ⊢
  rcases earlier with less | ⟨same, ordered⟩
  · exact .inl (by omega)
  · rcases later with less | ⟨alike, behind⟩
    · exact .inl (by omega)
    · exact .inr ⟨same.trans alike, String.le_trans ordered behind⟩

theorem ranksBefore_total (left right : Standing) :
    (ranksBefore left right || ranksBefore right left) = true := by
  simp only [ranksBefore, Bool.or_eq_true, Bool.and_eq_true, decide_eq_true_eq]
  rcases Int.lt_trichotomy left.totalScore right.totalScore with less | same | greater
  · exact .inr (.inl less)
  · rcases String.le_total left.name right.name with ordered | ordered
    · exact .inl (.inr ⟨same, ordered⟩)
    · exact .inr (.inr ⟨same.symm, ordered⟩)
  · exact .inl (.inl greater)

theorem pairwise_leaderboard (report : Report) :
    report.leaderboard.Pairwise Standing.Precedes :=
  (List.pairwise_mergeSort ranksBefore_trans ranksBefore_total report.standings.values).imp
    ranksBefore_eq_true.mp

theorem leaderboard_perm (report : Report) :
    report.leaderboard.Perm report.standings.values :=
  List.mergeSort_perm _ _

end Report

/-! ## What is on a line -/

namespace Table

theorem isLine_tenths (value : Binary64) : IsLine (tenths value) := by
  rw [IsLine, tenths, String.toList_ofList]
  rcases value with ⟨negative, rank⟩ | negative | _
  · have point : '\n' ≠ '.' := by decide
    have minus : '\n' ≠ '-' := by decide
    cases negative <;>
      simp [Binary64.tenthsText, Binary64.withSign, Text.not_mem_toDigits, point, minus]
  · cases negative <;> decide
  · decide

theorem isLine_percent (rate : Option Binary64) : IsLine (percent rate) := by
  rcases rate with _ | rate
  · decide
  · exact Text.isLine_append.mpr ⟨isLine_tenths _, by decide⟩

/-- A fallback from the cache has a source of its own, and nothing else has it. -/
theorem source_eq_iff (standing : Standing) :
    source standing = "cached fallback" ↔
      standing.degraded = true ∧ standing.provenance ≠ .fallback := by
  rw [source]
  split
  · rename_i fallback
    exact iff_of_true rfl fallback
  · rename_i other
    refine iff_of_false ?_ other
    cases standing.provenance <;> decide

theorem source_of_ne {standing : Standing} (other : source standing ≠ "cached fallback") :
    source standing = standing.provenance.label := by
  rw [source] at other ⊢
  split at other
  · exact absurd rfl other
  · rename_i fresh
    exact if_neg fresh

theorem isLine_source (standing : Standing) : IsLine (source standing) := by
  rw [source]
  split
  · decide
  · cases standing.provenance <;> decide

theorem isLine_row (rank : Nat) {standing : Standing} (name : IsLine standing.name) :
    IsLine (row rank standing) := by
  have blank : IsLine " " ∧ IsLine "  " := by decide
  simp only [row, columns, Text.isLine_append, Text.isLine_padLeft, Text.isLine_padRight,
    Text.isLine_natural, Text.isLine_integer, isLine_tenths, isLine_percent, isLine_source, name,
    blank, and_self]

theorem isLine_of_mem_headings (report : Report) : ∀ line ∈ headings report, IsLine line := by
  rw [headings, List.forall_mem_cons, List.forall_mem_singleton]
  constructor
  · simp only [Text.isLine_append, Text.isLine_natural, Text.isLine_uint32, Text.isLine_int32,
      true_and, and_true]
    decide
  · decide +kernel

/-! ## Rows -/

/-- So many blanks. -/
def blanks (count : Nat) : String := String.ofList (List.replicate count ' ')

theorem blanks_succ (count : Nat) : blanks (count + 1) = " " ++ blanks count := by
  rw [blanks, List.replicate_succ, ← List.singleton_append, String.ofList_append, blanks]

theorem blanks_between (before behind : Nat) :
    blanks (before + behind + 1) = blanks before ++ (" " ++ blanks behind) := by
  rw [← blanks_succ, Nat.add_assoc, blanks, List.replicate_add, String.ofList_append, blanks,
    blanks]

theorem padLeft_eq (width : Nat) (text : String) :
    Text.padLeft width text = blanks (width - text.length) ++ text := rfl

theorem padRight_eq (width : Nat) (text : String) :
    Text.padRight width text = text ++ blanks (width - text.length) := rfl

/-- The rank is the first thing in the row. Apart from it and from each other come the name, the
total, the score for a hundred rounds, the share of cooperation, the number of anomalies and, at
the end, the source. -/
def Shows (rank : Nat) (standing : Standing) (row : String) : Prop :=
  ∃ (margin first second third fourth : Nat) (source : String),
    row = blanks margin ++ toString rank ++ "  " ++ standing.name ++ blanks (first + 1) ++
        toString standing.totalScore ++ blanks (second + 1) ++ tenths standing.normalizedScore ++
        blanks (third + 1) ++ percent standing.cooperationRate ++ blanks (fourth + 1) ++
        toString standing.anomalies ++ "  " ++ source ∧
      (source = "cached fallback" ↔ standing.degraded = true ∧ standing.provenance ≠ .fallback) ∧
      (source ≠ "cached fallback" → source = standing.provenance.label)

theorem shows_row (rank : Nat) (standing : Standing) : Shows rank standing (row rank standing) := by
  refine ⟨4 - (toString rank).length,
    20 - standing.name.length + (8 - (toString standing.totalScore).length),
    9 - (tenths standing.normalizedScore).length, 8 - (percent standing.cooperationRate).length,
    7 - (toString standing.anomalies).length, source standing, ?_, source_eq_iff standing,
    source_of_ne⟩
  rw [row, columns, blanks_between]
  simp only [padLeft_eq, padRight_eq, blanks_succ, String.append_assoc]

theorem length_rows (rank : Nat) (standings : List Standing) :
    (rows rank standings).length = standings.length := by
  induction standings generalizing rank with
  | nil => rfl
  | cons standing rest induction => exact congrArg (· + 1) (induction (rank + 1))

/-- Ranks count the rows. -/
theorem getElem?_rows (rank : Nat) (standings : List Standing) (index : Nat) :
    (rows rank standings)[index]? = standings[index]?.map (row (rank + index)) := by
  induction standings generalizing rank index with
  | nil => rfl
  | cons standing rest induction =>
      cases index with
      | zero => rfl
      | succ index =>
          rw [rows, List.getElem?_cons_succ, List.getElem?_cons_succ, induction,
            Nat.add_right_comm, Nat.add_assoc]

/-- A name that is too long moves the rest of its row. -/
example :
    rows 9 [⟨"always a step behind them", 3, 1, 1, 1, 0, .cached, true, none, ""⟩,
      ⟨"b", -2, 1, 1, 0, 1, .fallback, true, none, ""⟩] =
    ["   9  always a step behind them        3     300.0   100.0%       0  cached fallback",
      "  10  b                          -2    -200.0     0.0%       1  fallback"] := by
  decide +kernel

/-! ## The whole table -/

/-- What a report has to say without line feeds, so that each entry of the table is a line. -/
structure SingleLined (report : Report) : Prop where
  names : ∀ standing ∈ report.standings.values, IsLine standing.name
  reasons : ∀ standing ∈ report.standings.values, ∀ reason,
    standing.fallbackReason = some reason → IsLine reason
  anomalies : ∀ anomaly ∈ report.anomalies, IsLine anomaly.text

theorem titled_eq (title : String) (entries : List String) :
    titled title entries = if entries.isEmpty then [] else "" :: title :: entries := by
  cases entries <;> rfl

theorem isLine_of_mem_titled {title : String} {entries : List String} (heading : IsLine title)
    (single : ∀ line ∈ entries, IsLine line) : ∀ line ∈ titled title entries, IsLine line := by
  cases entries with
  | nil => exact fun _ member => by cases member
  | cons entry rest =>
      exact List.forall_mem_cons.mpr
        ⟨by decide, List.forall_mem_cons.mpr ⟨heading, single⟩⟩

theorem isLine_of_mem_rows {standings : List Standing}
    (names : ∀ standing ∈ standings, IsLine standing.name) (rank : Nat) :
    ∀ line ∈ rows rank standings, IsLine line := by
  induction standings generalizing rank with
  | nil => exact fun _ member => by cases member
  | cons standing rest induction =>
      rw [List.forall_mem_cons] at names
      exact List.forall_mem_cons.mpr ⟨isLine_row rank names.1, induction names.2 (rank + 1)⟩

theorem degradedLine_eq (standing : Standing) :
    degradedLine standing = "  " ++ standing.name ++ ": " ++
      standing.fallbackReason.getD "same text failed earlier" := rfl

theorem isLine_degradedLine {standing : Standing} (name : IsLine standing.name)
    (reason : ∀ reason, standing.fallbackReason = some reason → IsLine reason) :
    IsLine (degradedLine standing) := by
  have given : IsLine (standing.fallbackReason.getD "same text failed earlier") := by
    cases known : standing.fallbackReason with
    | none => decide
    | some text => exact reason text known
  rw [degradedLine_eq]
  simp only [Text.isLine_append, name, given, and_true]
  decide

theorem isLine_of_mem_lines {report : Report} (single : SingleLined report) :
    ∀ line ∈ lines report, IsLine line := by
  have ranked : ∀ standing ∈ report.leaderboard, IsLine standing.name := fun standing member =>
    single.names standing (report.leaderboard_perm.mem_iff.mp member)
  have degraded : ∀ line ∈ report.degraded.map degradedLine, IsLine line := by
    intro line member
    rcases List.mem_map.mp member with ⟨standing, among, rfl⟩
    have known := (List.mem_filter.mp among).1
    exact isLine_degradedLine (single.names standing known) (single.reasons standing known)
  have noted : ∀ line ∈ report.anomalies.map anomalyLine, IsLine line := by
    intro line member
    rcases List.mem_map.mp member with ⟨anomaly, among, rfl⟩
    exact Text.isLine_append.mpr ⟨by decide, single.anomalies anomaly among⟩
  rw [lines, List.forall_mem_append, List.forall_mem_append, List.forall_mem_append]
  exact ⟨⟨⟨isLine_of_mem_headings report, isLine_of_mem_rows ranked 1⟩,
    isLine_of_mem_titled (by decide) degraded⟩, isLine_of_mem_titled (by decide) noted⟩

/-- How the lines of the table are made up. -/
structure Layout (report : Report) (headings rows : List String)
    (fallbacks : List (String × Standing)) (lines : List String) : Prop where
  length_headings : headings.length = 2
  length_rows : rows.length = report.leaderboard.length
  shows : ∀ (index : Nat) (standing : Standing), report.leaderboard[index]? = some standing →
    ∃ row, rows[index]? = some row ∧ Shows (index + 1) standing row
  /-- Fallbacks come in the order of the names under which they stand. -/
  ordered : fallbacks.Pairwise fun earlier later =>
    Text.BytesLess (Text.bytes earlier.1) (Text.bytes later.1)
  mem_fallbacks : ∀ entry, entry ∈ fallbacks ↔
    entry ∈ report.standings.entries ∧ entry.2.degraded = true
  lines_eq : lines = headings ++ rows ++
    (if fallbacks.isEmpty then [] else ["", "playing the fallback:"] ++
      fallbacks.map fun entry => "  " ++ entry.2.name ++ ": " ++
        entry.2.fallbackReason.getD "same text failed earlier") ++
    (if (report.played.flatMap fun game => game.rounds.flatMap (·.anomalies)).isEmpty then []
      else ["", "runtime anomalies:"] ++
        (report.played.flatMap fun game => game.rounds.flatMap (·.anomalies)).map fun anomaly =>
          "  " ++ anomaly.text)

theorem degraded_eq (report : Report) :
    report.degraded = (report.standings.entries.filter (·.2.degraded)).map (·.2) := by
  rw [Report.degraded, NameMap.values, List.filter_map]
  rfl

theorem layout (report : Report) :
    Layout report (headings report) (rows 1 report.leaderboard)
      (report.standings.entries.filter (·.2.degraded)) (lines report) where
  length_headings := rfl
  length_rows := length_rows 1 report.leaderboard
  shows := by
    intro index standing found
    refine ⟨row (index + 1) standing, ?_, shows_row (index + 1) standing⟩
    rw [getElem?_rows, found, Nat.add_comm]
    rfl
  ordered := by
    have kept := report.standings.sorted.filter (fun entry => entry.2.degraded)
    refine kept.imp fun less => ?_
    exact Text.bytesLess_iff.mpr less
  mem_fallbacks := fun entry => List.mem_filter
  lines_eq := by
    rw [lines, titled_eq, titled_eq, degraded_eq, List.map_map, List.isEmpty_map, List.isEmpty_map]
    rfl

/-- The table has its headings, a row for each standing, a line for each fallback and one for each
anomaly, and it has no other lines. Rows are in the order of the ranking, fallbacks in the order
of their names, and anomalies as they were recorded, which is round by round and seat by seat in
a match that was played. -/
theorem lists_every_entry (report : Report) (single : SingleLined report) :
    (∃ headings rows fallbacks lines, Layout report headings rows fallbacks lines ∧
      render report = String.join (lines.map (· ++ "\n")) ∧
      Text.lines (render report).toList = lines.map String.toList) ∧
    report.leaderboard.Perm report.standings.values ∧
    report.leaderboard.Pairwise Standing.Precedes ∧
    ∀ game ∈ report.played, (∃ payoff a b rounds, game = Match.play payoff a b rounds) →
      game.anomalies.Pairwise Anomaly.Before := by
  refine ⟨⟨_, _, _, lines report, layout report, rfl, ?_⟩, report.leaderboard_perm,
    report.pairwise_leaderboard, ?_⟩
  · exact Text.lines_join (isLine_of_mem_lines single)
  · rintro game member ⟨payoff, a, b, rounds, rfl⟩
    exact Match.pairwise_anomalies_play payoff a b rounds

end Table

/-- A fallback from the cache without a reason, a fresh one that fails to decide, and a player
with its own logic. -/
def Report.withFallbacks : Report where
  roundsPerMatch := 1
  payoff := .classic
  standings :=
    ⟨[("a", ⟨"a", 3, 1, 1, 1, 0, .cached, true, none, "x"⟩),
      ("b", ⟨"b", 0, 1, 1, 0, 1, .fallback, true, some "y", "z"⟩),
      ("c", ⟨"c", 5, 1, 1, 1, 0, .freshlyInterpreted, false, none, "w"⟩)],
      by decide⟩
  played := [⟨"b", "c", [⟨0, .cooperate, .defect, 3, 0, [⟨0, .b, "b", "v"⟩]⟩]⟩]

theorem Table.lists_every_entry_with_fallbacks :
    Table.SingleLined Report.withFallbacks ∧
    (∃ headings rows fallbacks lines,
      Table.Layout Report.withFallbacks headings rows fallbacks lines ∧
      Table.render Report.withFallbacks = String.join (lines.map (· ++ "\n")) ∧
      Text.lines (Table.render Report.withFallbacks).toList = lines.map String.toList) ∧
    Report.withFallbacks.leaderboard.Pairwise Standing.Precedes := by
  have single : Table.SingleLined Report.withFallbacks := by
    refine ⟨by decide, ?_, by decide⟩
    refine List.forall_mem_cons.mpr ⟨?_, List.forall_mem_cons.mpr
      ⟨?_, List.forall_mem_singleton.mpr ?_⟩⟩ <;> rintro reason given <;> cases given
    decide
  have listed := Table.lists_every_entry Report.withFallbacks single
  exact ⟨single, listed.1, listed.2.2.1⟩

end Dilemma
