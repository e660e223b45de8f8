import Dilemma.Proofs.Json.Records
import Dilemma.Proofs.Json.Written
import Dilemma.Proofs.Tournament.Standings
import Dilemma.Tournament.Table
import Dilemma.Wire.Report

/-! # Reports come back

Each record is written with all of its data, so it is read back as itself. Fields that are
left out are the empty ones, and the standings are in the order in which a map is filled
again. -/

namespace Dilemma

namespace Json

/-- The JSON value can be written, whatever is made of real numbers, since it has none. What
reads it back gets the value it stands for. -/
structure Carries {α : Type} (read : Json → Option α) (json : Json) (value : α) : Prop where
  writable : ∀ numbers, json.IsWritable numbers
  back : read json = some value

namespace Carries

/-! ## Fields -/

theorem integer {low high value : Int} (atLeast : low ≤ value) (atMost : value ≤ high)
    (inRange : InRange value) : Carries (integer? low high) (.integer value) value :=
  ⟨fun _ => inRange, if_pos ⟨atLeast, atMost⟩⟩

theorem int64 {value : Int} (atLeast : Int64.minValue.toInt ≤ value)
    (atMost : value ≤ Int64.maxValue.toInt) : Carries int64? (.integer value) value :=
  integer atLeast atMost ⟨atLeast, Int.lt_of_le_of_lt atMost (by decide)⟩

theorem natural {bound value : Nat} (below : value < bound) (small : bound ≤ UInt64.size) :
    Carries (natural? bound) (.integer value) value := by
  have low : Int64.minValue.toInt ≤ 0 := by decide
  have whole : Carries (integer? 0 (bound - 1)) (.integer value) value :=
    integer (by omega) (by omega) ⟨by omega, by omega⟩
  refine ⟨whole.writable, ?_⟩
  rw [natural?, whole.back]
  rfl

theorem uint64 {value : Nat} (below : value < UInt64.size) :
    Carries uint64? (.integer value) value :=
  natural below (Nat.le_refl _)

theorem uint32 (value : UInt32) : Carries uint32? (.integer value.toNat) value := by
  have whole := natural value.toNat_lt_size (show UInt32.size ≤ UInt64.size by decide)
  refine ⟨whole.writable, ?_⟩
  rw [uint32?, whole.back, Option.map_some, UInt32.ofNat_toNat]

theorem int32 (value : Int32) : Carries int32? (.integer value.toInt) value := by
  have low : Int64.minValue.toInt ≤ Int32.minValue.toInt := by decide
  have high : Int32.maxValue.toInt < UInt64.size := by decide
  have atLeast : Int32.minValue.toInt ≤ value.toInt := Int32.minValue_le_toInt value
  have atMost : value.toInt ≤ Int32.maxValue.toInt := Int32.toInt_le value
  have whole := integer atLeast atMost ⟨low.trans atLeast, atMost.trans_lt high⟩
  refine ⟨whole.writable, ?_⟩
  rw [int32?, whole.back, Option.map_some, Int32.ofInt_toInt]

theorem list {α : Type} {read : Json → Option α} {write : α → Json} {values : List α}
    (all : ∀ value ∈ values, Carries read (write value) value) :
    Carries (list? read) (.array (values.map write)) values := by
  refine ⟨fun numbers => areWritable_iff.mpr fun item member => ?_, list?_map fun value member =>
    (all value member).back⟩
  rcases List.mem_map.mp member with ⟨value, among, rfl⟩
  exact (all value among).writable numbers

end Carries

end Json

open Json (Carries)

/-! ## Moves, seats and matches -/

theorem Move.carries (move : Move) : Carries ofJson? move.toJson move :=
  ⟨fun _ => trivial, ofName?_name move⟩

theorem Seat.carries (seat : Seat) : Carries ofJson? seat.toJson seat :=
  ⟨fun _ => trivial, ofName?_name seat⟩

theorem Provenance.carries (provenance : Provenance) :
    Carries ofJson? provenance.toJson provenance :=
  ⟨fun _ => trivial, ofName?_name provenance⟩

theorem Payoff.ofValues_eq_ok (payoff : Payoff) :
    ofValues payoff.temptation payoff.reward payoff.punishment payoff.sucker = .ok payoff :=
  dif_pos ⟨payoff.reward_lt_temptation, payoff.punishment_lt_reward, payoff.sucker_lt_punishment⟩

theorem Payoff.carries (payoff : Payoff) : Carries ofJson? payoff.toJson payoff := by
  have temptation := Carries.int32 payoff.temptation
  have reward := Carries.int32 payoff.reward
  have punishment := Carries.int32 payoff.punishment
  have sucker := Carries.int32 payoff.sucker
  have step : ofJson? payoff.toJson =
      (Json.int32? (.integer payoff.temptation.toInt)).bind fun temptation =>
        (Json.int32? (.integer payoff.reward.toInt)).bind fun reward =>
          (Json.int32? (.integer payoff.punishment.toInt)).bind fun punishment =>
            (Json.int32? (.integer payoff.sucker.toInt)).bind fun sucker =>
              (ofValues temptation reward punishment sucker).toOption := rfl
  refine ⟨fun numbers => ⟨temptation.writable numbers, reward.writable numbers,
    punishment.writable numbers, sucker.writable numbers, trivial⟩, ?_⟩
  rw [step, temptation.back, reward.back, punishment.back, sucker.back]
  simp only [Option.bind_some, ofValues_eq_ok]
  rfl

theorem Anomaly.carries (anomaly : Anomaly) : Carries ofJson? anomaly.toJson anomaly := by
  have round := Carries.uint32 anomaly.round
  have seat := Seat.carries anomaly.seat
  have step : ofJson? anomaly.toJson =
      (Json.uint32? (.integer anomaly.round.toNat)).bind fun round =>
        (Seat.ofJson? anomaly.seat.toJson).bind fun seat =>
          some ⟨round, seat, anomaly.strategy, anomaly.message⟩ := rfl
  refine ⟨fun numbers => ⟨round.writable numbers, seat.writable numbers, trivial, trivial,
    trivial⟩, ?_⟩
  rw [step, round.back, seat.back]
  rfl

/-- How a round is read once its anomalies are. -/
theorem Round.ofJson?_fields {json : Json} {round : Round} {anomalies : Option Json}
    (fields : json.fields? ["round", "move_a", "move_b", "score_a", "score_b", "anomalies"] =
      some [some (.integer round.round.toNat), some round.moveA.toJson, some round.moveB.toJson,
        some (.integer round.scoreA.toInt), some (.integer round.scoreB.toInt), anomalies])
    (listed : (anomalies.elim (some []) fun json => json.list? Anomaly.ofJson?) =
      some round.anomalies) : ofJson? json = some round := by
  have number := Carries.uint32 round.round
  have scoreA := Carries.int32 round.scoreA
  have scoreB := Carries.int32 round.scoreB
  rw [ofJson?, fields]
  simp only [Option.bind_eq_bind, Option.bind_some, number.back, round.moveA.carries.back,
    round.moveB.carries.back, scoreA.back, scoreB.back]
  rcases round with ⟨number, moveA, moveB, scoreA, scoreB, noted⟩
  cases anomalies with
  | none =>
      cases listed
      rfl
  | some json =>
      have back : json.list? Anomaly.ofJson? = some noted := listed
      simp only [back, Option.bind_some]
      rfl

theorem Round.carries (round : Round) : Carries ofJson? round.toJson round := by
  have number := Carries.uint32 round.round
  have scoreA := Carries.int32 round.scoreA
  have scoreB := Carries.int32 round.scoreB
  have listed := Carries.list fun anomaly (_ : anomaly ∈ round.anomalies) => anomaly.carries
  rcases round with ⟨number, moveA, moveB, scoreA, scoreB, _ | ⟨anomaly, anomalies⟩⟩
  · exact ⟨fun numbers => ⟨number.writable numbers, trivial, trivial, scoreA.writable numbers,
      scoreB.writable numbers, trivial⟩,
      ofJson?_fields rfl rfl⟩
  · exact ⟨fun numbers => ⟨number.writable numbers, trivial, trivial, scoreA.writable numbers,
      scoreB.writable numbers, listed.writable numbers, trivial⟩, ofJson?_fields rfl listed.back⟩

theorem Match.carries (game : Match) : Carries ofJson? game.toJson game := by
  have rounds := Carries.list fun round (_ : round ∈ game.rounds) => round.carries
  have step : ofJson? game.toJson =
      ((Json.array (game.rounds.map Round.toJson)).list? Round.ofJson?).bind fun rounds =>
        some ⟨game.playerA, game.playerB, rounds⟩ := rfl
  refine ⟨fun numbers => ⟨trivial, trivial, rounds.writable numbers, trivial⟩, ?_⟩
  rw [step, rounds.back]
  rfl

/-! ## Standings -/

/-- The numbers have 64 bits, the total with a sign. -/
structure Standing.Fits (standing : Standing) : Prop where
  totalScore_atLeast : Int64.minValue.toInt ≤ standing.totalScore
  totalScore_atMost : standing.totalScore ≤ Int64.maxValue.toInt
  matchesPlayed_below : standing.matchesPlayed < UInt64.size
  roundsPlayed_below : standing.roundsPlayed < UInt64.size
  cooperations_below : standing.cooperations < UInt64.size
  anomalies_below : standing.anomalies < UInt64.size

/-- How a standing is read once its reason is. -/
theorem Standing.ofJson?_fields {standing : Standing} (fits : standing.Fits) {json : Json}
    {reason : Option Json}
    (fields : json.fields? ["name", "total_score", "matches_played", "rounds_played",
      "cooperations", "anomalies", "provenance", "degraded", "fallback_reason", "logic"] =
      some [some (.text standing.name), some (.integer standing.totalScore),
        some (.integer standing.matchesPlayed), some (.integer standing.roundsPlayed),
        some (.integer standing.cooperations), some (.integer standing.anomalies),
        some standing.provenance.toJson, some (.boolean standing.degraded), reason,
        some (.text standing.logic)])
    (given : reason = standing.fallbackReason.map .text) : ofJson? json = some standing := by
  have totalScore := Carries.int64 fits.totalScore_atLeast fits.totalScore_atMost
  have matchesPlayed := Carries.uint64 fits.matchesPlayed_below
  have roundsPlayed := Carries.uint64 fits.roundsPlayed_below
  have cooperations := Carries.uint64 fits.cooperations_below
  have anomalies := Carries.uint64 fits.anomalies_below
  rw [ofJson?, fields, given]
  simp only [Option.bind_eq_bind, Option.bind_some, totalScore.back, matchesPlayed.back,
    roundsPlayed.back, cooperations.back, anomalies.back, standing.provenance.carries.back]
  rcases standing with ⟨_, _, _, _, _, _, _, _, _ | reason, _⟩ <;> rfl

theorem Standing.carries {standing : Standing} (fits : standing.Fits) :
    Carries ofJson? standing.toJson standing := by
  have totalScore := Carries.int64 fits.totalScore_atLeast fits.totalScore_atMost
  have matchesPlayed := Carries.uint64 fits.matchesPlayed_below
  have roundsPlayed := Carries.uint64 fits.roundsPlayed_below
  have cooperations := Carries.uint64 fits.cooperations_below
  have anomalies := Carries.uint64 fits.anomalies_below
  rcases standing with ⟨_, _, _, _, _, _, _, _, _ | reason, _⟩
  · exact ⟨fun numbers => ⟨trivial, totalScore.writable numbers, matchesPlayed.writable numbers,
      roundsPlayed.writable numbers, cooperations.writable numbers, anomalies.writable numbers,
      trivial, trivial, trivial, trivial⟩,
      ofJson?_fields fits rfl rfl⟩
  · exact ⟨fun numbers => ⟨trivial, totalScore.writable numbers, matchesPlayed.writable numbers,
      roundsPlayed.writable numbers, cooperations.writable numbers, anomalies.writable numbers,
      trivial, trivial, trivial, trivial, trivial⟩,
      ofJson?_fields fits rfl rfl⟩

/-- A map that is filled in the order of its names is the map again. -/
theorem NameMap.ofList_entries {α : Type} (map : NameMap α) : ofList map.entries = map := by
  have distinct : (map.entries.map (·.1)).Nodup :=
    List.pairwise_map.mpr (map.sorted.imp fun less => String.ne_of_lt less)
  exact eq_of_perm (ofList_perm distinct)

theorem standings_carried {map : NameMap Standing}
    (fit : ∀ entry ∈ map.entries, entry.2.Fits) :
    Carries standings?
      (.object (map.entries.map fun entry => (entry.1, entry.2.toJson))) map := by
  constructor
  · refine fun numbers => Json.membersWritable_iff.mpr fun member among => ?_
    rcases List.mem_map.mp among with ⟨entry, known, rfl⟩
    exact (Standing.carries (fit entry known)).writable numbers
  · have step (members : List (String × Json)) : standings? (.object members) =
        (members.mapM fun member => (Standing.ofJson? member.2).bind fun standing =>
          some (member.1, standing)).bind fun entries => some (NameMap.ofList entries) := rfl
    rw [step, Json.mapM_map, Option.bind_some, NameMap.ofList_entries]
    intro entry known
    rw [(Standing.carries (fit entry known)).back]
    rfl

/-! ## Reports -/

/-- Numbers of 64 bits in all standings. -/
def Report.Fits (report : Report) : Prop :=
  ∀ entry ∈ report.standings.entries, entry.2.Fits

theorem Report.carries {report : Report} (fits : report.Fits) :
    Carries ofJson? report.toJson report := by
  have rounds := Carries.uint32 report.roundsPerMatch
  have payoff := report.payoff.carries
  have standings := standings_carried fits
  have played := Carries.list fun game (_ : game ∈ report.played) => game.carries
  have step : ofJson? report.toJson =
      (Json.uint32? (.integer report.roundsPerMatch.toNat)).bind fun rounds =>
        (Payoff.ofJson? report.payoff.toJson).bind fun payoff =>
          (standings? (.object (report.standings.entries.map fun entry =>
            (entry.1, entry.2.toJson)))).bind fun standings =>
            ((Json.array (report.played.map Match.toJson)).list? Match.ofJson?).bind fun played =>
              some ⟨rounds, payoff, standings, played⟩ := rfl
  refine ⟨fun numbers => ⟨rounds.writable numbers, payoff.writable numbers,
    standings.writable numbers, played.writable numbers, trivial⟩, ?_⟩
  rw [step, rounds.back, payoff.back, standings.back, played.back]
  rfl

/-- The texts in which the report is written: compact, indented, and as a line of output. -/
def Report.texts (report : Report) : List String :=
  [report.toJson.compact, report.document, report.document ++ "\n"]

theorem Report.parse?_of_mem_texts {report : Report} (fits : report.Fits)
    (numbers : Json.NumberReader) {text : String} (written : text ∈ report.texts) :
    parse? numbers text = some report := by
  have whole := carries fits
  have parsed : Json.parse? numbers text = some report.toJson := by
    rcases List.mem_cons.mp written with rfl | written
    · exact Json.parse?_compact (whole.writable numbers)
    rcases List.mem_cons.mp written with rfl | written
    · have parsed := Json.parse?_indented (whole.writable numbers) .nil
      rwa [List.append_nil] at parsed
    · rw [List.mem_singleton.mp written]
      have parsed := Json.parse?_indented (whole.writable numbers) (.newline 0)
      rw [String.ofList_append] at parsed
      exact parsed
  rw [parse?, parsed]
  exact whole.back

/-- A report that was written is read back as it was, so nothing that is read off it changes.
It has no real numbers in it, so it does not matter how the reader rounds. -/
theorem reports_come_back (report : Report) (fits : report.Fits) (numbers : Json.NumberReader)
    (text : String) (written : text ∈ report.texts) :
    ∃ decoded, Report.parse? numbers text = some decoded ∧ decoded = report ∧
      decoded.leaderboard = report.leaderboard ∧ decoded.scores = report.scores ∧
      decoded.degraded = report.degraded ∧ decoded.anomalies = report.anomalies ∧
      Table.render decoded = Table.render report :=
  ⟨report, Report.parse?_of_mem_texts fits numbers written, rfl, rfl, rfl, rfl, rfl, rfl⟩

/-- One player is a fallback, with its reason, and its decision failed. -/
def Report.withAnomaly : Report where
  roundsPerMatch := 1
  payoff := .classic
  standings := ⟨[("a", ⟨"a", 0, 1, 1, 1, 0, .freshlyInterpreted, false, none, "x"⟩),
    ("b", ⟨"b", 5, 1, 1, 0, 1, .fallback, true, some "y", "z"⟩)],
    List.pairwise_pair.mpr (show "a" < "b" by decide)⟩
  played := [⟨"a", "b", [⟨0, .cooperate, .defect, 0, 5, [⟨0, .b, "b", "w"⟩]⟩]⟩]

theorem reports_come_back_with_anomaly :
    ∃ decoded, Report.parse? .nearest Report.withAnomaly.document = some decoded ∧
      decoded = Report.withAnomaly ∧ decoded.leaderboard = Report.withAnomaly.leaderboard ∧
      decoded.scores = Report.withAnomaly.scores ∧
      decoded.degraded = Report.withAnomaly.degraded ∧
      decoded.anomalies = Report.withAnomaly.anomalies ∧
      Table.render decoded = Table.render Report.withAnomaly := by
  have first : Standing.Fits ⟨"a", 0, 1, 1, 1, 0, .freshlyInterpreted, false, none, "x"⟩ :=
    ⟨by decide, by decide, by decide, by decide, by decide, by decide⟩
  have second : Standing.Fits ⟨"b", 5, 1, 1, 0, 1, .fallback, true, some "y", "z"⟩ :=
    ⟨by decide, by decide, by decide, by decide, by decide, by decide⟩
  have fits : Report.withAnomaly.Fits :=
    List.forall_mem_cons.mpr ⟨first, List.forall_mem_singleton.mpr second⟩
  exact reports_come_back _ fits .nearest _ (List.mem_cons_of_mem _ (List.mem_cons_self ..))

end Dilemma
