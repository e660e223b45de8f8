import Dilemma.Proofs.Play.Bounds
import Dilemma.Proofs.Play.Peace
import Dilemma.Proofs.Tournament.Completion
import Dilemma.Proofs.Tournament.Recording

/-! # Peaceful tournaments

In a field of nice players all matches are peaceful. A standing that has counted nothing but
peaceful matches has the reward and a cooperation for every round, so the number of its rounds
decides it. -/

namespace Dilemma

/-- A reward does not leave 64 bits when it is earned so often. -/
theorem Payoff.reward_mul_within (payoff : Payoff) {rounds : Nat} (short : rounds ≤ 2 ^ 32) :
    Int64.minValue.toInt ≤ payoff.reward.toInt * rounds ∧
      payoff.reward.toInt * rounds ≤ Int64.maxValue.toInt := by
  have within := payoff.score_within .cooperate .cooperate
  have positive : 0 ≤ (rounds : Int) := Int.natCast_nonneg rounds
  have allowed : payoff.Allows rounds (payoff.reward.toInt * rounds) := by
    rw [Int.mul_comm]
    exact ⟨Int.mul_le_mul_of_nonneg_left within.1 positive,
      Int.mul_le_mul_of_nonneg_left within.2 positive⟩
  exact allowed.fits short

namespace Standing

/-- Every round that was counted is one of peace. -/
structure Peaceful (payoff : Payoff) (standing : Standing) : Prop where
  totalScore : standing.totalScore = payoff.reward.toInt * standing.roundsPlayed
  cooperations : standing.cooperations = standing.roundsPlayed
  anomalies : standing.anomalies = 0

variable {payoff : Payoff} {standing : Standing}

theorem peaceful_start (payoff : Payoff) (competitor : Competitor) :
    (start competitor).Peaceful payoff :=
  ⟨(Int.mul_zero _).symm, rfl, rfl⟩

theorem Peaceful.absorb (peaceful : standing.Peaceful payoff) {game : Match}
    (kept : game.Peaceful payoff) (seat : Seat) : (standing.absorb game seat).Peaceful payoff := by
  have score := Match.total_of_peaceful kept.rounds seat
  have cooperations := Match.cooperations_of_peaceful kept.rounds seat
  constructor
  · simp [Standing.absorb, peaceful.totalScore, score, Int.mul_add]
  · simp [Standing.absorb, peaceful.cooperations, cooperations]
  · simp [Standing.absorb, peaceful.anomalies, kept.anomaliesOf seat]

theorem Peaceful.absorbAll {seen : List (Match × Seat)} (peaceful : standing.Peaceful payoff)
    (kept : ∀ appearance ∈ seen, appearance.1.Peaceful payoff) :
    (standing.absorbAll seen).Peaceful payoff := by
  induction seen generalizing standing with
  | nil => exact peaceful
  | cons appearance rest induction =>
      have counted := peaceful.absorb (kept appearance (List.mem_cons_self ..)) appearance.2
      exact induction counted fun other member => kept other (List.mem_cons_of_mem _ member)

theorem peaceful_ofAppearances (competitor : Competitor) {seen : List (Match × Seat)}
    (kept : ∀ appearance ∈ seen, appearance.1.Peaceful payoff) :
    (ofAppearances competitor seen).Peaceful payoff := by
  rw [← absorbAll_start]
  exact (peaceful_start payoff competitor).absorbAll kept

end Standing

namespace Tournament

variable {competitors : List Competitor} {payoff : Payoff} {rounds : UInt32}

theorem peaceful_of_mem_played (nice : ∀ competitor ∈ competitors, competitor.Nice) {game : Match}
    (member : game ∈ (playAll payoff competitors rounds).played) : game.Peaceful payoff := by
  rcases mem_played member with ⟨a, first, b, second, rfl⟩
  exact Match.peaceful_play (nice a first) (nice b second) payoff rounds

/-- After some of the matches, every standing is peaceful, and no rounds are counted that it does
not have in the end. -/
theorem peaceful_recordAll (distinct : (competitors.map Competitor.name).Nodup)
    (nice : ∀ competitor ∈ competitors, competitor.Nice) {games : List Match}
    (part : games.Sublist (playAll payoff competitors rounds).played) {standing : Standing}
    (member : standing ∈
      (games.foldl Report.record (.start competitors rounds payoff)).standings.values) :
    standing.Peaceful payoff ∧ standing.roundsPlayed ≤ rounds.toNat * (competitors.length - 1) := by
  have values := Report.values_recordAll_start payoff rounds distinct games
  rcases List.mem_map.mp (values.mem_iff.mp member) with ⟨competitor, known, rfl⟩
  have among : ∀ appearance ∈ games.flatMap (Match.appearances competitor.name),
      appearance.1 ∈ (playAll payoff competitors rounds).played := by
    intro appearance appears
    rcases List.mem_flatMap.mp appears with ⟨game, here, shown⟩
    rw [Match.eq_of_mem_appearances shown]
    exact part.subset here
  constructor
  · exact Standing.peaceful_ofAppearances competitor fun appearance appears =>
      peaceful_of_mem_played nice (among appearance appears)
  · have counted := Match.sum_roundCount fun appearance appears =>
      (complete_of_mem_played (among appearance appears)).length
    have limit := (part.flatMap (Match.appearances competitor.name)).length_le
    rw [length_appearances_played payoff rounds distinct known] at limit
    rw [Nat.mul_comm]
    exact Nat.le_trans (Nat.le_of_eq counted) (Nat.mul_le_mul_right _ limit)

/-- A field of nice players plays its tournament in peace. Each of them is rewarded in every round
of every match, and at no time does a total leave 64 bits. -/
theorem nice_players_stay_nice (settings : TournamentSettings) (competitors : List Competitor)
    (rounds : UInt32) (distinct : (competitors.map Competitor.name).Nodup)
    (nonblank : ∀ competitor ∈ competitors, Setup.isBlankName competitor.name = false)
    (nice : ∀ competitor ∈ competitors, competitor.Nice) (admitted : rounds ≤ settings.maxRounds)
    (short : rounds.toNat * (competitors.length - 1) ≤ 2 ^ 32)
    (fits : competitors.length * (competitors.length - 1) ≤ 2 ^ 62) :
    let each := rounds.toNat * (competitors.length - 1)
    ∃ report, runInterpreted settings competitors rounds = .ok report ∧
      report.Complete settings.payoff (competitors.map Competitor.name) rounds ∧
      (∀ game ∈ report.played, game.Peaceful settings.payoff) ∧
      (∀ standing ∈ report.standings.values,
        standing.totalScore = settings.payoff.reward.toInt * each ∧
          standing.cooperations = each ∧ standing.anomalies = 0) ∧
      ∀ number, ∀ standing ∈ ((report.played.take number).foldl Report.record
          (.start competitors rounds settings.payoff)).standings.values,
        Int64.minValue.toInt ≤ standing.totalScore ∧
          standing.totalScore ≤ Int64.maxValue.toInt := by
  intro each
  have complete := complete_playAll settings.payoff rounds fits distinct
  refine ⟨_, runInterpreted_eq_ok distinct nonblank admitted, complete,
    fun game => peaceful_of_mem_played nice, ?_, ?_⟩
  · intro standing member
    have counted : standing.roundsPlayed = each := by
      rcases List.mem_map.mp member with ⟨entry, stands, rfl⟩
      rw [(complete.totals entry stands).2.2, List.length_map, Nat.mul_comm]
    rw [playAll, ← played_playAll] at member
    rcases peaceful_recordAll distinct nice (List.Sublist.refl _) member with ⟨peaceful, -⟩
    rw [← counted]
    exact ⟨peaceful.totalScore, peaceful.cooperations, peaceful.anomalies⟩
  · intro number standing member
    rcases peaceful_recordAll distinct nice (List.take_sublist number _) member with
      ⟨peaceful, limit⟩
    rw [peaceful.totalScore]
    exact settings.payoff.reward_mul_within (Nat.le_trans limit short)

/-- Even if peace is a loss, everybody has the same one. -/
theorem nice_players_stay_nice_at_a_loss :
    let losses : Payoff := ⟨-1, -2, -30, -400, by decide, by decide, by decide⟩
    let settings := { TournamentSettings.standard with payoff := losses }
    let competitors : List Competitor :=
      [.ofTemplate "patient" .gradual, .ofTemplate "shifting" .pavlov,
        .ofTemplate "forgiving" .titForTwoTats]
    ∃ report, runInterpreted settings competitors 4 = .ok report ∧
      (∀ game ∈ report.played, game.Peaceful losses) ∧
      ∀ standing ∈ report.standings.values,
        standing.totalScore = -16 ∧ standing.cooperations = 8 ∧ standing.anomalies = 0 := by
  intro losses settings competitors
  have nice : ∀ competitor ∈ competitors, competitor.Nice := by
    intro competitor member
    simp only [competitors, List.mem_cons, List.not_mem_nil, or_false] at member
    rcases member with rfl | rfl | rfl <;> exact Competitor.nice_ofTemplate _ (by decide)
  rcases nice_players_stay_nice settings competitors 4 (by decide) (by decide +kernel) nice
      (by decide) (by decide) (by decide) with ⟨report, ran, -, peaceful, standings, -⟩
  exact ⟨report, ran, peaceful, standings⟩

/-- A nice player without a name is not admitted, however short the tournament. -/
theorem nice_player_without_name :
    let competitors : List Competitor :=
      [.ofTemplate " " .titForTat, .ofTemplate "b" .pavlov]
    (competitors.map Competitor.name).Nodup ∧ (∀ competitor ∈ competitors, competitor.Nice) ∧
      1 ≤ TournamentSettings.standard.maxRounds ∧ 1 * (competitors.length - 1) ≤ 2 ^ 32 ∧
      competitors.length * (competitors.length - 1) ≤ 2 ^ 62 ∧
      runInterpreted .standard competitors 1 = .error .blankName := by
  intro competitors
  have nice : ∀ competitor ∈ competitors, competitor.Nice := by
    intro competitor member
    simp only [competitors, List.mem_cons, List.not_mem_nil, or_false] at member
    rcases member with rfl | rfl <;> exact Competitor.nice_ofTemplate _ (by decide)
  exact ⟨by decide, nice, by decide, by decide, by decide, rfl⟩

end Tournament

end Dilemma
