import Dilemma.Proofs.Tournament.Batch

/-! # Schedules do not matter

However a field is interpreted, each entry becomes what it would become if the
entries were interpreted from left to right. -/

namespace Dilemma

open Interpreter (Progress Steady Interpreted account keysOf)

variable {State : Type} (interpreter : Interpreter State) (start : Progress State)

/-! ## What is foretold for a field -/

/-- What entries become from left to right, after earlier ones. -/
def Interpreter.competitorsAfter (earlier : List Entry) : List Entry → List Competitor
  | [] => []
  | entry :: rest =>
      interpreter.competitorAfter start earlier entry ::
        competitorsAfter (earlier ++ [entry]) rest

/-- Outcomes of workers: the first entry of a key has become what is foretold, and an
entry whose key came before is left over. -/
inductive Collected : List Entry → List Entry → List (Entry × Option Competitor) → Prop where
  | nil (earlier : List Entry) : Collected earlier [] []
  | first {earlier rest : List Entry} {entry : Entry} {outcomes : List (Entry × Option Competitor)}
      (new : StrategyKey.ofText entry.text ∉ earlier.map fun entry => .ofText entry.text)
      (others : Collected (earlier ++ [entry]) rest outcomes) :
      Collected earlier (entry :: rest)
        ((entry, some (interpreter.competitorAfter start earlier entry)) :: outcomes)
  | repeated {earlier rest : List Entry} {entry : Entry}
      {outcomes : List (Entry × Option Competitor)}
      (known : StrategyKey.ofText entry.text ∈ earlier.map fun entry => .ofText entry.text)
      (others : Collected (earlier ++ [entry]) rest outcomes) :
      Collected earlier (entry :: rest) ((entry, none) :: outcomes)

/-- The cache holds something for a key if it did at the start or if an entry came with it. -/
theorem Interpreter.fate_isSome_iff (entries : List Entry) (key : StrategyKey) :
    (interpreter.fate start entries key).1.isSome = true ↔
      (start.cache.get? key).isSome = true ∨
        key ∈ entries.map fun entry => .ofText entry.text := by
  cases found : start.cache.get? key with
  | some hit =>
      rw [fate_of_hit found]
      exact iff_of_true rfl (.inl rfl)
  | none =>
      have first : (entries.find? (fun entry => StrategyKey.ofText entry.text = key)).isSome =
          true ↔ key ∈ entries.map fun entry => .ofText entry.text := by
        rw [List.find?_isSome, List.mem_map]
        simp only [decide_eq_true_eq]
      rw [fate, found, ← first]
      cases entries.find? (fun entry => StrategyKey.ofText entry.text = key) with
      | some entry => exact iff_of_true rfl (.inr rfl)
      | none => exact ⟨fun held => .inl held, fun held => held.elim id id⟩

variable {interpreter start} {texts : List String} {progress : Progress State}

namespace Interpreter

theorem fate_append_of_known {earlier : List Entry} {key : StrategyKey}
    (known : key ∈ earlier.map fun entry => .ofText entry.text) (later : List Entry) :
    interpreter.fate start (earlier ++ later) key = interpreter.fate start earlier key := by
  rcases Option.isSome_iff_exists.mp
    ((interpreter.fate_isSome_iff start earlier key).mpr (.inr known)) with ⟨held, holds⟩
  exact fate_append_of_held holds later

/-- Before its first entry a key is as it was at the start. -/
theorem fate_of_new {earlier : List Entry} {key : StrategyKey}
    (new : key ∉ earlier.map fun entry => .ofText entry.text) :
    interpreter.fate start earlier key = interpreter.fate start [] key := by
  have absent : earlier.find? (fun entry => StrategyKey.ofText entry.text = key) = none := by
    rw [List.find?_eq_none]
    intro entry member same
    exact new (List.mem_map.mpr ⟨entry, member, of_decide_eq_true same⟩)
  rw [fate, fate, absent, List.find?_nil]

/-- The first entry of a key decides, whoever comes before and after. -/
theorem fate_of_first {earlier : List Entry} {entry : Entry}
    (new : StrategyKey.ofText entry.text ∉ earlier.map fun entry => .ofText entry.text)
    (later : List Entry) :
    interpreter.fate start (earlier ++ entry :: later) (.ofText entry.text) =
      interpreter.fate start [entry] (.ofText entry.text) := by
  have known : StrategyKey.ofText entry.text ∈
      (earlier ++ [entry]).map fun entry => .ofText entry.text :=
    List.mem_map_of_mem (List.mem_append_right _ (List.mem_singleton.mpr rfl))
  rw [List.append_cons, fate_append_of_known known]
  cases found : start.cache.get? (.ofText entry.text) with
  | some hit => rw [fate_of_hit found, fate_of_hit found]
  | none =>
      refine (fate_append_self ?_).2
      rw [fate_of_new new, fate_nil_of_missing found]

theorem Interpreted.repeated {earlier : List Entry} {entry : Entry}
    (interpreted : interpreter.Interpreted start earlier texts progress)
    (known : StrategyKey.ofText entry.text ∈ earlier.map fun entry => .ofText entry.text) :
    interpreter.Interpreted start (earlier ++ [entry]) texts progress where
  follows := interpreted.follows
  fates := by
    intro key
    rw [interpreted.fates key]
    by_cases same : key = .ofText entry.text
    · rw [same, fate_append_of_known known]
    · rw [fate_append_other same]

end Interpreter

/-! ## Ways to interpret a field -/

namespace Tournament

theorem interpretEach_interpreted (steady : interpreter.Steady start.translator)
    (rest : List Entry) {earlier : List Entry}
    (interpreted : interpreter.Interpreted start earlier texts progress) :
    (interpretEach interpreter rest progress).1 = interpreter.competitorsAfter start earlier rest ∧
      ∃ later, interpreter.Interpreted start (earlier ++ rest) later
        (interpretEach interpreter rest progress).2 := by
  induction rest generalizing earlier texts progress with
  | nil =>
      rw [List.append_nil]
      exact ⟨rfl, texts, interpreted⟩
  | cons entry rest induction =>
      rcases Interpreter.interpret_interpreted steady interpreted entry with ⟨own, between, next⟩
      rcases induction next with ⟨others, later, reached⟩
      refine ⟨?_, later, ?_⟩
      · rw [interpretEach, Interpreter.competitorsAfter, ← own, ← others]
      · rw [List.append_cons]
        exact reached

/-- Left-over entries are served from the cache, and nothing is asked for them. -/
theorem interpretRepeats_collected {earlier rest : List Entry}
    {outcomes : List (Entry × Option Competitor)}
    (collected : Collected interpreter start earlier rest outcomes)
    (interpreted : interpreter.Interpreted start (earlier ++ rest) texts progress) :
    interpretRepeats interpreter outcomes progress =
      (interpreter.competitorsAfter start earlier rest, progress) := by
  induction collected with
  | nil earlier => rfl
  | first new others induction =>
      rw [List.append_cons] at interpreted
      rw [interpretRepeats, induction interpreted, Interpreter.competitorsAfter]
  | @repeated earlier rest entry outcomes known others induction =>
      have fate := interpreted.fates (.ofText entry.text)
      rw [Interpreter.fate_append_of_known known] at fate
      rcases Option.isSome_iff_exists.mp
        ((interpreter.fate_isSome_iff start earlier _).mpr (.inr known)) with ⟨held, holds⟩
      have looked : progress.cache.get? (.ofText entry.text) = some held :=
        (congrArg Prod.fst fate).trans holds
      rw [List.append_cons] at interpreted
      rw [interpretRepeats, interpreter.interpret_of_hit looked]
      dsimp only
      rw [induction interpreted, Interpreter.competitorsAfter, Interpreter.competitorAfter, holds]

theorem interpretFirsts_collected (steady : interpreter.Steady start.translator)
    (rest : List Entry) {earlier : List Entry} {seen : List StrategyKey}
    (same : ∀ key, key ∈ seen ↔ key ∈ earlier.map fun entry => .ofText entry.text)
    (interpreted : interpreter.Interpreted start earlier texts progress) :
    Collected interpreter start earlier rest (interpretFirsts interpreter seen rest progress).1 ∧
      ∃ later, interpreter.Interpreted start (earlier ++ rest) later
        (interpretFirsts interpreter seen rest progress).2 := by
  induction rest generalizing earlier seen texts progress with
  | nil =>
      rw [List.append_nil]
      exact ⟨.nil earlier, texts, interpreted⟩
  | cons entry rest induction =>
      dsimp only [interpretFirsts]
      rw [List.append_cons]
      by_cases known : StrategyKey.ofText entry.text ∈ seen
      · rw [if_pos known]
        have before := (same _).mp known
        have still : ∀ key, key ∈ seen ↔
            key ∈ (earlier ++ [entry]).map fun entry => .ofText entry.text := by
          intro key
          rw [List.map_append, List.mem_append, ← same, List.map_singleton, List.mem_singleton]
          refine ⟨.inl, fun either => either.elim id fun own => ?_⟩
          rw [own]
          exact known
        rcases induction still (interpreted.repeated before) with ⟨others, reached⟩
        exact ⟨.repeated before others, reached⟩
      · rw [if_neg known]
        have more : ∀ key, key ∈ StrategyKey.ofText entry.text :: seen ↔
            key ∈ (earlier ++ [entry]).map fun entry => .ofText entry.text := by
          intro key
          rw [List.map_append, List.mem_append, ← same, List.map_singleton, List.mem_singleton,
            List.mem_cons]
          exact or_comm
        rcases Interpreter.interpret_interpreted steady interpreted entry with
          ⟨own, between, next⟩
        rcases induction more next with ⟨others, reached⟩
        dsimp only
        rw [own]
        exact ⟨.first (fun member => known ((same _).mpr member)) others, reached⟩

theorem interpretAll_interpreted (steady : interpreter.Steady start.translator)
    (entries : List Entry) :
    (interpretAll interpreter entries start).1 =
        interpreter.competitorsAfter start [] entries ∧
      ∃ later, interpreter.Interpreted start entries later
        (interpretAll interpreter entries start).2 := by
  have nobody : ∀ key : StrategyKey, key ∈ ([] : List StrategyKey) ↔
      key ∈ ([] : List Entry).map fun entry => .ofText entry.text := fun _ => Iff.rfl
  rcases interpretFirsts_collected steady entries nobody Interpreter.interpreted_nil with
    ⟨collected, later, reached⟩
  rw [interpretAll]
  dsimp only
  rw [interpretRepeats_collected collected reached]
  exact ⟨rfl, later, reached⟩

end Tournament

namespace Batch

variable {entries : List Entry} {batch : Batch State}

theorem firstAt_length {earlier : List Entry} {entry : Entry} {later : List Entry}
    (split : entries = earlier ++ entry :: later) :
    entries[earlier.length]? = some entry ∧
      (FirstAt entries earlier.length (.ofText entry.text) ↔
        StrategyKey.ofText entry.text ∉ earlier.map fun entry => .ofText entry.text) := by
  have here : entries[earlier.length]? = some entry := by
    rw [split, List.getElem?_append_right (Nat.le_refl _), Nat.sub_self]
    rfl
  have before : entries.take earlier.length = earlier := by
    rw [split]
    exact List.take_left
  rw [FirstAt, before]
  exact ⟨here, Iff.rfl⟩

/-- In the end the worker of a first entry has what is foretold. -/
theorem Sound.done (sound : Sound interpreter entries start texts batch)
    (finished : Finished entries batch) {earlier : List Entry} {entry : Entry}
    {later : List Entry} (split : entries = earlier ++ entry :: later)
    (new : StrategyKey.ofText entry.text ∉ earlier.map fun entry => .ofText entry.text) :
    batch.stage earlier.length = .done (interpreter.competitorAfter start earlier entry) ∧
      account batch.progress texts (.ofText entry.text) =
        interpreter.fate start entries (.ofText entry.text) := by
  rcases firstAt_length split with ⟨here, first⟩
  rcases sound.firsts _ entry here (first.mpr new) with ⟨started, fits⟩
  have within : earlier.length < entries.length := (List.getElem?_eq_some_iff.mp here).1
  have complete := finished _ within
  cases stage : batch.stage earlier.length with
  | postponed => exact absurd stage started
  | done result =>
      rw [stage] at fits
      rcases fits with ⟨own, settled⟩
      refine ⟨?_, ?_⟩
      · rw [own, Interpreter.competitorAfter, Interpreter.competitorAfter,
          Interpreter.fate_of_new new]
      · rw [settled, split, Interpreter.fate_of_first new]
  | _ =>
      rw [stage] at complete
      cases complete

theorem Sound.interpreted (sound : Sound interpreter entries start texts batch)
    (finished : Finished entries batch) :
    interpreter.Interpreted start entries texts batch.progress where
  follows := sound.follows
  fates := by
    intro key
    cases first : entries.find? (fun entry => StrategyKey.ofText entry.text = key) with
    | none =>
        have absent : key ∉ entries.map fun entry => .ofText entry.text := by
          intro member
          rcases List.mem_map.mp member with ⟨entry, known, same⟩
          exact List.find?_eq_none.mp first entry known (decide_eq_true same)
        rw [sound.others key absent, Interpreter.fate_of_new absent]
    | some entry =>
        rcases List.find?_eq_some_iff_append.mp first with ⟨named, earlier, later, split, none⟩
        have same : StrategyKey.ofText entry.text = key := of_decide_eq_true named
        subst same
        have new : StrategyKey.ofText entry.text ∉
            earlier.map fun entry => .ofText entry.text := by
          intro member
          rcases List.mem_map.mp member with ⟨other, known, same⟩
          have unlike := none other known
          rw [decide_eq_true same] at unlike
          cases unlike
        exact (sound.done finished split new).2

theorem Sound.collected (sound : Sound interpreter entries start texts batch)
    (finished : Finished entries batch) (rest : List Entry) {earlier : List Entry}
    (split : entries = earlier ++ rest) :
    Collected interpreter start earlier rest
      (rest.mapIdx fun place entry =>
        (entry, (batch.stage (earlier.length + place)).result?)) := by
  induction rest generalizing earlier with
  | nil => exact .nil earlier
  | cons entry rest induction =>
      have others := induction (split.trans (List.append_cons earlier entry rest))
      have shifted : (rest.mapIdx fun place other =>
          (other, (batch.stage ((earlier ++ [entry]).length + place)).result?)) =
            rest.mapIdx fun place other =>
              (other, (batch.stage (earlier.length + (place + 1))).result?) := by
        simp only [List.length_append, List.length_singleton, Nat.add_assoc, Nat.add_comm 1]
      rw [shifted] at others
      rw [List.mapIdx_cons]
      rcases firstAt_length split with ⟨here, first⟩
      by_cases new : StrategyKey.ofText entry.text ∉
          earlier.map fun entry => .ofText entry.text
      · rw [Nat.add_zero, (sound.done finished split new).1]
        exact .first new others
      · rw [Nat.add_zero, sound.repeats _ entry here (fun early => new (first.mp early))]
        exact .repeated (Classical.not_not.mp new) others

theorem finish_interpreted (steady : interpreter.Steady start.translator) (schedule : List Nat)
    (finished : Finished entries (run interpreter entries schedule (Batch.start entries start))) :
    let ended :=
      finish interpreter entries (run interpreter entries schedule (Batch.start entries start))
    ended.1 = interpreter.competitorsAfter start [] entries ∧
      ∃ later, interpreter.Interpreted start entries later ended.2 := by
  rcases Sound.start.run steady schedule with ⟨later, sound⟩
  have collected := sound.collected finished entries (List.nil_append entries).symm
  simp only [List.length_nil, Nat.zero_add] at collected
  have reached := sound.interpreted finished
  intro ended
  have final : ended = _ := Tournament.interpretRepeats_collected collected reached
  rw [final]
  exact ⟨rfl, later, reached⟩

end Batch

namespace Tournament

/-! ## The competitors of a field -/

theorem entry_competitorAfter (earlier : List Entry) (entry : Entry) :
    (interpreter.competitorAfter start earlier entry).entry = entry := by
  rw [Interpreter.competitorAfter]
  split
  · rfl
  · exact interpreter.entry_compete _

theorem provenance_compete (entry : Entry) (resolution : Except InterpretationError Logic) :
    (interpreter.compete entry resolution).provenance ≠ .cached := by
  cases resolution with
  | ok logic => exact Provenance.noConfusion
  | error error => exact Provenance.noConfusion

theorem provenance_competitorAfter (earlier : List Entry) (entry : Entry) :
    (interpreter.competitorAfter start earlier entry).provenance = .cached ↔
      (start.cache.get? (.ofText entry.text)).isSome = true ∨
        StrategyKey.ofText entry.text ∈ earlier.map fun entry => .ofText entry.text := by
  rw [← interpreter.fate_isSome_iff start, Interpreter.competitorAfter]
  cases (interpreter.fate start earlier (.ofText entry.text)).1 with
  | some held => exact iff_of_true rfl rfl
  | none => exact iff_of_false (provenance_compete entry _) Bool.noConfusion

theorem getElem?_competitorsAfter (earlier entries : List Entry) (place : Nat) :
    (interpreter.competitorsAfter start earlier entries)[place]? =
      entries[place]?.map
        (interpreter.competitorAfter start (earlier ++ entries.take place)) := by
  induction entries generalizing earlier place with
  | nil => rfl
  | cons entry rest induction =>
      cases place with
      | zero =>
          rw [List.take_zero, List.append_nil]
          rfl
      | succ place =>
          rw [List.take_succ_cons, List.append_cons]
          exact induction (earlier ++ [entry]) place

theorem entries_competitorsAfter (earlier entries : List Entry) :
    (interpreter.competitorsAfter start earlier entries).map (·.entry) = entries := by
  induction entries generalizing earlier with
  | nil => rfl
  | cons entry rest induction =>
      rw [Interpreter.competitorsAfter, List.map_cons, entry_competitorAfter, induction]

/-! ## Agreement -/

/-- The same competitors in the same order, the same contents of the cache, and the same
number of requests. -/
structure Agree (left right : List Competitor × Progress State) : Prop where
  competitors : left.1 = right.1
  found : ∀ key, left.2.cache.get? key = right.2.cache.get? key
  stored : left.2.cache.entries.Perm right.2.cache.entries
  calls : left.2.calls = right.2.calls

theorem agree_of_interpreted {entries : List Entry} {competitors : List Competitor}
    {left right : List Competitor × Progress State}
    (leftReached : left.1 = competitors ∧
      ∃ texts, interpreter.Interpreted start entries texts left.2)
    (rightReached : right.1 = competitors ∧
      ∃ texts, interpreter.Interpreted start entries texts right.2) : Agree left right := by
  rcases leftReached with ⟨leftCompetitors, leftTexts, leftInterpreted⟩
  rcases rightReached with ⟨rightCompetitors, rightTexts, rightInterpreted⟩
  have same (key : StrategyKey) : account left.2 leftTexts key = account right.2 rightTexts key :=
    (leftInterpreted.fates key).trans (rightInterpreted.fates key).symm
  have found (key : StrategyKey) : left.2.cache.get? key = right.2.cache.get? key :=
    congrArg Prod.fst (same key)
  -- Every key was asked for equally often, so the requests are the same but for their order.
  have requests : (keysOf leftTexts).Perm (keysOf rightTexts) :=
    List.perm_iff_count.mpr fun key => congrArg Prod.snd (same key)
  refine ⟨leftCompetitors.trans rightCompetitors.symm, found, ?_, ?_⟩
  · exact leftInterpreted.follows.grows.perm rightInterpreted.follows.grows found
  · have lengths := requests.length_eq
    rw [keysOf, keysOf, List.length_map, List.length_map] at lengths
    rw [leftInterpreted.follows.calls, rightInterpreted.follows.calls, lengths]

/-- With a steady translator it does not matter in which turns the first entries are
interpreted. A worker that has its turns in a row does what a call of the interpreter
does. Every schedule that gives the workers enough turns comes to an end, and every
schedule that comes to an end agrees with interpretation from left to right. An entry is
reported as cached just if its key was in the cache at the start or came with an entry
before it. -/
theorem interpretation_scheduled (interpreter : Interpreter State) (entries : List Entry)
    (start : Progress State) (steady : interpreter.Steady start.translator) :
    let alone := interpretEach interpreter entries start
    let scheduled schedule :=
      Batch.run interpreter entries schedule (Batch.start entries start)
    (∀ entry progress, ∃ turns, (interpreter.advance entry)^[turns] (.waiting, progress) =
      (.done (interpreter.interpret entry progress).1,
        (interpreter.interpret entry progress).2)) ∧
    (∀ schedule : List Nat,
      (∀ place < entries.length, interpreter.settings.retries + 3 ≤ schedule.count place) →
        Batch.Finished entries (scheduled schedule)) ∧
    (∀ schedule, Batch.Finished entries (scheduled schedule) →
      Agree (Batch.finish interpreter entries (scheduled schedule)) alone) ∧
    Agree (interpretAll interpreter entries start) alone ∧
    alone.1.map (·.entry) = entries ∧
    ∀ place entry, entries[place]? = some entry →
      ∃ result, alone.1[place]? = some result ∧
        (result.provenance = .cached ↔
          (start.cache.get? (.ofText entry.text)).isSome = true ∨
            StrategyKey.ofText entry.text ∈
              (entries.take place).map fun entry => .ofText entry.text) := by
  intro alone scheduled
  have sequential : alone.1 = interpreter.competitorsAfter start [] entries ∧
      ∃ texts, interpreter.Interpreted start entries texts alone.2 :=
    interpretEach_interpreted steady entries Interpreter.interpreted_nil
  refine ⟨interpreter.advance_waiting, ?_, ?_, ?_, ?_, ?_⟩
  · exact fun schedule fair => Batch.run_finished interpreter entries fair start
  · intro schedule finished
    exact agree_of_interpreted (Batch.finish_interpreted steady schedule finished) sequential
  · exact agree_of_interpreted (interpretAll_interpreted steady entries) sequential
  · rw [sequential.1]
    exact entries_competitorsAfter [] entries
  · intro place entry here
    refine ⟨interpreter.competitorAfter start (entries.take place) entry, ?_, ?_⟩
    · rw [sequential.1, getElem?_competitorsAfter, here]
      rfl
    · exact provenance_competitorAfter (entries.take place) entry

/-- Three entries with two keys, and a translator that is away when it is asked about a
text for the first time. -/
theorem interpretation_scheduled_outage :
    let answers (_ : String) (asked : Nat) : Except TranslatorError Answer :=
      if asked = 0 then .error (.unavailable "away") else .ok (.template "grim_trigger")
    let interpreter : Interpreter (List String) :=
      ⟨.noting answers, .standard, Template.titForTat.asFunction 0⟩
    let entries : List Entry := [⟨"first", "Bear a grudge"⟩, ⟨"second", "bear  a grudge"⟩,
      ⟨"third", "Never forgive"⟩]
    let schedule := [2, 0, 1, 2, 0, 0, 1, 2, 0, 2, 1, 1]
    let batch := Batch.run interpreter entries schedule (Batch.start entries (.start []))
    let alone := interpretEach interpreter entries (.start [])
    Batch.Finished entries batch ∧ Agree (Batch.finish interpreter entries batch) alone ∧
      alone.1.map (·.provenance) = [.freshlyInterpreted, .cached, .freshlyInterpreted] ∧
      alone.2.calls = 4 := by
  intro answers interpreter entries schedule batch alone
  have steady : interpreter.Steady (Progress.start []).translator :=
    Interpreter.steady_noting answers .standard _ []
  rcases interpretation_scheduled interpreter entries (.start []) steady with
    ⟨_, ends, agrees, _⟩
  have finished : Batch.Finished entries batch := ends schedule (by decide)
  exact ⟨finished, agrees schedule finished, by decide +kernel, by decide +kernel⟩

end Tournament

end Dilemma
