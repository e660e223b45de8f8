import Dilemma.Tournament.Run

/-! # The field

The setup check looks at names and at the number of rounds only, and the
interpretation of the field gives every entry a competitor of its own, in the
order of the entries and whatever the translator does. -/

namespace Dilemma

/-! ## The setup check -/

namespace Setup

theorem checkNames_eq_ok {seen names : List String} :
    checkNames seen names = .ok () ↔
      (∀ name ∈ names, isBlankName name = false) ∧ names.Nodup ∧
        ∀ name ∈ names, name ∉ seen := by
  induction names generalizing seen with
  | nil => simp [checkNames]
  | cons name rest induction =>
      rw [checkNames]
      split
      · rename_i blank
        simp [blank]
      · rename_i nonblank
        split
        · rename_i member
          simp [member]
        · rename_i fresh
          rw [induction]
          simp only [List.mem_cons, List.nodup_cons, forall_eq_or_imp, not_or]
          constructor
          · rintro ⟨others, distinct, unseen⟩
            exact ⟨⟨by simpa using nonblank, others⟩,
              ⟨fun repeated => (unseen name repeated).1 rfl, distinct⟩, fresh,
              fun other member => (unseen other member).2⟩
          · rintro ⟨⟨_, others⟩, ⟨unrepeated, distinct⟩, _, unseen⟩
            exact ⟨others, distinct, fun other member =>
              ⟨fun equal => unrepeated (equal ▸ member), unseen other member⟩⟩

theorem check_eq_ok {limit rounds : UInt32} {names : List String} :
    check limit rounds names = .ok () ↔
      rounds ≤ limit ∧ (∀ name ∈ names, isBlankName name = false) ∧ names.Nodup := by
  rw [check]
  split
  · rename_i exceeds
    simp [UInt32.not_le.mpr exceeds]
  · rename_i within
    rw [checkNames_eq_ok]
    simp [UInt32.not_lt.mp within]

end Setup

/-! ## Interpreting the field -/

variable {State : Type}

/-- A hit, a success, a failure and a lost race all keep the entry. -/
theorem Interpreter.entry_interpret (interpreter : Interpreter State) (entry : Entry)
    (progress : Progress State) : (interpreter.interpret entry progress).1.entry = entry := by
  rw [interpret]
  split
  · rfl
  · dsimp only
    split
    · rfl
    · rcases (interpreter.resolve (StrategyKey.ofText entry.text) progress).1 with error | logic
      · rfl
      · rfl

namespace Tournament

/-- No entry is lost, and whatever has been interpreted stands under its entry. -/
theorem entries_interpretFirsts (interpreter : Interpreter State) (entries : List Entry)
    (seen : List StrategyKey) (progress : Interpreter.Progress State) :
    (interpretFirsts interpreter seen entries progress).1.map (·.1) = entries ∧
      ∀ pair ∈ (interpretFirsts interpreter seen entries progress).1,
        ∀ competitor, pair.2 = some competitor → competitor.entry = pair.1 := by
  induction entries generalizing seen progress with
  | nil => exact ⟨rfl, fun _ member => by cases member⟩
  | cons entry rest induction =>
      rw [interpretFirsts]
      split
      · have following := induction seen progress
        refine ⟨congrArg (entry :: ·) following.1, fun pair member => ?_⟩
        rcases List.mem_cons.mp member with rfl | later
        · intro competitor found
          cases found
        · exact following.2 pair later
      · have kept := interpreter.entry_interpret entry progress
        have following := induction (StrategyKey.ofText entry.text :: seen)
          (interpreter.interpret entry progress).2
        refine ⟨congrArg (entry :: ·) following.1, fun pair member => ?_⟩
        rcases List.mem_cons.mp member with rfl | later
        · intro competitor found
          cases found
          exact kept
        · exact following.2 pair later

theorem entries_interpretRepeats (interpreter : Interpreter State)
    (pairs : List (Entry × Option Competitor)) (progress : Interpreter.Progress State)
    (kept : ∀ pair ∈ pairs, ∀ competitor, pair.2 = some competitor →
      competitor.entry = pair.1) :
    (interpretRepeats interpreter pairs progress).1.map (·.entry) = pairs.map (·.1) := by
  induction pairs generalizing progress with
  | nil => rfl
  | cons pair rest induction =>
      have keptRest := fun other member => kept other (List.mem_cons_of_mem pair member)
      rcases pair with ⟨entry, _ | competitor⟩
      · have following := induction (interpreter.interpret entry progress).2 keptRest
        rw [interpretRepeats, List.map_cons, List.map_cons, following]
        rw [interpreter.entry_interpret entry progress]
      · have following := induction progress keptRest
        rw [interpretRepeats, List.map_cons, List.map_cons, following]
        rw [kept _ (List.mem_cons_self ..) competitor rfl]

/-- One competitor for each entry, in the same order. -/
theorem entries_interpretAll (interpreter : Interpreter State) (entries : List Entry)
    (progress : Interpreter.Progress State) :
    (interpretAll interpreter entries progress).1.map (·.entry) = entries := by
  have firsts := entries_interpretFirsts interpreter entries [] progress
  rw [interpretAll]
  exact (entries_interpretRepeats interpreter _ _ firsts.2).trans firsts.1

theorem names_interpretAll (interpreter : Interpreter State) (entries : List Entry)
    (progress : Interpreter.Progress State) :
    (interpretAll interpreter entries progress).1.map Competitor.name =
      entries.map Entry.name := by
  have kept := congrArg (List.map Entry.name) (entries_interpretAll interpreter entries progress)
  rw [List.map_map] at kept
  exact kept

end Tournament

end Dilemma
