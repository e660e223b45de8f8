import Dilemma.Proofs.Interpretation.Steadiness
import Dilemma.Tournament.Run

/-! # The field in many hands

Workers interpret the first entry of each key. Who has the next turn is up to a
schedule. When all of them are done, the other entries are interpreted from left to
right. With a steady translator this comes to the same as interpreting all entries
from left to right. -/

namespace Dilemma

open Interpreter (Progress Steady Follows Fits Interpreted account)

variable {State : Type}

/-! ## Interpretation from left to right -/

namespace Tournament

def interpretEach (interpreter : Interpreter State) :
    List Entry → Progress State → List Competitor × Progress State
  | [], progress => ([], progress)
  | entry :: rest, progress =>
      let (competitor, progress) := interpreter.interpret entry progress
      let (others, progress) := interpretEach interpreter rest progress
      (competitor :: others, progress)

end Tournament

/-! ## Interpretation by workers -/

/-- No entry before this place has the key. -/
def FirstAt (entries : List Entry) (place : Nat) (key : StrategyKey) : Prop :=
  key ∉ (entries.take place).map fun entry => .ofText entry.text

instance (entries : List Entry) (place : Nat) (key : StrategyKey) :
    Decidable (FirstAt entries place key) :=
  inferInstanceAs (Decidable (_ ∉ _))

structure Batch (State : Type) where
  stage : Nat → Stage
  progress : Progress State

namespace Batch

def start (entries : List Entry) (progress : Progress State) : Batch State where
  stage place :=
    match entries[place]? with
    | some entry => if FirstAt entries place (.ofText entry.text) then .waiting else .postponed
    | none => .postponed
  progress := progress

variable (interpreter : Interpreter State) (entries : List Entry)

/-- The worker at a place has a turn. -/
def turn (batch : Batch State) (place : Nat) : Batch State :=
  match entries[place]? with
  | some entry =>
      let (stage, progress) := interpreter.advance entry (batch.stage place, batch.progress)
      ⟨fun other => if other = place then stage else batch.stage other, progress⟩
  | none => batch

def run (schedule : List Nat) (batch : Batch State) : Batch State :=
  schedule.foldl (turn interpreter entries) batch

def Finished (batch : Batch State) : Prop :=
  ∀ place < entries.length, (batch.stage place).isOver = true

/-- The entries that no worker had are interpreted in the end. -/
def finish (batch : Batch State) : List Competitor × Progress State :=
  Tournament.interpretRepeats interpreter
    (entries.mapIdx fun place entry => (entry, (batch.stage place).result?)) batch.progress

/-! ## Every schedule that gives each worker enough turns comes to an end -/

theorem turnsLeft_run (schedule : List Nat) (batch : Batch State) (place : Nat)
    (within : place < entries.length) :
    ((run interpreter entries schedule batch).stage place).turnsLeft
        interpreter.settings.retries ≤
      (batch.stage place).turnsLeft interpreter.settings.retries - schedule.count place := by
  induction schedule generalizing batch with
  | nil => exact Nat.le_refl _
  | cons next rest induction =>
      refine Nat.le_trans (induction (turn interpreter entries batch next)) ?_
      rw [turn, List.count_cons]
      by_cases same : next = place
      · subst same
        rw [List.getElem?_eq_getElem within, if_pos (beq_self_eq_true next)]
        dsimp only
        rw [if_pos rfl]
        have less := (interpreter.advance_next entries[next] (batch.stage next)
          batch.progress).turnsLeft_le
        omega
      · rw [if_neg (fun equal => same (beq_iff_eq.mp equal))]
        cases entries[next]? with
        | none => exact Nat.le_refl _
        | some entry =>
            dsimp only
            rw [if_neg (Ne.symm same)]
            exact Nat.le_refl _

theorem turnsLeft_start (progress : Progress State) (place : Nat) :
    ((start entries progress).stage place).turnsLeft interpreter.settings.retries ≤
      interpreter.settings.retries + 3 := by
  dsimp only [start]
  split
  · split
    · exact Nat.le_refl _
    · exact Nat.zero_le _
  · exact Nat.zero_le _

theorem run_finished {schedule : List Nat}
    (fair : ∀ place < entries.length, interpreter.settings.retries + 3 ≤ schedule.count place)
    (progress : Progress State) :
    Finished entries (run interpreter entries schedule (start entries progress)) := by
  intro place within
  have bound := turnsLeft_run interpreter entries schedule (start entries progress) place within
  have begun := turnsLeft_start interpreter entries progress place
  have turns := fair place within
  refine @Stage.isOver_of_turnsLeft interpreter.settings.retries _ ?_
  omega

/-! ## What holds after every turn -/

/-- Every worker stands where it should, no other entry has a stage, and no other key
has been touched. -/
structure Sound (before : Progress State) (texts : List String) (batch : Batch State) : Prop where
  follows : interpreter.Follows before texts batch.progress
  firsts : ∀ place entry, entries[place]? = some entry →
    FirstAt entries place (.ofText entry.text) →
      batch.stage place ≠ .postponed ∧ interpreter.Fits before entry (batch.stage place)
        (account batch.progress texts (.ofText entry.text))
  repeats : ∀ place entry, entries[place]? = some entry →
    ¬ FirstAt entries place (.ofText entry.text) → batch.stage place = .postponed
  others : ∀ key, key ∉ entries.map (fun entry => .ofText entry.text) →
    account batch.progress texts key = interpreter.fate before [] key

variable {interpreter entries} {before : Progress State} {texts : List String}
  {batch : Batch State}

theorem Sound.start : Sound interpreter entries before [] (start entries before) where
  follows := Interpreter.interpreted_nil.follows
  firsts := by
    intro place entry here first
    have waiting : (Batch.start entries before).stage place = .waiting := by
      dsimp only [Batch.start]
      rw [here]
      exact if_pos first
    rw [waiting]
    exact ⟨Stage.noConfusion, Interpreter.interpreted_nil.fates _⟩
  repeats := by
    intro place entry here later
    dsimp only [Batch.start]
    rw [here]
    exact if_neg later
  others := fun key _ => Interpreter.interpreted_nil.fates key

/-- Two places where one key comes for the first time are one place. -/
theorem place_unique {place other : Nat} {entry another : Entry}
    (here : entries[place]? = some entry) (there : entries[other]? = some another)
    (first : FirstAt entries place (.ofText entry.text))
    (firstToo : FirstAt entries other (.ofText another.text))
    (same : StrategyKey.ofText entry.text = StrategyKey.ofText another.text) :
    place = other := by
  rcases Nat.lt_trichotomy place other with less | equal | more
  · refine absurd ?_ firstToo
    rw [← same]
    refine List.mem_map_of_mem (List.mem_of_getElem? (i := place) ?_)
    rw [List.getElem?_take_of_lt less, here]
  · exact equal
  · refine absurd ?_ first
    rw [same]
    refine List.mem_map_of_mem (List.mem_of_getElem? (i := other) ?_)
    rw [List.getElem?_take_of_lt more, there]

/-- An entry that no worker has stays as it is. -/
theorem turn_postponed {place : Nat} (postponed : batch.stage place = .postponed) :
    turn interpreter entries batch place = batch := by
  rw [turn]
  cases entries[place]? with
  | none => rfl
  | some entry =>
      dsimp only
      rw [postponed, Interpreter.advance]
      rcases batch with ⟨stage, progress⟩
      congr
      funext other
      by_cases same : other = place
      · rw [if_pos same, same]
        exact postponed.symm
      · rw [if_neg same]

theorem Sound.turn (steady : interpreter.Steady before.translator)
    (sound : Sound interpreter entries before texts batch) (place : Nat) :
    ∃ later, Sound interpreter entries before later
      (turn interpreter entries batch place) := by
  cases here : entries[place]? with
  | none =>
      rw [Batch.turn, here]
      exact ⟨texts, sound⟩
  | some entry =>
      by_cases first : FirstAt entries place (.ofText entry.text)
      · rcases sound.firsts place entry here first with ⟨started, fits⟩
        rcases Interpreter.advance_proceeds steady sound.follows fits with ⟨later, proceeds⟩
        refine ⟨later, ?_⟩
        rw [Batch.turn, here]
        refine ⟨proceeds.follows, ?_, ?_, ?_⟩
        · intro other another there firstToo
          dsimp only
          by_cases same : other = place
          · subst same
            cases here.symm.trans there
            rw [if_pos rfl]
            exact ⟨(interpreter.advance_next entry _ batch.progress).started started, proceeds.fits⟩
          · have different : StrategyKey.ofText another.text ≠ .ofText entry.text :=
              fun equal => same (place_unique there here firstToo first equal)
            rw [if_neg same, proceeds.others _ different]
            exact sound.firsts other another there firstToo
        · intro other another there late
          dsimp only
          by_cases same : other = place
          · subst same
            cases here.symm.trans there
            exact absurd first late
          · rw [if_neg same]
            exact sound.repeats other another there late
        · intro key absent
          have different : key ≠ .ofText entry.text := fun equal =>
            absent (List.mem_map.mpr ⟨entry, List.mem_of_getElem? here, equal.symm⟩)
          exact (proceeds.others key different).trans (sound.others key absent)
      · rw [turn_postponed (sound.repeats place entry here first)]
        exact ⟨texts, sound⟩

theorem Sound.run (steady : interpreter.Steady before.translator)
    (sound : Sound interpreter entries before texts batch) (schedule : List Nat) :
    ∃ later, Sound interpreter entries before later (run interpreter entries schedule batch) := by
  induction schedule generalizing batch texts with
  | nil => exact ⟨texts, sound⟩
  | cons place rest induction =>
      rcases sound.turn steady place with ⟨between, next⟩
      exact induction next

end Batch

end Dilemma
