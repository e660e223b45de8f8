import Mathlib.Logic.Function.Iterate
import Dilemma.Interpretation.Interpreter
import Dilemma.Proofs.Interpretation.Simulation

/-! # Interpretation turn by turn

A worker interprets one entry in turns, and between two of its turns other
workers may have theirs. A turn is a lookup, an attempt, or the final look at the
cache. A worker that is left alone does what the interpreter does. -/

namespace Dilemma

/-- How far a worker has come. -/
inductive Stage where
  /-- The entry is not interpreted by a worker. -/
  | postponed
  | waiting
  /-- The cache had nothing, and this many retries are left. -/
  | asking (retries : Nat)
  | resolved (resolution : Except InterpretationError Logic)
  | done (result : Competitor)

namespace Stage

def result? : Stage → Option Competitor
  | done result => some result
  | _ => none

def isOver : Stage → Bool
  | postponed => true
  | done _ => true
  | _ => false

/-- An upper bound on the turns that are left. -/
def turnsLeft (retries : Nat) : Stage → Nat
  | postponed => 0
  | waiting => retries + 3
  | asking retries => retries + 2
  | resolved _ => 1
  | done _ => 0

theorem isOver_of_turnsLeft {retries : Nat} {stage : Stage}
    (none : stage.turnsLeft retries = 0) : stage.isOver = true := by
  cases stage with
  | postponed => rfl
  | waiting => cases none
  | asking left => cases none
  | resolved resolution => cases none
  | done result => rfl

/-- The stages that may follow a stage, with so many retries to begin with. -/
inductive Next (retries : Nat) : Stage → Stage → Prop where
  | postponed : Next retries .postponed .postponed
  | served (result : Competitor) : Next retries .waiting (.done result)
  | refused (resolution : Except InterpretationError Logic) :
      Next retries .waiting (.resolved resolution)
  | missed : Next retries .waiting (.asking retries)
  | again (left : Nat) : Next retries (.asking (left + 1)) (.asking left)
  | heard (left : Nat) (resolution : Except InterpretationError Logic) :
      Next retries (.asking left) (.resolved resolution)
  | settled (resolution : Except InterpretationError Logic) (result : Competitor) :
      Next retries (.resolved resolution) (.done result)
  | done (result : Competitor) : Next retries (.done result) (.done result)

/-- Every turn counts until nothing is left to do. -/
theorem Next.turnsLeft_le {retries : Nat} {stage after : Stage} (next : Next retries stage after) :
    after.turnsLeft retries ≤ stage.turnsLeft retries - 1 := by
  cases next with
  | postponed => exact Nat.le_refl 0
  | served result => exact Nat.zero_le _
  | refused resolution => exact Nat.le_add_left 1 _
  | missed => exact Nat.le_refl _
  | again left => exact Nat.le_refl _
  | heard left resolution => exact Nat.le_add_left 1 _
  | settled resolution result => exact Nat.le_refl 0
  | done result => exact Nat.le_refl 0

theorem Next.started {retries : Nat} {stage after : Stage} (next : Next retries stage after)
    (started : stage ≠ .postponed) : after ≠ .postponed := by
  cases next with
  | postponed => exact absurd rfl started
  | _ => exact Stage.noConfusion

end Stage

namespace Interpreter

variable {State : Type} (interpreter : Interpreter State)

/-- What follows from the last attempt. -/
def resolution (key : StrategyKey) :
    Except TranslatorError Answer → Except InterpretationError Logic
  | .ok answer => logicOf key answer
  | .error error => .error (.translator error)

/-- One turn. -/
def advance (entry : Entry) : Stage × Progress State → Stage × Progress State
  | (.postponed, progress) => (.postponed, progress)
  | (.waiting, progress) =>
      let key := StrategyKey.ofText entry.text
      let limit := interpreter.settings.maxTextBytes
      match progress.cache.get? key with
      | some hit => (.done (hit.rebind entry .cached), progress)
      | none =>
          if limit < key.size then (.resolved (.error (.textTooLong key.size limit)), progress)
          else (.asking interpreter.settings.retries, progress)
  | (.asking 0, progress) =>
      let key := StrategyKey.ofText entry.text
      let (outcome, progress) := interpreter.attempt (.ofKey key) progress
      (.resolved (resolution key outcome), progress)
  | (.asking (retries + 1), progress) =>
      let key := StrategyKey.ofText entry.text
      match interpreter.attempt (.ofKey key) progress with
      | (.error error, progress) =>
          if error.isTransient then (.asking retries, progress)
          else (.resolved (resolution key (.error error)), progress)
      | (.ok answer, progress) => (.resolved (resolution key (.ok answer)), progress)
  | (.resolved resolution, progress) =>
      let key := StrategyKey.ofText entry.text
      let fresh := interpreter.compete entry resolution
      match progress.cache.get? key with
      | some winner => (.done (winner.rebind entry .cached), progress)
      | none => (.done fresh, { progress with cache := progress.cache.add key fresh })
  | (.done result, progress) => (.done result, progress)

/-- A turn leads to one of the stages that may follow. -/
theorem advance_next (entry : Entry) (stage : Stage) (progress : Progress State) :
    stage.Next interpreter.settings.retries (interpreter.advance entry (stage, progress)).1 := by
  cases stage with
  | postponed => exact .postponed
  | waiting =>
      dsimp only [advance]
      split
      · exact .served _
      · split
        · exact .refused _
        · exact .missed
  | asking retries =>
      cases retries with
      | zero => exact .heard 0 _
      | succ retries =>
          dsimp only [advance]
          split
          · split
            · exact .again retries
            · exact .heard (retries + 1) _
          · exact .heard (retries + 1) _
  | resolved resolution =>
      dsimp only [advance]
      split
      · exact .settled resolution _
      · exact .settled resolution _
  | done result => exact .done result

/-! ## A worker on its own -/

theorem advance_asking (entry : Entry) (retries : Nat) (progress : Progress State) :
    let translated := interpreter.translate (.ofKey (.ofText entry.text)) retries progress
    ∃ turns, (interpreter.advance entry)^[turns] (.asking retries, progress) =
      (.resolved (resolution (.ofText entry.text) translated.1), translated.2) := by
  induction retries generalizing progress with
  | zero => exact ⟨1, rfl⟩
  | succ retries induction =>
      rcases attempted : interpreter.attempt (.ofKey (.ofText entry.text)) progress with
        ⟨outcome, following⟩
      dsimp only [translate]
      rw [attempted]
      cases outcome with
      | ok answer =>
          refine ⟨1, ?_⟩
          rw [Function.iterate_one, advance, attempted]
      | error error =>
          dsimp only
          by_cases transient : error.isTransient = true
          · rw [if_pos transient]
            rcases induction following with ⟨turns, ended⟩
            refine ⟨turns + 1, ?_⟩
            rw [Function.iterate_succ_apply, advance, attempted]
            dsimp only
            rw [if_pos transient]
            exact ended
          · refine ⟨1, ?_⟩
            rw [if_neg transient, Function.iterate_one, advance, attempted]
            dsimp only
            rw [if_neg transient]

/-- Left alone, a worker comes to what the interpreter comes to in one call. -/
theorem advance_waiting (entry : Entry) (progress : Progress State) :
    ∃ turns, (interpreter.advance entry)^[turns] (.waiting, progress) =
      (.done (interpreter.interpret entry progress).1,
        (interpreter.interpret entry progress).2) := by
  cases found : progress.cache.get? (.ofText entry.text) with
  | some hit =>
      refine ⟨1, ?_⟩
      rw [interpreter.interpret_of_hit found, Function.iterate_one, advance, found]
  | none =>
      have resolved : ∃ turns, (interpreter.advance entry)^[turns] (.waiting, progress) =
          (.resolved (interpreter.resolve (.ofText entry.text) progress).1,
            (interpreter.resolve (.ofText entry.text) progress).2) := by
        rw [resolve]
        by_cases long :
            interpreter.settings.maxTextBytes < (StrategyKey.ofText entry.text).size
        · refine ⟨1, ?_⟩
          rw [if_pos long, Function.iterate_one, advance, found]
          dsimp only
          rw [if_pos long]
        · rcases interpreter.advance_asking entry interpreter.settings.retries progress with
            ⟨turns, ended⟩
          refine ⟨turns + 1, ?_⟩
          rw [if_neg long, Function.iterate_succ_apply, advance, found]
          dsimp only
          rw [if_neg long, ended]
          rcases interpreter.translate (.ofKey (.ofText entry.text))
            interpreter.settings.retries progress with ⟨outcome, following⟩
          cases outcome with
          | ok answer => rfl
          | error error => rfl
      rcases resolved with ⟨turns, resolved⟩
      refine ⟨turns + 1, ?_⟩
      rw [Function.iterate_succ_apply', resolved, advance]
      cases held : (interpreter.resolve (.ofText entry.text) progress).2.cache.get?
          (.ofText entry.text) with
      | some winner => rw [interpreter.interpret_of_lost found held]
      | none => rw [interpreter.interpret_of_won found held]

end Interpreter

end Dilemma
