import Dilemma.Duration
import Dilemma.Game.Payoff
import Dilemma.Text.Blank

/-! # Settings

Settings have defaults and can be taken from named variables. A variable that
is missing or cannot be read leaves its default. -/

namespace Dilemma

structure InterpreterSettings where
  /-- The longest that one attempt to translate may take. -/
  timeout : Duration
  /-- Further attempts after a transient failure. -/
  retries : Nat
  /-- Longer texts are not sent to the translator. -/
  maxTextBytes : Nat
  retries_le_one : retries ≤ 1
  deriving DecidableEq

structure TournamentSettings where
  payoff : Payoff
  parallel : Bool
  maxRounds : UInt32
  deriving DecidableEq

/-- The values of named variables. -/
abbrev Environment := String → Option String

namespace Environment

/-- A number below `bound`, blanks around it aside. -/
def natural? (environment : Environment) (bound : Nat) (name : String) : Option Nat := do
  Text.natural? bound (Text.strip Text.isBlank (← environment name).toList)

def boolean? (environment : Environment) (name : String) : Option Bool := do
  match Text.trim (← environment name) with
  | "true" => some true
  | "false" => some false
  | _ => none

end Environment

namespace InterpreterSettings

def standard : InterpreterSettings := ⟨.ofSeconds 10, 1, 4096, Nat.le_refl 1⟩

def withTimeout (settings : InterpreterSettings) (timeout : Duration) : InterpreterSettings :=
  { settings with timeout }

/-- More than one retry counts as one. -/
def withRetries (settings : InterpreterSettings) (retries : Nat) : InterpreterSettings :=
  { settings with retries := min retries 1, retries_le_one := Nat.min_le_right .. }

def withMaxTextBytes (settings : InterpreterSettings) (maxTextBytes : Nat) :
    InterpreterSettings :=
  { settings with maxTextBytes }

def ofEnvironment (environment : Environment) : InterpreterSettings :=
  let settings := standard
  let settings := match environment.natural? UInt64.size "ARENA_TRANSLATION_TIMEOUT_MS" with
    | some count => settings.withTimeout (.ofMilliseconds count)
    | none => settings
  let settings := match environment.natural? UInt32.size "ARENA_TRANSLATION_RETRIES" with
    | some retries => settings.withRetries retries
    | none => settings
  match environment.natural? UInt64.size "ARENA_MAX_TEXT_LEN" with
  | some length => settings.withMaxTextBytes length
  | none => settings

end InterpreterSettings

namespace TournamentSettings

def standard : TournamentSettings := ⟨.classic, true, 1000⟩

def ofEnvironment (environment : Environment) : TournamentSettings :=
  let parallel := (environment.boolean? "ARENA_PARALLEL").getD standard.parallel
  let maxRounds := match environment.natural? UInt32.size "ARENA_MAX_ROUNDS" with
    | some rounds => UInt32.ofNat rounds
    | none => standard.maxRounds
  { standard with parallel, maxRounds }

end TournamentSettings

end Dilemma
