import Dilemma.Command.Files
import Dilemma.Duration

/-! # Hosts

A tool is a function of its arguments and its input, in a host that knows what
it finds around itself. -/

namespace Dilemma

/-- All that comes of a tool. -/
structure Execution where
  /-- Zero if all went well. -/
  status : Nat
  output : String
  /-- What the tool had to say about its failure. -/
  complaint : String
  duration : Duration
  deriving DecidableEq, Repr

/-- A tool is given its arguments and its input. -/
abbrev Tool := List String → String → Execution

namespace Execution

def ofOutput (output : String) : Execution := ⟨0, output, "", ⟨0⟩⟩

def ofFailure (status : Nat) (complaint : String) : Execution := ⟨status, "", complaint, ⟨0⟩⟩

/-- A tool that does not end by itself takes longer than any limit allows. -/
def endless : Execution := ⟨0, "", "", .ofSeconds (tenTo 30)⟩

end Execution

structure Host where
  readFile : Command.ReadFile
  /-- Names with values. -/
  settings : List (String × String)
  /-- What a line of commands does with its input. -/
  start : (line input : String) → Execution

namespace Host

/-- Here there is nothing to find. -/
def bare : Host := ⟨fun _ => .error .missing, [], fun _ _ => .ofOutput ""⟩

end Host

end Dilemma
