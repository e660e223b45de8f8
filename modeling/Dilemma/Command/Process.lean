import Dilemma.Interpretation.Translator

/-! # Processes

A program that has been started is looked at time and again, until it has ended
or its time is up. What it has written is known in the end. -/

namespace Dilemma

/-! ## How a process ends -/

/-- A process ends by itself or by a signal, which can leave an image of its
memory behind. -/
inductive ExitStatus where
  | code (value : UInt8)
  | signal (number : UInt8) (dumped : Bool)
  deriving DecidableEq, Repr

namespace ExitStatus

/-- The signals that have names, from the first one on. -/
def signalNames : List String :=
  ["SIGHUP", "SIGINT", "SIGQUIT", "SIGILL", "SIGTRAP", "SIGABRT", "SIGBUS", "SIGFPE", "SIGKILL",
   "SIGUSR1", "SIGSEGV", "SIGUSR2", "SIGPIPE", "SIGALRM", "SIGTERM", "SIGSTKFLT", "SIGCHLD",
   "SIGCONT", "SIGSTOP", "SIGTSTP", "SIGTTIN", "SIGTTOU", "SIGURG", "SIGXCPU", "SIGXFSZ",
   "SIGVTALRM", "SIGPROF", "SIGWINCH", "SIGIO", "SIGPWR", "SIGSYS"]

def signalName? (number : UInt8) : Option String :=
  if number = 0 then none else signalNames[number.toNat - 1]?

def text : ExitStatus → String
  | code value => s!"exit status: {value}"
  | signal number dumped =>
      let name := match signalName? number with
        | some name => s!" ({name})"
        | none => ""
      s!"signal: {number}{name}" ++ if dumped then " (core dumped)" else ""

def isSuccess (status : ExitStatus) : Bool := status = code 0

example : [code 3, signal 9 false, signal 11 true, signal 40 false].map text =
    ["exit status: 3", "signal: 9 (SIGKILL)", "signal: 11 (SIGSEGV) (core dumped)",
      "signal: 40"] := by decide +kernel

end ExitStatus

/-! ## Waiting for a process -/

/-- What a look at a process can find. -/
inductive Look where
  | running
  | ended (status : ExitStatus)
  /-- The system cannot tell, and says why. -/
  | lost (message : String)
  deriving DecidableEq, Repr

/-- The least time between two looks. -/
def Look.interval : Duration := .ofMilliseconds 10

/-- A process, as it is seen from outside. -/
structure Process where
  /-- Why the input could not be written, if it could not. -/
  unwritten : Option String
  look : (count : Nat) → Look
  /-- The time after a look, from the start. -/
  clock : (count : Nat) → Duration
  /-- The next look does not come before its time. -/
  paced : ∀ count, (clock count).nanoseconds + Look.interval.nanoseconds ≤
    (clock (count + 1)).nanoseconds
  output : List UInt8
  /-- What the program had to say about its failure. -/
  complaint : List UInt8

namespace Process

/-- One look after the other. Time passes between them, so a bounded number of
looks is enough. -/
def await (process : Process) (program : String) (limit : Duration) :
    (looks count : Nat) → Except TranslatorError ExitStatus
  | 0, _ => .error (.timedOut limit)
  | looks + 1, count =>
      match process.look count with
      | .ended status => .ok status
      | .lost message => .error (.unavailable s!"`{program}` failed: {message}")
      | .running =>
          if limit.nanoseconds ≤ (process.clock count).nanoseconds then .error (.timedOut limit)
          else process.await program limit looks (count + 1)

/-- Two more looks than there are whole intervals in the time: one at its
beginning, and one when it is up. -/
def looksWithin (limit : Duration) : Nat :=
  limit.nanoseconds / Look.interval.nanoseconds + 2

/-- How the process ends, if it does so in time. -/
def wait (process : Process) (program : String) (limit : Duration) :
    Except TranslatorError ExitStatus :=
  process.await program limit (looksWithin limit) 0

end Process

end Dilemma
