import Dilemma.Command.Tools.Host
import Dilemma.Number.Amount

/-! # Waiting

A tool that does nothing for a while. -/

namespace Dilemma.Sleep

/-! ## Spans -/

/-- The length of a unit in seconds. -/
def unit? : List Char → Option Nat
  | [] | ['s'] => some 1
  | ['m'] => some 60
  | ['h'] => some 3600
  | ['d'] => some 86400
  | _ => none

/-- A span without an end counts as one that is longer than any limit. -/
def spanOf (amount : Amount) (unit : Nat) : Duration :=
  match amount with
  | .quotient numerator denominator => ⟨numerator * unit * 1000000000 / denominator⟩
  | .infinite => Execution.endless.duration

/-- A number that may have a sign, and perhaps a unit. Of the negative ones
only zero will do. -/
def duration? (text : String) : Option Duration := do
  let (negative, unsigned) := match text.toList with
    | '-' :: rest => (true, rest)
    | '+' :: rest => (false, rest)
    | rest => (false, rest)
  let (amount, rest) ← Amount.read? unsigned
  let duration := spanOf amount (← unit? rest)
  if negative ∧ amount ≠ .quotient 0 1 then none else some duration

example : duration? "1.5" = some ⟨1500000000⟩ := by decide +kernel
example : duration? "0x3" = some (.ofSeconds 3) := by decide +kernel

/-! ## The tool -/

/-- What is not printed is shown by a letter or by its code in three digits,
and quotation marks and backslashes are protected. -/
def quotedChar (char : Char) : List Char :=
  match char with
  | '\'' | '\\' => ['\\', char]
  | '\x07' => ['\\', 'a']
  | '\x08' => ['\\', 'b']
  | '\x0c' => ['\\', 'f']
  | '\n' => ['\\', 'n']
  | '\r' => ['\\', 'r']
  | '\t' => ['\\', 't']
  | '\x0b' => ['\\', 'v']
  | char =>
      if ' ' ≤ char ∧ char ≤ '~' then [char]
      else
        let code := Nat.toDigits 8 char.toNat
        '\\' :: List.replicate (3 - code.length) '0' ++ code

def quoted (text : String) : String :=
  String.ofList ('\'' :: text.toList.flatMap quotedChar ++ ['\''])

/-- Why no spans are read. -/
inductive Refusal where
  | complaint (text : String)
  /-- The tool tells something about itself. -/
  | about
  deriving DecidableEq, Repr

/-- An option of more than one letter, which can be cut short. -/
def longOption (argument : String) (name : List Char) : Refusal :=
  let begun := name.takeWhile (· ≠ '=')
  match ["help", "version"].find? fun word => begun.isPrefixOf word.toList with
  | some word =>
      if begun.isEmpty then
        .complaint s!"option '{argument}' is ambiguous; possibilities: '--help' '--version'"
      else if name.contains '=' then .complaint s!"option '--{word}' doesn't allow an argument"
      else .about
  | none => .complaint s!"unrecognized option '{argument}'"

/-- What does not look like an option, and everything behind two hyphens. An
option leads to no spans. -/
def operands : List String → Except Refusal (List String)
  | [] => .ok []
  | argument :: rest =>
      match argument.toList with
      | ['-', '-'] => .ok rest
      | '-' :: '-' :: name => .error (longOption argument name)
      | '-' :: letter :: _ => .error (.complaint s!"invalid option -- '{letter}'")
      | _ => (operands rest).map (argument :: ·)

/-- The spans together, or all that are none. -/
def program (name : String) : Tool := fun arguments _ =>
  let fail (complaints : List String) : Execution :=
    .ofFailure 1 (String.join (complaints.map fun text => s!"{name}: {text}\n") ++
      s!"Try '{name} --help' for more information.\n")
  match operands arguments with
  | .error (.complaint text) => fail [text]
  | .error .about => .ofOutput s!"Usage: {name} NUMBER[SUFFIX]...\n"
  | .ok [] => fail ["missing operand"]
  | .ok texts =>
      let unknown := texts.filter fun text => (duration? text).isNone
      if unknown.isEmpty then
        let total := (texts.filterMap duration?).foldl (· + ·.nanoseconds) 0
        ⟨0, "", "", ⟨total⟩⟩
      else fail (unknown.map fun text => s!"invalid time interval {quoted text}")

example : program "sleep" ["x"] "" = .ofFailure 1
    "sleep: invalid time interval 'x'\nTry 'sleep --help' for more information.\n" := by
  decide +kernel

end Dilemma.Sleep
