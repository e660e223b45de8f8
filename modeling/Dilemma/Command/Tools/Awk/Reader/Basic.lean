import Dilemma.Command.Tools.Awk.Program
import Dilemma.Command.Tools.Awk.Token

/-! # Reading tokens

Reading takes tokens from the front of a list. What is wrong is written down
on the way, so that much can be said about a program at once. -/

namespace Dilemma.Awk

/-- What a name stands for throughout a program. -/
inductive NameKind where
  | value
  | array
  | function
  deriving DecidableEq, Repr

def NameKind.shown : NameKind → String
  | value => "variable"
  | array => "array"
  | function => "function"

/-- What a function is given: a name by itself may be that of an array. -/
inductive Given where
  | name (name : String)
  | parameter (kind : Option NameKind)
  | value
  deriving DecidableEq, Repr

/-- A call of a function of the program, in a line of it. -/
structure CallSite where
  name : String
  line : Nat
  given : List Given
  deriving DecidableEq, Repr

/-- Something to say about a program. -/
inductive Complaint where
  | inLine (line : Nat) (message : String)
  /-- What concerns a single character is said without the file. -/
  | ofChar (line : Nat) (message : String)
  deriving DecidableEq, Repr

/-- The complaint about a program in a file, or in none. -/
def Complaint.text (file : Option String) : Complaint → String
  | inLine line message =>
      let place := match file with
        | some file => s!"{file}: "
        | none => ""
      s!"{place}line {line}: {message}"
  | ofChar line message => s!"{line}: {message}"

/-- What has been read so far. -/
structure Progress where
  /-- The tokens that have not been read. -/
  tokens : List Token
  line : Nat
  parentheses : Nat
  braces : Nat
  /-- The next token follows a closing mark that has been left out. -/
  isStranded : Bool
  /-- So many tokens have to be read before a misplaced one is told. -/
  muted : Nat
  /-- What is read belongs to something that is done for records. -/
  onRecord : Bool
  /-- So many loops are around what is read. -/
  loops : Nat
  /-- What each name stands for. -/
  kinds : List (String × NameKind)
  /-- The parameters of the function that is being read, and what they stand
  for as far as that is known. -/
  parameters : List (String × Option NameKind)
  /-- What is read belongs to a function. -/
  inFunction : Bool
  /-- The functions whose definitions have been read, with what their
  parameters stand for. -/
  defined : List (String × List (Option NameKind))
  /-- The calls that have to be looked at in the end, latest first. -/
  calls : List CallSite
  /-- What is wrong, latest first. -/
  faults : List Complaint

namespace Progress

/-- The names that have a kind from the beginning. -/
def knownNames : List (String × NameKind) :=
  [("ARGV", .array), ("ENVIRON", .array)] ++
    ["ARGC", "CONVFMT", "FILENAME", "FNR", "FS", "NF", "NR", "OFMT", "OFS", "ORS", "RLENGTH",
     "RS", "RSTART", "SUBSEP"].map (·, .value)

/-- Count a token that has been passed. -/
def pass (progress : Progress) : Token → Progress
  | .mark "(" => { progress with parentheses := progress.parentheses + 1 }
  | .mark ")" => { progress with parentheses := progress.parentheses - 1 }
  | .mark "\x7b" => { progress with braces := progress.braces + 1 }
  | .mark "\x7d" => { progress with braces := progress.braces - 1 }
  | .lineEnd => { progress with line := progress.line + 1 }
  | _ => progress

/-- A closing mark that nothing has opened. -/
def isSurplus (progress : Progress) : Token → Bool
  | .mark ")" => progress.parentheses = 0
  | .mark "\x7d" => progress.braces = 0
  | _ => false

def tell (progress : Progress) (message : String) : Progress :=
  { progress with faults := .inLine progress.line message :: progress.faults }

/-- What is wrong with a token by itself. -/
def ownFault? : Token → Option String
  | .pattern source =>
      match Matcher.parseLenient source with
      | .ok _ => none
      | .error error => some (patternComplaint error source)
  | _ => none

def kind? (progress : Progress) (name : String) : Option NameKind :=
  (progress.kinds.find? (·.1 = name)).map (·.2)

/-- A name is that of a function if a parenthesis follows where it comes up
first. From then on it is one everywhere, but not the other way round. -/
def resolve (progress : Progress) (token : Token) : Progress × Token :=
  let isParameter (name : String) : Bool := progress.parameters.any (·.1 = name)
  match token with
  | .call name =>
      if isParameter name then (progress, .name name)
      else match progress.kind? name with
        | none => ({ progress with kinds := (name, .function) :: progress.kinds }, token)
        | some .function => (progress, token)
        | some _ => (progress, .name name)
  | .name name =>
      if ¬ isParameter name ∧ progress.kind? name = some .function then (progress, .call name)
      else (progress, token)
  | token => (progress, token)

/-- Go to some tokens, without the surplus marks in front of them. -/
def goTo (progress : Progress) : List Token → Progress
  | [] => { progress with tokens := [] }
  | token :: rest =>
      if progress.isSurplus token then
        ({ progress with isStranded := true }.tell s!"extra '{token.shown}'").goTo rest
      else
        let (progress, token) := progress.resolve token
        let progress := { progress with tokens := token :: rest }
        match ownFault? token with
        | some message => progress.tell message
        | none => progress

/-- Leave the next token behind. -/
def advance (progress : Progress) : Progress :=
  match progress.tokens with
  | [] => progress
  | token :: rest => ({ progress with isStranded := false }.pass token).goTo rest

def start (tokens : List Token) : Progress :=
  Progress.goTo ⟨[], 1, 0, 0, false, 0, false, 0, knownNames, [], false, [], [], []⟩ tokens

example : (start [.mark ")", .name "x"]).faults = [.inLine 1 "extra ')'"] := by decide +kernel

end Progress

/-- Why reading breaks off: the next token has no place where it stands, or
nothing more can be read at all. -/
inductive Obstacle where
  | misplaced
  | final
  deriving DecidableEq, Repr

abbrev Reading := ExceptT Obstacle (StateM Progress)

def fail {α : Type} : Reading α := throw .misplaced

/-- Say what is wrong with what has been read, and go on. -/
def complain (message : String) : Reading Unit := modify (·.tell message)

def peek : Reading (Option Token) := return (← get).tokens.head?

def skip : Reading Unit :=
  modify fun progress => { progress.advance with muted := progress.muted - 1 }

def nextIs (token : Token) : Reading Bool := do
  return (← peek) = some token

def expect (mark : String) : Reading Unit := do
  if ← nextIs (.mark mark) then skip else fail

/-- Take a token if it comes next. -/
def take (token : Token) : Reading Bool := do
  if ← nextIs token then
    skip
    return true
  else return false

/-- A name is used for a kind of thing. Its first use decides. -/
def useName (name : String) (kind : NameKind) : Reading Unit := do
  let progress ← get
  match progress.parameters.find? (·.1 = name), progress.kind? name with
  | some (_, none), _ =>
      set { progress with
        parameters := progress.parameters.map fun (other, known) =>
          if other = name then (other, some kind) else (other, known) }
  | some (_, some decided), _ =>
      if decided ≠ kind then complain s!"illegal reference to local {decided.shown} {name}"
  | none, none => set { progress with kinds := (name, kind) :: progress.kinds }
  | none, some decided =>
      if decided ≠ kind then complain s!"illegal reference to {decided.shown} {name}"

def expectName (kind : NameKind) : Reading String := do
  match ← peek with
  | some (.name name) =>
      skip
      useName name kind
      return name
  | _ => fail

/-! ## Calls -/

/-- What a name that is given to a function stands for. -/
def givenName (name : String) : Reading Given := do
  match (← get).parameters.find? (·.1 = name) with
  | some (_, kind) => return .parameter kind
  | none => return .name name

/-- What something given stands for, as far as that is known. -/
def Given.kind? (progress : Progress) : Given → Option NameKind
  | .value => some .value
  | .parameter kind => kind
  | .name word => progress.kind? word

/-- Say something about a line that has been passed. -/
def complainAt (line : Nat) (message : String) : Reading Unit :=
  modify fun progress => { { progress with line }.tell message with line := progress.line }

/-- What a call gives has to be what the parameters stand for. A name that
nothing is known of stands for the same from then on. `index` is the number of
arguments that have been passed. -/
def checkGiven (site : CallSite) : (index : Nat) → List Given → List (Option NameKind) →
    Reading Unit
  | index, given :: rest, kind :: kinds => do
      let actual := Given.kind? (← get) given
      match given, actual, kind with
      | .name name, none, some kind => useName name kind
      | _, some actual, some kind =>
          if actual ≠ kind then
            complainAt site.line s!"type error in arg({index + 1}) in call to {site.name}"
      | _, _, _ => return ()
      checkGiven site (index + 1) rest kinds
  | _, _, _ => return ()

/-- A function has at most as many arguments as parameters. -/
def checkCount (site : CallSite) (count : Nat) : Reading Bool := do
  if count < site.given.length then
    complainAt site.line s!"too many arguments in call to {site.name}"
    return false
  else return true

/-- A call of a function that is known is looked at at once, another in the
end. -/
def noteCall (site : CallSite) : Reading Unit := do
  let progress ← get
  match progress.defined.find? (·.1 = site.name) with
  | none => set { progress with calls := site :: progress.calls }
  | some (_, kinds) => if ← checkCount site kinds.length then checkGiven site 0 site.given kinds

/-- Look at calls; those that can be carried out are left. -/
def checkCalls : List CallSite → Reading (List CallSite)
  | [] => return []
  | site :: rest => do
      match (← get).defined.find? (·.1 = site.name) with
      | none =>
          complain s!"function {site.name} never defined"
          checkCalls rest
      | some (_, kinds) =>
          if ← checkCount site kinds.length then return site :: (← checkCalls rest)
          else
            modify fun progress => { progress with line := site.line }
            checkCalls rest

/-- Look at the calls that have not been looked at before, if nothing else is
wrong. -/
def checkNotedCalls : Reading Unit := do
  if ¬ (← get).faults.isEmpty then return ()
  let sites ← checkCalls (← get).calls
  for site in sites do
    let kinds := (((← get).defined.find? (·.1 = site.name)).map (·.2)).getD []
    checkGiven site 0 site.given kinds

/-! ## Loops and lines -/

/-- Read something inside of a loop. -/
def withinLoop {α : Type} (read : Reading α) : Reading α := do
  modify fun progress => { progress with loops := progress.loops + 1 }
  let result ← read
  modify fun progress => { progress with loops := progress.loops - 1 }
  return result

/-- A jump out of a loop needs one around it. That is told only if nothing else
is wrong. -/
def checkLoopJump (name : String) : Reading Unit := do
  let progress ← get
  if progress.loops = 0 ∧ progress.faults.isEmpty then
    complain s!"{name} statement outside of loop"

/-- A jump to another record needs one to leave. -/
def checkRecordJump (name : String) : Reading Unit := do
  if ¬ (← get).onRecord then complain s!"improper use of {name}"

/-- Ends of lines are nothing, but not behind a mark that has been left out. -/
def skipLineEnds : Reading Unit := do
  let count := ((← get).tokens.takeWhile (· = .lineEnd)).length
  for _ in List.range count do
    if ¬ (← get).isStranded then skip

/-- After some marks a program can go on in the next line. -/
def expectOpen (mark : String) : Reading Unit := do
  expect mark
  skipLineEnds

/-- Here a list of items ends. -/
def endsItems : Option Token → Bool
  | none | some .lineEnd => true
  | some (.mark value) => value ∈ [";", "\x7d", ">", ">>", "|"]
  | _ => false

/-! ## Obstacles -/

/-- The marks and ends that show that a parenthesis has not been closed. -/
def showsMissing : Option Token → Bool
  | none | some .lineEnd | some (.mark ";") | some (.mark "\x7d") => true
  | _ => false

/-- What shows that a brace has not been closed. -/
def beginsItem : Option Token → Bool
  | none | some (.keyword "BEGIN") | some (.keyword "END") => true
  | _ => false

def shownNext : Option Token → String
  | none => "end of file"
  | some token => token.shown

/-- Say why the next token is misplaced, unless that has just been said of
another. -/
def tellMisplaced : Reading Unit := do
  let progress ← get
  let next := progress.tokens.head?
  match next with
  | some (.broken message) =>
      complain message
      throw .final
  | some (.unexpected message) =>
      if progress.muted = 0 then
        set { progress with faults := .ofChar progress.line message :: progress.faults }
  | next =>
      if 0 < progress.muted then return ()
      else if 0 < progress.parentheses ∧ showsMissing next then
        set { progress.tell s!"missing ) near {shownNext next}" with parentheses := 0 }
      else if 0 < progress.braces ∧ beginsItem next then
        set { progress.tell s!"missing \x7d near {shownNext next}" with braces := 0 }
      else complain s!"syntax error at or near {shownNext next}"
  if next.isNone then throw .final

/-- Leave tokens out up to one that is expected, which has to come. `fuel`
bounds their number. -/
def leaveOutTo (isExpected : Token → Bool) : (fuel : Nat) → Reading Unit
  | 0 => throw .final
  | fuel + 1 => do
      match ← peek with
      | none => throw .final
      | some (.broken message) =>
          complain message
          throw .final
      | some token =>
          if isExpected token then return ()
          else
            modify Progress.advance
            leaveOutTo isExpected fuel

/-- Read something. If that fails, leave tokens out up to one that is expected,
and go on from there. -/
def orElseFrom {α : Type} (isExpected : Token → Bool) (read recovered : Reading α) : Reading α := do
  try read
  catch
    | .final => throw .final
    | .misplaced =>
        tellMisplaced
        leaveOutTo isExpected ((← get).tokens.length + 1)
        recovered

end Dilemma.Awk
