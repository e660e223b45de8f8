import Dilemma.Proofs.Wire.Report
import Dilemma.Wire.File

/-! # Texts that are no tournament files

A text has to be JSON, its keys have to be those of a tournament file, the strategies have to be
there, and a payoff has to be in the order of a dilemma. -/

namespace Dilemma

namespace Json

variable {key : String} {value : Json} {members : List (String × Json)}

end Json

namespace TournamentFile

variable {numbers : Json.NumberReader} {text : String} {members : List (String × Json)}
  {file : TournamentFile}

/-- The file is what stands under the keys. Each key comes at most once, and there are no
others. -/
structure Spelled (members : List (String × Json)) (file : TournamentFile) : Prop where
  known : ∀ member ∈ members, member.1 ∈ fieldNames
  once : ∀ name ∈ fieldNames, (Json.valuesOf name members).length ≤ 1
  rounds : optional? Json.int64? (Json.valuesOf "rounds_per_match" members).head? =
    some file.rounds
  payoff : optional? Payoff.ofJson? (Json.valuesOf "payoff" members).head? = some file.payoff
  entries : ∃ strategies, (Json.valuesOf "strategies" members).head? = some strategies ∧
    strategies.list? Entry.ofJson? = some file.entries

/-- Some of the ways in which a text fails to be a tournament file. -/
inductive Malformed (numbers : Json.NumberReader) (text : String) : Prop where
  | noJson (failed : Json.parse? numbers text = none)
  | unknownKey {members : List (String × Json)} {key : String} {value : Json}
      (read : Json.parse? numbers text = some (.object members)) (there : (key, value) ∈ members)
      (unknown : key ∉ fieldNames)
  | noStrategies {members : List (String × Json)}
      (read : Json.parse? numbers text = some (.object members))
      (missing : ∀ member ∈ members, member.1 ≠ "strategies")
  | unordered {members : List (String × Json)} {payoff : Json}
      {temptation reward punishment sucker : Int32}
      (read : Json.parse? numbers text = some (.object members))
      (there : ("payoff", payoff) ∈ members)
      (values : payoff.fields? ["temptation", "reward", "punishment", "sucker"] =
        some [some (.integer temptation.toInt), some (.integer reward.toInt),
          some (.integer punishment.toInt), some (.integer sucker.toInt)])
      (unordered : ¬ (reward < temptation ∧ punishment < reward ∧ sucker < punishment))

end TournamentFile

end Dilemma
