import Dilemma.Chance.Fingerprint
import Dilemma.Chance.Stream
import Dilemma.Command.Argument
import Dilemma.Command.Files
import Dilemma.Command.Invocation
import Dilemma.Command.LogFile
import Dilemma.Command.Process
import Dilemma.Command.Program
import Dilemma.Command.Run
import Dilemma.Command.Tools
import Dilemma.Command.Tools.Awk
import Dilemma.Command.Tools.Awk.Draws
import Dilemma.Command.Tools.Awk.Evaluation
import Dilemma.Command.Tools.Awk.Exchange
import Dilemma.Command.Tools.Awk.Format
import Dilemma.Command.Tools.Awk.Machine
import Dilemma.Command.Tools.Awk.Moment
import Dilemma.Command.Tools.Awk.Number
import Dilemma.Command.Tools.Awk.Program
import Dilemma.Command.Tools.Awk.Reader
import Dilemma.Command.Tools.Awk.Reader.Basic
import Dilemma.Command.Tools.Awk.Reader.Expression
import Dilemma.Command.Tools.Awk.Reader.Statement
import Dilemma.Command.Tools.Awk.Record
import Dilemma.Command.Tools.Awk.Running
import Dilemma.Command.Tools.Awk.Separator
import Dilemma.Command.Tools.Awk.Table
import Dilemma.Command.Tools.Awk.Token
import Dilemma.Command.Tools.Awk.Value
import Dilemma.Command.Tools.Host
import Dilemma.Command.Tools.Pattern.Basic
import Dilemma.Command.Tools.Pattern.Lenient
import Dilemma.Command.Tools.Pattern.Matcher
import Dilemma.Command.Tools.Pattern.Matching
import Dilemma.Command.Tools.Pattern.Network
import Dilemma.Command.Tools.Pattern.NodeSet
import Dilemma.Command.Tools.Pattern.Plan
import Dilemma.Command.Tools.Pattern.Reader
import Dilemma.Command.Tools.Pattern.Recall
import Dilemma.Command.Tools.Pattern.Replacement
import Dilemma.Command.Tools.Pattern.Sifting
import Dilemma.Command.Tools.Pattern.Walk
import Dilemma.Command.Tools.Sed
import Dilemma.Command.Tools.Sed.Editing
import Dilemma.Command.Tools.Sed.Escape
import Dilemma.Command.Tools.Sed.Input
import Dilemma.Command.Tools.Sed.Reader
import Dilemma.Command.Tools.Sed.Script
import Dilemma.Command.Tools.Shell
import Dilemma.Command.Tools.Shell.Line
import Dilemma.Command.Tools.Sleep
import Dilemma.Duration
import Dilemma.Game.Move
import Dilemma.Game.Payoff
import Dilemma.Game.Situation
import Dilemma.Interpretation.Cache
import Dilemma.Interpretation.Interpreter
import Dilemma.Interpretation.Key
import Dilemma.Interpretation.Recognizer
import Dilemma.Interpretation.Script
import Dilemma.Interpretation.Translator
import Dilemma.Json.Reader
import Dilemma.Json.Value
import Dilemma.Json.Writer
import Dilemma.Main
import Dilemma.Number.Amount
import Dilemma.Number.Binary64
import Dilemma.Number.Decimal
import Dilemma.Number.Elementary
import Dilemma.Number.Places
import Dilemma.Number.Power
import Dilemma.Play.Match
import Dilemma.Play.Round
import Dilemma.Rule.Basic
import Dilemma.Rule.Checking
import Dilemma.Rule.Draft
import Dilemma.Rule.Evaluation
import Dilemma.Rule.Text
import Dilemma.Rule.Vocabulary
import Dilemma.Settings
import Dilemma.Strategy.Competitor
import Dilemma.Strategy.Decision
import Dilemma.Strategy.Logic
import Dilemma.Strategy.Template
import Dilemma.Text.Alphanumeric
import Dilemma.Text.AlphanumericTable
import Dilemma.Text.Blank
import Dilemma.Text.CaseTable
import Dilemma.Text.CodeRange
import Dilemma.Text.Integer
import Dilemma.Text.Lines
import Dilemma.Text.Lowercase
import Dilemma.Text.Octets
import Dilemma.Text.Padding
import Dilemma.Tournament.NameMap
import Dilemma.Tournament.Pairing
import Dilemma.Tournament.Report
import Dilemma.Tournament.Run
import Dilemma.Tournament.Setup
import Dilemma.Tournament.Standing
import Dilemma.Tournament.Table
import Dilemma.Wire.Answer
import Dilemma.Wire.File
import Dilemma.Wire.Play
import Dilemma.Wire.Report
import Dilemma.Wire.Rule
import Dilemma.Proofs.Rule.Lowering
import Dilemma.Proofs.Rule.Safety
import Dilemma.Proofs.Rule.Acceptance
import Dilemma.Proofs.Rule.Meaning
import Dilemma.Proofs.Play.Rounds
import Dilemma.Proofs.Play.Mirror
import Dilemma.Proofs.Tournament.Field
import Dilemma.Proofs.Tournament.Schedule
import Dilemma.Proofs.Tournament.Standings
import Dilemma.Proofs.Tournament.Completion
import Dilemma.Proofs.Tournament.Credits
import Dilemma.Proofs.Tournament.Meetings
import Dilemma.Proofs.Tournament.Recording
import Dilemma.Proofs.Tournament.Reordering
import Dilemma.Proofs.Interpretation.Lookup
import Dilemma.Proofs.Interpretation.Interleaving
import Dilemma.Proofs.Interpretation.Agreement
import Dilemma.Proofs.Interpretation.Simulation
import Dilemma.Proofs.Interpretation.Consultation
import Dilemma.Proofs.Interpretation.Budget
import Dilemma.Proofs.Interpretation.Worker
import Dilemma.Proofs.Interpretation.Steadiness
import Dilemma.Proofs.Tournament.Batch
import Dilemma.Proofs.Tournament.Scheduling
import Dilemma.Proofs.Tournament.Refusal
import Dilemma.Proofs.Play.Namelessness
import Dilemma.Proofs.Interpretation.Backing
import Dilemma.Proofs.Tournament.Courses
import Dilemma.Proofs.Tournament.Replay
import Dilemma.Proofs.Tournament.Level
import Dilemma.Proofs.Number.Decimal
import Dilemma.Proofs.Rule.Tokens
import Dilemma.Proofs.Rule.Reading
import Dilemma.Proofs.Rule.Likeness
import Dilemma.Proofs.Number.Range
import Dilemma.Proofs.Number.Whole
import Dilemma.Proofs.Json.String
import Dilemma.Proofs.Json.Number
import Dilemma.Proofs.Json.Notation
import Dilemma.Proofs.Json.Written
import Dilemma.Proofs.Json.Bounds
import Dilemma.Proofs.Json.Records
import Dilemma.Proofs.Wire.Rule
import Dilemma.Proofs.Wire.Accepted
import Dilemma.Proofs.Wire.Report
import Dilemma.Proofs.Rule.Reliability
import Dilemma.Proofs.Interpretation.Recognition
import Dilemma.Proofs.Interpretation.Offline
import Dilemma.Proofs.Play.Exchange
import Dilemma.Proofs.Tournament.Words
import Dilemma.Proofs.Tournament.Numbering
import Dilemma.Proofs.Play.Course
import Dilemma.Proofs.Play.Accounts
import Dilemma.Proofs.Play.Anomalies
import Dilemma.Proofs.Tournament.Anomalies
import Dilemma.Proofs.Play.Margin
import Dilemma.Proofs.Tournament.Newcomer
import Dilemma.Proofs.Number.Counting
import Dilemma.Proofs.Interpretation.Phrases
import Dilemma.Proofs.Interpretation.Ledger
import Dilemma.Proofs.Tournament.Audit
import Dilemma.Proofs.Interpretation.Copying
import Dilemma.Proofs.Play.Debt
import Dilemma.Proofs.Play.Indifference
import Dilemma.Proofs.Play.Peace
import Dilemma.Proofs.Tournament.Peace
import Dilemma.Proofs.Text.Lowercase
import Dilemma.Proofs.Text.Words
import Dilemma.Proofs.Interpretation.Normalization
import Dilemma.Proofs.Interpretation.Spelling
import Dilemma.Proofs.Interpretation.Scripting
import Dilemma.Proofs.Chance.Streams
import Dilemma.Proofs.Chance.Fingerprints
import Dilemma.Proofs.Number.Signs
import Dilemma.Proofs.Rule.Signs
import Dilemma.Proofs.Interpretation.Equality
import Dilemma.Proofs.Play.Bounds
import Dilemma.Proofs.Tournament.Bounds
import Dilemma.Proofs.Wire.File
import Dilemma.Proofs.Command.Run
import Dilemma.Proofs.Command.Process
import Dilemma.Proofs.Tournament.Descent
import Dilemma.Proofs.Text.ByteOrder
import Dilemma.Proofs.Text.Lines
import Dilemma.Proofs.Tournament.Table
