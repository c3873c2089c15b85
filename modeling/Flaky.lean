import Flaky.Command
import Flaky.Command.Words
import Flaky.CommandLine
import Flaky.CommandLine.Arguments
import Flaky.CommandLine.Console
import Flaky.CommandLine.ExitCode
import Flaky.CommandLine.Failure
import Flaky.CommandLine.LogFilter
import Flaky.CommandLine.Options
import Flaky.Engine
import Flaky.Engine.Command
import Flaky.Engine.Event
import Flaky.Engine.Replay
import Flaky.ExecutionId
import Flaky.Failure
import Flaky.FailureCap
import Flaky.Files.Disk
import Flaky.Files.IoError
import Flaky.Filter
import Flaky.Glob
import Flaky.Glob.Language
import Flaky.GroupedTests
import Flaky.Instrumentation
import Flaky.Instrumentation.Command
import Flaky.Json
import Flaky.Json.Decode
import Flaky.Json.Raw
import Flaky.Log
import Flaky.Main
import Flaky.Number.Binary64
import Flaky.Number.Decimal
import Flaky.Number.Power
import Flaky.OrderedSet
import Flaky.Path
import Flaky.Perturbation
import Flaky.Phase
import Flaky.Process
import Flaky.Proofs.Command
import Flaky.Proofs.CommandLine.Directories
import Flaky.Proofs.CommandLine.ExitCode
import Flaky.Proofs.CommandLine.FlakyTests
import Flaky.Proofs.CommandLine.Request
import Flaky.Proofs.CommandLine.RunSettings
import Flaky.Proofs.Decimal
import Flaky.Proofs.Disk
import Flaky.Proofs.EngineOutput
import Flaky.Proofs.EngineOutput.Cut
import Flaky.Proofs.EngineOutput.Fields
import Flaky.Proofs.ExecutionId
import Flaky.Proofs.FailureCap
import Flaky.Proofs.Filter
import Flaky.Proofs.Glob.Characters
import Flaky.Proofs.Glob.Spelling
import Flaky.Proofs.Glob.Words
import Flaky.Proofs.GroupedTests
import Flaky.Proofs.GroupedTests.Order
import Flaky.Proofs.Json.Context
import Flaky.Proofs.Json.Members
import Flaky.Proofs.Json.Reading
import Flaky.Proofs.Json.Spelling
import Flaky.Proofs.Json.Whole
import Flaky.Proofs.Lines
import Flaky.Proofs.MatrixTable
import Flaky.Proofs.Parameters
import Flaky.Proofs.Path
import Flaky.Proofs.ReportOrder
import Flaky.Proofs.Reports
import Flaky.Proofs.Run.Abreast
import Flaky.Proofs.Run.Artifacts
import Flaky.Proofs.Run.Calls
import Flaky.Proofs.Run.Course
import Flaky.Proofs.Run.Deeds
import Flaky.Proofs.Run.Diary
import Flaky.Proofs.Run.EngineFailure
import Flaky.Proofs.Run.EventLog
import Flaky.Proofs.Run.Events
import Flaky.Proofs.Run.History
import Flaky.Proofs.Run.Limits
import Flaky.Proofs.Run.LogFile
import Flaky.Proofs.Run.Matrix
import Flaky.Proofs.Run.MatrixText
import Flaky.Proofs.Run.Mishaps
import Flaky.Proofs.Run.Phases
import Flaky.Proofs.Run.Replay
import Flaky.Proofs.Run.Rounds
import Flaky.Proofs.Run.Selected
import Flaky.Proofs.Run.Series
import Flaky.Proofs.Run.StopPolicy
import Flaky.Proofs.Run.SummaryNames
import Flaky.Proofs.Run.Unaffected
import Flaky.Proofs.Run.Verdict
import Flaky.Proofs.Run.Written
import Flaky.Proofs.RunLog
import Flaky.Proofs.RunLog.Attempts
import Flaky.Proofs.RunLog.Recovery
import Flaky.Proofs.SeedDerivation
import Flaky.Proofs.Settings.Acceptance
import Flaky.Proofs.Settings.Effective
import Flaky.Proofs.Settings.Layers
import Flaky.Proofs.Settings.Overlay
import Flaky.Proofs.Shell.Output
import Flaky.Proofs.Shell.Scripts
import Flaky.Proofs.Shell.Spawn
import Flaky.Proofs.Subtraction
import Flaky.Proofs.Suites
import Flaky.Proofs.SummaryText
import Flaky.Proofs.TallyCalls
import Flaky.Proofs.TallyHistory
import Flaky.Proofs.TallyReports
import Flaky.Proofs.TestNames
import Flaky.Proofs.Toml
import Flaky.Proofs.Trim
import Flaky.Proofs.Utf8
import Flaky.Proofs.Uuid
import Flaky.Regex
import Flaky.Regex.Brackets
import Flaky.Regex.Form
import Flaky.Regex.Lexeme
import Flaky.Regex.Property
import Flaky.Report
import Flaky.Report.Junit
import Flaky.Report.Markdown
import Flaky.Report.Matrix
import Flaky.Report.Summary
import Flaky.Round
import Flaky.Round.Record
import Flaky.Round.Selection
import Flaky.Round.Series
import Flaky.Run
import Flaky.Run.Event
import Flaky.Run.EventLog
import Flaky.Run.Progress
import Flaky.Run.Status
import Flaky.RunDirectory
import Flaky.RunLog
import Flaky.Seed
import Flaky.Settings
import Flaky.Settings.Datum
import Flaky.Settings.Dialect
import Flaky.Settings.Effective
import Flaky.Settings.Layer
import Flaky.Settings.Profile
import Flaky.Settings.Values
import Flaky.Shell
import Flaky.Shell.Arithmetic
import Flaky.Shell.Builtin
import Flaky.Shell.Catalog
import Flaky.Shell.Condition
import Flaky.Shell.Expansion
import Flaky.Shell.Field
import Flaky.Shell.Format
import Flaky.Shell.Machine
import Flaky.Shell.Octets
import Flaky.Shell.Pattern
import Flaky.Shell.Script
import Flaky.Shell.Search
import Flaky.Shell.Spawn
import Flaky.Shell.Token
import Flaky.Shell.Utility
import Flaky.Shell.Utility.Files
import Flaky.Shell.Utility.Text
import Flaky.Shell.Wildcard
import Flaky.Tally
import Flaky.TestId
import Flaky.Text.Blank
import Flaky.Text.Decimal
import Flaky.Text.Letter
import Flaky.Text.Lines
import Flaky.Text.Plural
import Flaky.Text.Quoted
import Flaky.Text.Shapeless
import Flaky.Text.Terminal
import Flaky.Text.Utf8
import Flaky.Timestamp
import Flaky.Toml
import Flaky.Toml.Lexeme
import Flaky.Toml.Scalar
import Flaky.Toml.Section
import Flaky.Uuid
